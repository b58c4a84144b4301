import Mathlib.Data.Rat.Defs
import Mathlib.Algebra.Order.Ring.Unbundled.Rat
import JwSwarm.Proto.Documents

namespace JwSwarm.Proto

/-! The keywords of JSON Schema, draft 7. A keyword that speaks of another type
of instance than the one at hand is satisfied. -/

/-- A schema, as the documents that are valid against it. -/
abbrev Schema := Json → Bool

def Number.toRat : Number → ℚ
  | .posInt value => value.toNat
  | .negInt value => value.toInt
  | .float value => value

namespace Schema

inductive TypeName where
  | object
  | array
  | string
  | number
  | integer

/-- `type`. An integer is any number without a fractional part. -/
def type : TypeName → Schema
  | .object, .object _ => true
  | .array, .array _ => true
  | .string, .string _ => true
  | .number, .number _ => true
  | .integer, .number value => value.toRat.den = 1
  | _, _ => false

def enum (values : List String) : Schema
  | .string value => values.contains value
  | _ => false

def const (value : String) : Schema
  | .string other => other == value
  | _ => false

def minimum (bound : ℚ) : Schema
  | .number value => bound ≤ value.toRat
  | _ => true

def maximum (bound : ℚ) : Schema
  | .number value => value.toRat ≤ bound
  | _ => true

def items (item : Schema) : Schema
  | .array items => items.all item
  | _ => true

def required (keys : List String) : Schema
  | .object fields => keys.all fun key => fields.any (·.1 == key)
  | _ => true

def property (key : String) (schema : Schema) : Schema
  | .object fields =>
      (fields.find? (·.1 == key)).all fun field => schema field.2
  | _ => true

def properties (schemas : List (String × Schema)) : Schema :=
  fun document => schemas.all fun (key, schema) => property key schema document

/-- `additionalProperties: false`, with the keys of `properties`. -/
def closed (keys : List String) : Schema
  | .object fields => fields.all fun field => keys.contains field.1
  | _ => true

def allOf (schemas : List Schema) : Schema :=
  fun document => schemas.all fun schema => schema document

/-- `if` and `then`. -/
def ifThen (condition consequence : Schema) : Schema :=
  fun document => !condition document || consequence document

/-- An object that has all its declared properties. -/
def object (schemas : List (String × Schema)) : Schema :=
  allOf [type .object, required (schemas.map Prod.fst), properties schemas]

end Schema

end JwSwarm.Proto
