import Mathlib.Data.Rat.Defs

namespace JwSwarm.Proto

/-! JSON documents as the wire libraries see them. A number remembers whether
its text was an integer of 64 bits or a floating-point literal. -/

inductive Number where
  | posInt (value : UInt64)
  | negInt (value : Int64)
  | float (value : ℚ)
  deriving DecidableEq

inductive Json where
  | null
  | bool (value : Bool)
  | number (value : Number)
  | string (value : String)
  | array (items : List Json)
  | object (fields : List (String × Json))

namespace Json

def get (document : Json) (key : String) : Option Json :=
  match document with
  | .object fields => (fields.find? fun field => field.1 == key).map Prod.snd
  | _ => none

def asStr : Json → Option String
  | .string value => some value
  | _ => none

def asBool : Json → Option Bool
  | .bool value => some value
  | _ => none

def asArray : Json → Option (List Json)
  | .array items => some items
  | _ => none

end Json

/-- The library that prints documents as text and parses them. -/
structure JsonText where
  print : Json → String
  parse : String → Option Json

end JwSwarm.Proto
