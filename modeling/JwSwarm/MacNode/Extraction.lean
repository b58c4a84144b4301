import Mathlib.Data.Rat.Lemmas
import Mathlib.Data.String.Basic
import JwSwarm.Proto.Message

namespace JwSwarm.MacNode

open Proto

/-! The payload as `AnyCodable` decodes it, and what the backend reads there. -/

inductive AnyValue where
  | bool (value : Bool)
  | int (value : Int64)
  | double (value : ℚ)
  | string (value : String)
  | array (items : List AnyValue)
  | dictionary (fields : List (String × AnyValue))
  | null

/-- `Int(value)`: the part before the point, and a trap when that is no
`Int64`. -/
def truncate (value : ℚ) : Option ℤ :=
  let whole := if 0 ≤ value then value.floor else value.ceil
  if -2 ^ 63 ≤ whole ∧ whole < 2 ^ 63 then some whole else none

/-- The double closest to an integer from 2⁶³ on, which is a multiple of 2048,
the even multiple when two are as close. -/
def nearestDouble (value : UInt64) : ℚ :=
  let quotient := value.toNat / 2048
  let rest := value.toNat % 2048
  if rest < 1024 ∨ (rest = 1024 ∧ quotient % 2 = 0) then 2048 * quotient
  else 2048 * (quotient + 1)

namespace AnyValue

/-- A literal with a point or an exponent is an `Int` too when its value is
one. -/
def ofNumber : Number → AnyValue
  | .posInt value =>
      if value.toNat < 2 ^ 63 then .int (.ofNat value.toNat)
      else .double (nearestDouble value)
  | .negInt value => .int value
  | .float value =>
      if value.den = 1 ∧ -2 ^ 63 ≤ value.num ∧ value.num < 2 ^ 63 then
        .int (.ofInt value.num)
      else .double value

mutual
def decode : Json → AnyValue
  | .null => .null
  | .bool value => .bool value
  | .number value => ofNumber value
  | .string value => .string value
  | .array items => .array (decodeItems items)
  | .object fields => .dictionary (decodeFields fields)
termination_by structural document => document

def decodeItems : List Json → List AnyValue
  | [] => []
  | item :: items => decode item :: decodeItems items
termination_by structural items => items

def decodeFields : List (String × Json) → List (String × AnyValue)
  | [] => []
  | field :: fields => decodeField field :: decodeFields fields
termination_by structural fields => fields

def decodeField : String × Json → String × AnyValue
  | (key, document) => (key, decode document)
termination_by structural field => field
end

def get (value : AnyValue) (key : String) : Option AnyValue :=
  match value with
  | .dictionary fields =>
      (fields.find? fun field => field.1 == key).map Prod.snd
  | _ => none

def asString : AnyValue → Option String
  | .string value => some value
  | _ => none

def asArray : AnyValue → Option (List AnyValue)
  | .array items => some items
  | _ => none

end AnyValue

def messageContent (message : AnyValue) : Option String :=
  ((message.get "content").bind AnyValue.asString).filter
    fun text => !text.isEmpty

def extractPrompt (payload : AnyValue) : String :=
  let chat := ((payload.get "messages").bind AnyValue.asArray).bind
    fun messages => messages.reverse.findSome? messageContent
  let prompt := ((payload.get "prompt").bind AnyValue.asString).filter
    fun text => !text.isEmpty
  chat.getD (prompt.getD "")

/-- `none` is a trap. -/
def extractMaxTokens (payload : AnyValue) : Option ℕ :=
  match payload.get "max_tokens" with
  | some (.int value) => some (max 1 (min 512 value.toInt)).toNat
  | some (.double value) =>
      (truncate value).map fun whole => (max 1 (min 512 whole)).toNat
  | _ => some 128

namespace AnyValue

private theorem decodeItems_eq_map (items : List Json) :
    decodeItems items = items.map decode := by
  induction items with
  | nil => rfl
  | cons item items ih => rw [decodeItems, ih, List.map_cons]

private theorem decodeFields_eq_map (fields : List (String × Json)) :
    decodeFields fields =
      fields.map fun field => (field.1, decode field.2) := by
  induction fields with
  | nil => rfl
  | cons field fields ih =>
      obtain ⟨key, document⟩ := field
      rw [decodeFields, decodeField, ih, List.map_cons]

theorem decode_number (number : Number) :
    (∃ value, decode (.number number) = .int value) ∨
      ∃ value, decode (.number number) = .double value := by
  rw [decode]
  cases number with
  | negInt value => exact .inl ⟨value, rfl⟩
  | posInt value =>
      simp only [ofNumber]
      split
      · exact .inl ⟨_, rfl⟩
      · exact .inr ⟨_, rfl⟩
  | float value =>
      simp only [ofNumber]
      split
      · exact .inl ⟨_, rfl⟩
      · exact .inr ⟨_, rfl⟩

theorem get_decode (document : Json) (key : String) :
    (decode document).get key = (document.get key).map decode := by
  cases document with
  | object fields =>
      rw [decode, get, Json.get, decodeFields_eq_map, List.find?_map,
        Option.map_map, Option.map_map]
      rfl
  | number number =>
      rcases decode_number number with ⟨value, same⟩ | ⟨value, same⟩
      · rw [same]
        rfl
      · rw [same]
        rfl
  | _ => rfl

theorem asString_decode (document : Json) :
    (decode document).asString = document.asStr := by
  cases document with
  | number number =>
      rcases decode_number number with ⟨value, same⟩ | ⟨value, same⟩
      · rw [same]
        rfl
      · rw [same]
        rfl
  | _ => rfl

theorem asArray_decode (document : Json) :
    (decode document).asArray = document.asArray.map (List.map decode) := by
  cases document with
  | number number =>
      rcases decode_number number with ⟨value, same⟩ | ⟨value, same⟩
      · rw [same]
        rfl
      · rw [same]
        rfl
  | array items => rw [decode, decodeItems_eq_map, asArray, Json.asArray,
      Option.map_some]
  | _ => rfl

end AnyValue

end JwSwarm.MacNode
