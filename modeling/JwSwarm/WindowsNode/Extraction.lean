import Mathlib.Algebra.Order.Ring.Rat
import Mathlib.Tactic.NormNum
import JwSwarm.FleetManager.Enrollment
import JwSwarm.LinuxNode.Worker
import JwSwarm.MacNode.Extraction

namespace JwSwarm.WindowsNode

open Proto
open FleetManager.Enrollment (isWhiteSpace)

/-! What the backend reads from the payload of a prompt. -/

inductive InvalidOperation where
  | notAnObject

def isNullOrWhiteSpace (text : String) : Bool :=
  text.toList.all isWhiteSpace

/-- `TryGetProperty` throws when the message is no object. -/
def messageText (message : Json) : Except InvalidOperation (Option String) :=
  match message with
  | .object _ => .ok ((message.get "content").bind Json.asStr)
  | _ => .error .notAnObject

def readMessage (last : Option String) (message : Json) :
    Except InvalidOperation (Option String) := do
  match ← messageText message with
  | some text => .ok (if isNullOrWhiteSpace text then last else some text)
  | none => .ok last

def barePrompt (payload : Json) : String :=
  ((payload.get "prompt").bind Json.asStr).getD ""

def lastText (payload : Json) : Except InvalidOperation (Option String) :=
  match (payload.get "messages").bind Json.asArray with
  | some messages => messages.foldlM readMessage none
  | none => .ok none

def readPrompt (payload : Json) : Except InvalidOperation String := do
  match ← lastText payload with
  | some text => .ok text
  | none => .ok (barePrompt payload)

def extractPrompt (payload : Json) : String :=
  match readPrompt payload with
  | .ok text => text
  | .error _ => ""

/-- A literal with a point or an exponent is none. -/
def tryGetInt32 : Number → Option ℤ
  | .posInt value =>
      if value.toNat < 2 ^ 31 then some value.toNat else none
  | .negInt value =>
      if -2 ^ 31 ≤ value.toInt ∧ value.toInt < 2 ^ 31 then some value.toInt
      else none
  | .float _ => none

def maxTokens (payload : Json) : ℕ :=
  match payload.get "max_tokens" with
  | some (.number number) =>
      match tryGetInt32 number with
      | some value => (max 1 (min 512 value)).toNat
      | none => 128
  | _ => 128

def isObject : Json → Bool
  | .object _ => true
  | _ => false

def messages (payload : Json) : List Json :=
  ((payload.get "messages").bind Json.asArray).getD []

def texts (payload : Json) : List String :=
  (messages payload).filterMap LinuxNode.messageContent

/-- All messages are objects and the last text is not blank, or there is no
text; a blank one is as good as none if the bare prompt is the same. -/
def promptAlike (payload : Json) : Bool :=
  if (messages payload).all isObject then
    match (texts payload).getLast? with
    | none => true
    | some last => !isNullOrWhiteSpace last ||
        ((texts payload).all isNullOrWhiteSpace &&
          decide (barePrompt payload = last))
  else (texts payload).isEmpty && decide (barePrompt payload = "")

/-- No number, an integer from 0 to 2³¹ - 1, or a literal with a point whose
whole part is the default. (`negInt` holds negative integers only.) -/
def limitAlike (payload : Json) : Bool :=
  match payload.get "max_tokens" with
  | some (.number (.posInt value)) => decide (value.toNat < 2 ^ 31)
  | some (.number (.negInt value)) => decide (value.toInt = 128)
  | some (.number (.float value)) => decide (128 ≤ value ∧ value < 129)
  | _ => true

/-- The three nodes extract one prompt and one limit, and none traps. -/
structure ReadAlike (payload : Json) : Prop where
  macPrompt : MacNode.extractPrompt (.decode payload) =
    LinuxNode.extractPrompt payload
  windowsPrompt : extractPrompt payload = LinuxNode.extractPrompt payload
  macLimit : MacNode.extractMaxTokens (.decode payload) =
    some (LinuxNode.extractMaxTokens payload)
  windowsLimit : maxTokens payload = LinuxNode.extractMaxTokens payload
  range : 1 ≤ LinuxNode.extractMaxTokens payload ∧
    LinuxNode.extractMaxTokens payload ≤ 512

variable {payload : Json}

private theorem linux_prompt : LinuxNode.extractPrompt payload =
    (texts payload).getLast?.getD (barePrompt payload) := by
  rw [LinuxNode.extractPrompt, texts, messages, barePrompt]
  cases (payload.get "messages").bind Json.asArray with
  | none => rfl
  | some items =>
      rw [Option.getD_some, List.getLast?_filterMap]
      rfl

private theorem mac_messageContent (message : Json) :
    MacNode.messageContent (.decode message) =
      LinuxNode.messageContent message := by
  rw [MacNode.messageContent, LinuxNode.messageContent,
    MacNode.AnyValue.get_decode, Option.bind_map]
  congr 2
  funext document
  exact MacNode.AnyValue.asString_decode document

private theorem getD_filter_isEmpty (text : Option String) :
    (text.filter fun text => !text.isEmpty).getD "" = text.getD "" := by
  cases text with
  | none => rfl
  | some text =>
      by_cases empty : text = ""
      · subst empty
        rfl
      · rw [Option.filter_some_pos (by simpa using empty)]

private theorem mac_prompt : MacNode.extractPrompt (.decode payload) =
    LinuxNode.extractPrompt payload := by
  have strings (key : String) : ((MacNode.AnyValue.decode payload).get key).bind
      MacNode.AnyValue.asString = (payload.get key).bind Json.asStr := by
    rw [MacNode.AnyValue.get_decode, Option.bind_map]
    congr 1
    funext document
    exact MacNode.AnyValue.asString_decode document
  have arrays : ((MacNode.AnyValue.decode payload).get "messages").bind
      MacNode.AnyValue.asArray =
        ((payload.get "messages").bind Json.asArray).map
          (List.map MacNode.AnyValue.decode) := by
    rw [MacNode.AnyValue.get_decode, Option.bind_map, Option.map_bind]
    congr 1
    funext document
    exact MacNode.AnyValue.asArray_decode document
  rw [MacNode.extractPrompt, LinuxNode.extractPrompt, strings, arrays,
    getD_filter_isEmpty]
  cases (payload.get "messages").bind Json.asArray with
  | none => rfl
  | some items =>
      simp only [Option.map_some, Option.bind_some, ← List.map_reverse,
        List.findSome?_map]
      congr 2
      funext message
      exact mac_messageContent message

private theorem readMessage_object {message : Json}
    (object : isObject message = true) (last : Option String) :
    readMessage last message = .ok (((LinuxNode.messageContent message).filter
      fun text => !isNullOrWhiteSpace text).or last) := by
  cases message with
  | object fields =>
      have text : messageText (.object fields) =
          .ok (((Json.object fields).get "content").bind Json.asStr) := rfl
      rw [readMessage, text, LinuxNode.messageContent]
      cases ((Json.object fields).get "content").bind Json.asStr with
      | none => rfl
      | some text =>
          show Except.ok (if isNullOrWhiteSpace text then last else some text)
            = _
          congr 1
          by_cases empty : text = ""
          · subst empty
            rfl
          · rw [Option.filter_some_pos (by simpa using empty)]
            cases blank : isNullOrWhiteSpace text with
            | false =>
                rw [Option.filter_some_pos (by simp [blank])]
                rfl
            | true =>
                rw [Option.filter_some_neg (by simp [blank])]
                rfl
  | _ => cases object

private theorem readMessage_other {message : Json}
    (other : isObject message = false) (last : Option String) :
    readMessage last message = .error .notAnObject := by
  cases message with
  | object fields => cases other
  | _ => rfl

private theorem foldlM_readMessage (items : List Json) (last : Option String) :
    items.foldlM readMessage last =
      if items.all isObject then
        .ok (((items.filterMap LinuxNode.messageContent).filter
          fun text => !isNullOrWhiteSpace text).getLast?.or last)
      else .error .notAnObject := by
  induction items generalizing last with
  | nil => rfl
  | cons message items ih =>
      rw [List.foldlM_cons]
      cases object : isObject message with
      | false =>
          rw [readMessage_other object, List.all_cons, object]
          rfl
      | true =>
          rw [readMessage_object object]
          refine (ih _).trans ?_
          rw [List.all_cons, object, Bool.true_and, List.filterMap_cons]
          cases LinuxNode.messageContent message with
          | none => rfl
          | some text =>
              congr 2
              cases blank : isNullOrWhiteSpace text with
              | false =>
                  rw [List.filter_cons_of_pos (by simp [blank]),
                    List.getLast?_cons,
                    Option.filter_some_pos (by simp [blank])]
                  cases (List.filter (fun text => !isNullOrWhiteSpace text)
                    (items.filterMap LinuxNode.messageContent)).getLast? with
                  | none => rfl
                  | some other => rfl
              | true =>
                  rw [List.filter_cons_of_neg (by simp [blank]),
                    Option.filter_some_neg (by simp [blank])]
                  rfl

def visible (payload : Json) : List String :=
  (texts payload).filter fun text => !isNullOrWhiteSpace text

private theorem lastText_eq : lastText payload =
    if (messages payload).all isObject then
      .ok (visible payload).getLast?
    else .error .notAnObject := by
  rw [lastText, visible, texts, messages]
  cases (payload.get "messages").bind Json.asArray with
  | none => rfl
  | some items =>
      rw [Option.getD_some]
      refine (foldlM_readMessage items none).trans ?_
      rw [Option.or_none]

private theorem windows_prompt : extractPrompt payload =
    if (messages payload).all isObject then
      (visible payload).getLast?.getD (barePrompt payload)
    else "" := by
  rw [extractPrompt, readPrompt, lastText_eq]
  cases (messages payload).all isObject with
  | false => rfl
  | true =>
      cases (visible payload).getLast? with
      | none => rfl
      | some text => rfl

private theorem ne_empty_of_mem_texts {text : String}
    (member : text ∈ texts payload) : text ≠ "" := by
  obtain ⟨message, -, content⟩ := List.mem_filterMap.mp member
  have nonempty := (Option.filter_eq_some_iff.mp content).2
  simpa using nonempty

/-- With a blank last text Windows takes an earlier one or the bare prompt. -/
theorem blank_last_iff {last : String}
    (final : (texts payload).getLast? = some last)
    (blank : isNullOrWhiteSpace last = true) :
    (visible payload).getLast?.getD (barePrompt payload) = last ↔
      (texts payload).all isNullOrWhiteSpace = true ∧
        barePrompt payload = last := by
  cases seen : (visible payload).getLast? with
  | none =>
      have none : visible payload = [] := List.getLast?_eq_none_iff.mp seen
      have all : (texts payload).all isNullOrWhiteSpace = true := by
        rw [List.all_eq_true]
        intro text member
        simpa using List.filter_eq_nil_iff.mp none text member
      exact (and_iff_right all).symm
  | some other =>
      obtain ⟨member, nonblank⟩ :=
        List.mem_filter.mp (List.mem_of_getLast? seen)
      rw [Bool.not_eq_true'] at nonblank
      rw [Option.getD_some]
      apply iff_of_false
      · rintro rfl
        rw [blank] at nonblank
        cases nonblank
      · rintro ⟨all, -⟩
        rw [List.all_eq_true.mp all other member] at nonblank
        cases nonblank

private theorem visible_last {last : String}
    (final : (texts payload).getLast? = some last)
    (nonblank : isNullOrWhiteSpace last = false) :
    (visible payload).getLast? = some last := by
  obtain ⟨earlier, whole⟩ := List.getLast?_eq_some_iff.mp final
  rw [visible, whole, List.filter_append,
    List.filter_cons_of_pos (by simp [nonblank]), List.filter_nil]
  exact List.getLast?_concat

private theorem promptAlike_iff : promptAlike payload = true ↔
    extractPrompt payload = LinuxNode.extractPrompt payload := by
  rw [windows_prompt, linux_prompt, promptAlike]
  cases (messages payload).all isObject with
  | false =>
      simp only [Bool.false_eq_true, if_false, Bool.and_eq_true,
        List.isEmpty_iff, decide_eq_true_eq]
      cases final : (texts payload).getLast? with
      | none =>
          have nothing := List.getLast?_eq_none_iff.mp final
          exact (and_iff_right nothing).trans eq_comm
      | some last =>
          have member := List.mem_of_getLast? final
          apply iff_of_false
          · rintro ⟨nothing, -⟩
            rw [nothing] at member
            cases member
          · exact fun same => ne_empty_of_mem_texts member same.symm
  | true =>
      simp only [if_true]
      cases final : (texts payload).getLast? with
      | none =>
          have nothing := List.getLast?_eq_none_iff.mp final
          apply iff_of_true rfl
          rw [visible, nothing]
          rfl
      | some last =>
          cases blank : isNullOrWhiteSpace last with
          | false =>
              rw [visible_last final blank]
              exact iff_of_true (by simp [blank]) rfl
          | true =>
              rw [Option.getD_some, blank_last_iff final blank]
              simp only [blank, Bool.not_true, Bool.false_or,
                Bool.and_eq_true, decide_eq_true_eq]

private theorem linux_range : 1 ≤ LinuxNode.extractMaxTokens payload ∧
    LinuxNode.extractMaxTokens payload ≤ 512 := by
  unfold LinuxNode.extractMaxTokens
  split
  · omega
  · omega

theorem clamp_eq_iff (value : ℤ) :
    (max 1 (min 512 value)).toNat = 128 ↔ value = 128 := by
  omega

private theorem truncate_eq_iff (value : ℚ) :
    (∃ whole, MacNode.truncate value = some whole ∧ whole = 128) ↔
      128 ≤ value ∧ value < 129 := by
  have lower : 128 ≤ value.floor ↔ ((128 : ℤ) : ℚ) ≤ value :=
    Rat.le_floor_iff
  have upper : value.floor < 129 ↔ value < ((129 : ℤ) : ℚ) :=
    Rat.floor_lt_iff
  have whole : value.floor = 128 ↔ 128 ≤ value ∧ value < 129 := by
    have both : value.floor = 128 ↔ 128 ≤ value.floor ∧ value.floor < 129 := by
      omega
    rw [both, lower, upper]
    norm_cast
  rw [MacNode.truncate]
  by_cases nonneg : 0 ≤ value
  · simp only [if_pos nonneg]
    split
    · simpa using whole
    · next wide =>
        apply iff_of_false
        · rintro ⟨other, none, -⟩
          cases none
        · intro inside
          have same := whole.mpr inside
          omega
  · have below : value.ceil ≤ 0 := by
      rw [Rat.ceil_le_iff]
      exact_mod_cast (lt_of_not_ge nonneg).le
    simp only [if_neg nonneg]
    apply iff_of_false
    · rintro ⟨other, found, rfl⟩
      split at found
      · obtain same := Option.some.inj found
        omega
      · cases found
    · rintro ⟨large, -⟩
      exact nonneg (le_trans (by norm_num) large)

theorem mac_limit_number (number : Number)
    (found : payload.get "max_tokens" = some (.number number)) :
    MacNode.extractMaxTokens (.decode payload) =
      match MacNode.AnyValue.ofNumber number with
      | .int value => some (max 1 (min 512 value.toInt)).toNat
      | .double value => (MacNode.truncate value).map
          fun whole => (max 1 (min 512 whole)).toNat
      | _ => some 128 := by
  rw [MacNode.extractMaxTokens, MacNode.AnyValue.get_decode, found,
    Option.map_some, MacNode.AnyValue.decode]
  cases MacNode.AnyValue.ofNumber number with
  | _ => rfl

/-- macOS and Windows read the limit that Linux reads. -/
private def LimitAgrees (payload : Json) : Prop :=
  MacNode.extractMaxTokens (.decode payload) =
      some (LinuxNode.extractMaxTokens payload) ∧
    maxTokens payload = LinuxNode.extractMaxTokens payload

private theorem limitAgrees_default
    (other : ∀ number, payload.get "max_tokens" ≠ some (.number number)) :
    LimitAgrees payload := by
  cases found : payload.get "max_tokens" with
  | none => simp [LimitAgrees, MacNode.extractMaxTokens,
      LinuxNode.extractMaxTokens, maxTokens, MacNode.AnyValue.get_decode, found]
  | some document =>
      cases document with
      | number number => exact absurd found (other number)
      | _ => simp [LimitAgrees, MacNode.extractMaxTokens,
          LinuxNode.extractMaxTokens, maxTokens, MacNode.AnyValue.get_decode,
          MacNode.AnyValue.decode, found]

private theorem limitAgrees_posInt {value : UInt64}
    (found : payload.get "max_tokens" = some (.number (.posInt value))) :
    LimitAgrees payload ↔ value.toNat < 2 ^ 31 := by
  have linux : LinuxNode.extractMaxTokens payload =
      max 1 (min value.toNat 512) := by
    rw [LinuxNode.extractMaxTokens, found]
  rw [LimitAgrees, linux, mac_limit_number _ found, maxTokens, found]
  simp only [tryGetInt32, MacNode.AnyValue.ofNumber]
  by_cases small : value.toNat < 2 ^ 31
  · have whole : (Int64.ofNat value.toNat).toInt = value.toNat :=
      Int64.toInt_ofNat_of_lt (by omega)
    simp only [if_pos small, if_pos (show value.toNat < 2 ^ 63 by omega), whole,
      Option.some.injEq]
    omega
  · simp only [if_neg small]
    omega

private theorem limitAgrees_negInt {value : Int64}
    (found : payload.get "max_tokens" = some (.number (.negInt value))) :
    LimitAgrees payload ↔ value.toInt = 128 := by
  have linux : LinuxNode.extractMaxTokens payload = 128 := by
    rw [LinuxNode.extractMaxTokens, found]
  rw [LimitAgrees, linux, mac_limit_number _ found, maxTokens, found]
  simp only [tryGetInt32, MacNode.AnyValue.ofNumber, Option.some.injEq,
    clamp_eq_iff]
  constructor
  · exact fun both => both.1
  · intro same
    simp [same]

private theorem limitAgrees_float {value : ℚ}
    (found : payload.get "max_tokens" = some (.number (.float value))) :
    LimitAgrees payload ↔ 128 ≤ value ∧ value < 129 := by
  have linux : LinuxNode.extractMaxTokens payload = 128 := by
    rw [LinuxNode.extractMaxTokens, found]
  rw [LimitAgrees, linux, mac_limit_number _ found, maxTokens, found]
  simp only [tryGetInt32, MacNode.AnyValue.ofNumber, and_true]
  by_cases integral : value.den = 1 ∧ -2 ^ 63 ≤ value.num ∧ value.num < 2 ^ 63
  · have same : (value.num : ℚ) = value :=
      (Rat.den_eq_one_iff value).mp integral.1
    simp only [if_pos integral, Option.some.injEq, clamp_eq_iff,
      Int64.toInt_ofInt_of_le integral.2.1 integral.2.2]
    rw [← same]
    norm_cast
    omega
  · simp only [if_neg integral, Option.map_eq_some_iff, clamp_eq_iff]
    exact truncate_eq_iff value

private theorem limitAlike_iff :
    limitAlike payload = true ↔ LimitAgrees payload := by
  rw [limitAlike]
  split
  · next value found =>
      rw [limitAgrees_posInt found]
      exact decide_eq_true_iff
  · next value found =>
      rw [limitAgrees_negInt found]
      exact decide_eq_true_iff
  · next value found =>
      rw [limitAgrees_float found]
      exact decide_eq_true_iff
  · next posInt negInt float =>
      apply iff_of_true rfl
      apply limitAgrees_default
      intro number found
      cases number with
      | posInt value => exact posInt value found
      | negInt value => exact negInt value found
      | float value => exact float value found

/-- The nodes read a payload the same way if and only if its messages and its
limit are of the kinds that they treat alike. -/
theorem readAlike_iff (payload : Json) : ReadAlike payload ↔
    promptAlike payload = true ∧ limitAlike payload = true := by
  rw [promptAlike_iff, limitAlike_iff]
  constructor
  · intro alike
    exact ⟨alike.windowsPrompt, alike.macLimit, alike.windowsLimit⟩
  · rintro ⟨prompt, mac, windows⟩
    exact ⟨mac_prompt, prompt, mac, windows, linux_range⟩

/-- A negative limit is the default on Linux and 1 on macOS and Windows. -/
theorem negative_limit_differs :
    ¬ ReadAlike (.object [("max_tokens", .number (.negInt (-1)))]) :=
  fun alike => absurd alike.windowsLimit (by decide)

example : MacNode.extractMaxTokens (.decode (.object
    [("max_tokens", .number (.posInt 9223372036854775808))])) = none := by
  decide +kernel

example : extractPrompt (.object [("messages", .array
    [.string "hi", .object [("content", .string "there")]])]) = "" := by
  decide

end JwSwarm.WindowsNode
