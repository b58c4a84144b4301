import Mathlib.Data.List.Basic
import Mathlib.Data.List.Count

namespace JwSwarm.Data.Utf8

/-! UTF-8 as decoders read it: byte by byte, with a replacement character for
each maximal ill-formed piece. -/

def encode (text : List Char) : List UInt8 :=
  text.flatMap String.utf8EncodeChar

def isContinuation (byte : UInt8) : Bool :=
  0x80 ≤ byte.toNat ∧ byte.toNat ≤ 0xBF

/-- The bytes that may follow within a character. -/
structure Range where
  lower : ℕ
  upper : ℕ
  least : 0x80 ≤ lower
  greatest : upper ≤ 0xBF

def Range.full : Range where
  lower := 0x80
  upper := 0xBF
  least := by decide
  greatest := by decide

/-- After an E0 or F0, shorter forms are ill-formed. -/
def Range.above (lower : ℕ) (least : 0x80 ≤ lower) : Range :=
  { Range.full with lower, least }

/-- After an ED come no surrogates, after an F4 nothing above the last plane. -/
def Range.below (upper : ℕ) (greatest : upper ≤ 0xBF) : Range :=
  { Range.full with upper, greatest }

/-- Where a decoder stands: between two characters, or within one, with the
range of the next byte, how many are due after it and the bits so far. -/
inductive Position where
  | boundary
  | within (range : Range) (more code : ℕ)

def replacement : Char := Char.ofNat 0xFFFD

def lead (byte : ℕ) : Position × List Char :=
  if byte ≤ 0x7F then (.boundary, [Char.ofNat byte])
  else if 0xC2 ≤ byte ∧ byte ≤ 0xDF then (.within .full 0 (byte - 0xC0), [])
  else if byte = 0xE0 then (.within (.above 0xA0 (by decide)) 1 0, [])
  else if byte = 0xED then (.within (.below 0x9F (by decide)) 1 0xD, [])
  else if 0xE1 ≤ byte ∧ byte ≤ 0xEF then
    (.within .full 1 (byte - 0xE0), [])
  else if byte = 0xF0 then (.within (.above 0x90 (by decide)) 2 0, [])
  else if 0xF1 ≤ byte ∧ byte ≤ 0xF3 then
    (.within .full 2 (byte - 0xF0), [])
  else if byte = 0xF4 then (.within (.below 0x8F (by decide)) 2 4, [])
  else (.boundary, [replacement])

/-- One byte, with the characters that it completes. A byte that does not fit
ends the character before it and is read again. -/
def step : Position → UInt8 → Position × List Char
  | .boundary, byte => lead byte.toNat
  | .within range more code, byte =>
      if range.lower ≤ byte.toNat ∧ byte.toNat ≤ range.upper then
        let code := code * 64 + (byte.toNat - 0x80)
        match more with
        | 0 => (.boundary, [Char.ofNat code])
        | more + 1 => (.within .full more code, [])
      else
        let again := lead byte.toNat
        (again.1, replacement :: again.2)

def decodeFrom : Position → List UInt8 → List Char
  | .boundary, [] => []
  | .within _ _ _, [] => [replacement]
  | position, byte :: rest =>
      (step position byte).2 ++ decodeFrom (step position byte).1 rest

def decode (bytes : List UInt8) : List Char :=
  decodeFrom .boundary bytes

/-- Decoding that fails on ill-formed bytes. -/
def decodeStrict (bytes : List UInt8) : Option (List Char) :=
  let text := decode bytes
  if encode text = bytes then some text else none

variable {bytes rest : List UInt8} {byte : UInt8} {char : Char}
variable {text : List Char}

theorem decodeFrom_cons (position : Position) :
    decodeFrom position (byte :: rest) =
      (step position byte).2 ++ decodeFrom (step position byte).1 rest := by
  cases position <;> rfl

theorem decodeFrom_within {range : Range} {more code value : ℕ}
    (found : byte.toNat = value)
    (fits : range.lower ≤ value ∧ value ≤ range.upper) :
    decodeFrom (.within range (more + 1) code) (byte :: rest) =
      decodeFrom (.within .full more (code * 64 + (value - 0x80))) rest := by
  subst found
  rw [decodeFrom_cons, step, if_pos fits]
  rfl

theorem decodeFrom_last {range : Range} {code value : ℕ}
    (found : byte.toNat = value)
    (fits : range.lower ≤ value ∧ value ≤ range.upper) :
    decodeFrom (.within range 0 code) (byte :: rest) =
      Char.ofNat (code * 64 + (value - 0x80)) ::
        decodeFrom .boundary rest := by
  subst found
  rw [decodeFrom_cons, step, if_pos fits]
  rfl

theorem toNat_ofNat_of_lt {value : ℕ} (small : value < 256) :
    (UInt8.ofNat value).toNat = value := by
  rw [UInt8.toNat_ofNat']
  exact Nat.mod_eq_of_lt small

theorem decodeFrom_lead {position : Position} {value : ℕ}
    (found : byte.toNat = value) (leads : lead value = (position, [])) :
    decodeFrom .boundary (byte :: rest) = decodeFrom position rest := by
  subst found
  rw [decodeFrom_cons, step, leads]
  rfl

theorem ofNat_of_eq (char : Char) {value : ℕ}
    (same : value = char.val.toNat) : Char.ofNat value = char := by
  subst same
  exact Char.ofNat_toNat char

private theorem lead_three {top second : ℕ} (small : top < 16)
    (tail : second < 64) (long : 0x800 ≤ top * 4096 + second * 64 + 63)
    (scalar : ¬ (top = 13 ∧ 32 ≤ second)) :
    ∃ range : Range, lead (top + 0xE0) = (.within range 1 top, []) ∧
      range.lower ≤ second + 0x80 ∧ second + 0x80 ≤ range.upper := by
  by_cases first : top = 0
  · subst first
    exact ⟨.above 0xA0 (by decide), rfl, by simp only [Range.above]; omega,
      by simp only [Range.above, Range.full]; omega⟩
  by_cases surrogate : top = 13
  · subst surrogate
    exact ⟨.below 0x9F (by decide), rfl,
      by simp only [Range.below, Range.full]; omega,
      by simp only [Range.below]; omega⟩
  refine ⟨.full, ?_, by simp [Range.full], by simp only [Range.full]; omega⟩
  rw [lead, if_neg (by omega), if_neg (by omega), if_neg (by omega),
    if_neg (by omega), if_pos (by omega)]
  simp

private theorem lead_four {top second : ℕ} (tail : second < 64)
    (long : 0x10000 ≤ top * 262144 + second * 4096 + 4095)
    (last : top * 262144 + second * 4096 < 0x110000) :
    ∃ range : Range, lead (top + 0xF0) = (.within range 2 top, []) ∧
      range.lower ≤ second + 0x80 ∧ second + 0x80 ≤ range.upper := by
  by_cases first : top = 0
  · subst first
    exact ⟨.above 0x90 (by decide), rfl, by simp only [Range.above]; omega,
      by simp only [Range.above, Range.full]; omega⟩
  by_cases plane : top = 4
  · subst plane
    exact ⟨.below 0x8F (by decide), rfl,
      by simp only [Range.below, Range.full]; omega,
      by simp only [Range.below]; omega⟩
  refine ⟨.full, ?_, by simp [Range.full], by simp only [Range.full]; omega⟩
  rw [lead, if_neg (by omega), if_neg (by omega), if_neg (by omega),
    if_neg (by omega), if_neg (by omega), if_neg (by omega),
    if_pos (by omega)]
  simp

theorem tail_fits (value : ℕ) : Range.full.lower ≤ value % 64 + 0x80 ∧
    value % 64 + 0x80 ≤ Range.full.upper := by
  simp only [Range.full]
  omega

/-- A well-formed character is read back, whatever follows. The cases are those
of the encoding. -/
theorem decodeFrom_encodeChar (char : Char) (rest : List UInt8) :
    decodeFrom .boundary (String.utf8EncodeChar char ++ rest) =
      char :: decodeFrom .boundary rest := by
  have valid : char.val.toNat < 0xD800 ∨
      0xDFFF < char.val.toNat ∧ char.val.toNat < 0x110000 := char.valid
  unfold String.utf8EncodeChar
  generalize code : char.val.toNat = value at valid
  have tail (bits : ℕ) : (UInt8.ofNat (bits % 64 + 0x80)).toNat =
      bits % 64 + 0x80 := toNat_ofNat_of_lt (by omega)
  simp only
  split
  · next one =>
      have byte := toNat_ofNat_of_lt (by omega : value < 256)
      rw [List.singleton_append, decodeFrom_cons, step, byte, lead,
        if_pos one, ofNat_of_eq char code.symm]
      rfl
  split
  · next two =>
      have first := toNat_ofNat_of_lt
        (by omega : value / 64 % 32 + 0xC0 < 256)
      have leads : lead (value / 64 % 32 + 0xC0) =
          (.within .full 0 (value / 64 % 32), []) := by
        rw [lead, if_neg (by omega), if_pos (by omega)]
        simp
      rw [List.cons_append, List.singleton_append,
        decodeFrom_lead first leads,
        decodeFrom_last (tail value) (tail_fits value),
        ofNat_of_eq char (by omega)]
  split
  · next three =>
      have first := toNat_ofNat_of_lt
        (by omega : value / 4096 % 16 + 0xE0 < 256)
      obtain ⟨range, leads, fits⟩ := @lead_three (value / 4096 % 16)
        (value / 64 % 64) (by omega) (by omega) (by omega) (by omega)
      rw [List.cons_append, List.cons_append, List.singleton_append,
        decodeFrom_lead first leads,
        decodeFrom_within (tail (value / 64)) fits,
        decodeFrom_last (tail value) (tail_fits value),
        ofNat_of_eq char (by omega)]
  · next four =>
      have first := toNat_ofNat_of_lt
        (by omega : value / 262144 % 8 + 0xF0 < 256)
      obtain ⟨range, leads, fits⟩ := @lead_four (value / 262144 % 8)
        (value / 4096 % 64) (by omega) (by omega) (by omega)
      rw [List.cons_append, List.cons_append, List.cons_append,
        List.singleton_append, decodeFrom_lead first leads,
        decodeFrom_within (tail (value / 4096)) fits,
        decodeFrom_within (tail (value / 64)) (tail_fits (value / 64)),
        decodeFrom_last (tail value) (tail_fits value),
        ofNat_of_eq char (by omega)]

theorem decodeFrom_encode (text : List Char) (rest : List UInt8) :
    decodeFrom .boundary (encode text ++ rest) =
      text ++ decodeFrom .boundary rest := by
  induction text with
  | nil => rfl
  | cons char text ih =>
      rw [encode, List.flatMap_cons, List.append_assoc, decodeFrom_encodeChar]
      exact congrArg (char :: ·) ih

@[simp] theorem decode_encode (text : List Char) :
    decode (encode text) = text := by
  have whole := decodeFrom_encode text []
  rw [List.append_nil] at whole
  rw [decode, whole]
  exact List.append_nil text

private theorem encode_append (text other : List Char) :
    encode (text ++ other) = encode text ++ encode other :=
  List.flatMap_append ..

theorem encode_injective : Function.Injective encode :=
  Function.LeftInverse.injective decode_encode

theorem decodeStrict_eq_some_iff :
    decodeStrict bytes = some text ↔ bytes = encode text := by
  constructor
  · intro decoded
    simp only [decodeStrict] at decoded
    split at decoded
    · next whole =>
        obtain rfl := Option.some.inj decoded
        exact whole.symm
    · cases decoded
  · rintro rfl
    simp [decodeStrict]

theorem encodeChar_cases (char : Char) :
    ∃ first tail, String.utf8EncodeChar char = first :: tail ∧
      isContinuation first = false ∧
      ∀ byte ∈ tail, isContinuation byte = true := by
  have valid : char.val.toNat < 0xD800 ∨
      0xDFFF < char.val.toNat ∧ char.val.toNat < 0x110000 := char.valid
  unfold String.utf8EncodeChar
  generalize char.val.toNat = value at valid
  have starts {bits : ℕ} (small : bits < 256)
      (apart : bits < 0x80 ∨ 0xBF < bits) :
      isContinuation (UInt8.ofNat bits) = false := by
    rw [isContinuation, toNat_ofNat_of_lt small]
    simp only [decide_eq_false_iff_not]
    omega
  have follows (bits : ℕ) :
      isContinuation (UInt8.ofNat (bits % 64 + 0x80)) = true := by
    rw [isContinuation, toNat_ofNat_of_lt (by omega)]
    simp only [decide_eq_true_eq]
    omega
  simp only
  split
  · exact ⟨_, [], rfl, starts (by omega) (by omega), by simp⟩
  split
  · exact ⟨_, [_], rfl, starts (by omega) (by omega),
      List.forall_mem_cons.mpr ⟨follows _, nofun⟩⟩
  split
  · exact ⟨_, [_, _], rfl, starts (by omega) (by omega),
      List.forall_mem_cons.mpr ⟨follows _,
        List.forall_mem_cons.mpr ⟨follows _, nofun⟩⟩⟩
  · exact ⟨_, [_, _, _], rfl, starts (by omega) (by omega),
      List.forall_mem_cons.mpr ⟨follows _,
        List.forall_mem_cons.mpr ⟨follows _,
          List.forall_mem_cons.mpr ⟨follows _, nofun⟩⟩⟩⟩

/-- The bytes do not begin within a character. -/
def startsCharacter (bytes : List UInt8) : Bool :=
  bytes.head?.all fun byte => !isContinuation byte

private theorem encode_eq_append {left right : List UInt8}
    (whole : encode text = left ++ right)
    (starts : startsCharacter right = true) :
    ∃ before after, left = encode before ∧ right = encode after := by
  induction text generalizing left with
  | nil =>
      obtain ⟨rfl, rfl⟩ := List.append_eq_nil_iff.mp whole.symm
      exact ⟨[], [], rfl, rfl⟩
  | cons char text ih =>
      rw [encode, List.flatMap_cons] at whole
      rcases List.append_eq_append_iff.mp whole with
        ⟨more, rfl, rest⟩ | ⟨tail, cut, rfl⟩
      · obtain ⟨before, after, rfl, rfl⟩ := ih rest
        exact ⟨char :: before, after, rfl, rfl⟩
      · cases tail with
        | nil =>
            rw [List.append_nil] at cut
            subst cut
            exact ⟨[char], text, (List.append_nil _).symm, rfl⟩
        | cons next tail =>
            obtain ⟨first, others, same, -, follows⟩ := encodeChar_cases char
            cases left with
            | nil => exact ⟨[], char :: text, rfl, by
                rw [encode, List.flatMap_cons, cut]; rfl⟩
            | cons byte left =>
                rw [same, List.cons_append] at cut
                obtain ⟨-, cut⟩ := List.cons.inj cut
                have inside : next ∈ others := by
                  rw [cut]
                  exact List.mem_append_right _ List.mem_cons_self
                simp [startsCharacter, follows next inside] at starts

def leads (bytes : List UInt8) : ℕ :=
  bytes.countP fun byte => !isContinuation byte

def Position.owed : Position → ℕ
  | .boundary => 0
  | .within _ _ _ => 1

private theorem owed_lead (byte : ℕ) :
    1 ≤ (lead byte).1.owed + (lead byte).2.length := by
  unfold lead
  split_ifs <;> simp [Position.owed]

theorem owed_step (position : Position) (byte : UInt8) :
    position.owed + (if isContinuation byte then 0 else 1) ≤
      (step position byte).1.owed + (step position byte).2.length := by
  have again := owed_lead byte.toNat
  cases position with
  | boundary =>
      change 0 + _ ≤ (lead byte.toNat).1.owed + (lead byte.toNat).2.length
      split <;> omega
  | within range more code =>
      change 1 + _ ≤ _
      by_cases fits : range.lower ≤ byte.toNat ∧ byte.toNat ≤ range.upper
      · have least := range.least
        have greatest := range.greatest
        have follows : isContinuation byte = true := by
          simp only [isContinuation, decide_eq_true_eq]
          omega
        rw [step, if_pos fits, if_pos follows]
        cases more with
        | zero => exact Nat.le_refl _
        | succ more => exact Nat.le_refl _
      · rw [step, if_neg fits]
        simp only [List.length_cons]
        split <;> omega

theorem leads_cons : leads (byte :: rest) =
    leads rest + if isContinuation byte then 0 else 1 := by
  rw [leads, List.countP_cons]
  cases isContinuation byte <;> rfl

theorem leads_le_decodeFrom (position : Position) (bytes : List UInt8) :
    position.owed + leads bytes ≤ (decodeFrom position bytes).length := by
  induction bytes generalizing position with
  | nil => cases position <;> simp [decodeFrom, Position.owed, leads]
  | cons byte bytes ih =>
      have one := owed_step position byte
      have others := ih (step position byte).1
      rw [decodeFrom_cons, List.length_append, leads_cons]
      omega

private theorem leads_lt_decode (starts : startsCharacter bytes = false) :
    leads bytes < (decode bytes).length := by
  cases bytes with
  | nil => cases starts
  | cons byte rest =>
      have follows : isContinuation byte = true := by
        simpa [startsCharacter] using starts
      have stray : lead byte.toNat = (.boundary, [replacement]) := by
        simp only [isContinuation, decide_eq_true_eq] at follows
        rw [lead, if_neg (by omega), if_neg (by omega), if_neg (by omega),
          if_neg (by omega), if_neg (by omega), if_neg (by omega),
          if_neg (by omega), if_neg (by omega)]
      have others := leads_le_decodeFrom .boundary rest
      rw [decode, decodeFrom_cons, step, stray, leads_cons, follows]
      simp only [Position.owed, List.length_append, List.length_singleton,
        if_true] at others ⊢
      omega

theorem leads_append (bytes rest : List UInt8) :
    leads (bytes ++ rest) = leads bytes + leads rest :=
  List.countP_append ..

private theorem leads_encode (text : List Char) :
    leads (encode text) = text.length := by
  induction text with
  | nil => rfl
  | cons char text ih =>
      obtain ⟨first, tail, same, starts, follows⟩ := encodeChar_cases char
      have none : leads tail = 0 := by
        rw [leads, List.countP_eq_zero]
        intro byte member
        simp [follows byte member]
      have whole : encode (char :: text) = first :: tail ++ encode text := by
        rw [encode, List.flatMap_cons, same]
        rfl
      rw [whole, leads_append, leads_cons, none, starts, ih]
      simp [Nat.add_comm]

private theorem startsCharacter_flatten {pieces : List (List UInt8)}
    (starts : ∀ piece ∈ pieces, startsCharacter piece = true) :
    startsCharacter pieces.flatten = true := by
  induction pieces with
  | nil => rfl
  | cons head tail ih =>
      obtain ⟨first, others⟩ := List.forall_mem_cons.mp starts
      cases head with
      | nil => exact ih others
      | cons byte head => exact first

theorem leads_flatten_le (pieces : List (List UInt8)) :
    leads pieces.flatten ≤ (pieces.flatMap decode).length := by
  induction pieces with
  | nil => exact Nat.le_refl _
  | cons head tail ih =>
      have one := leads_le_decodeFrom .boundary head
      simp only [Position.owed] at one
      rw [List.flatten_cons, leads_append, List.flatMap_cons,
        List.length_append, decode]
      omega

private theorem leads_flatten_lt {pieces : List (List UInt8)}
    {piece : List UInt8}
    (member : piece ∈ pieces) (inside : startsCharacter piece = false) :
    leads pieces.flatten < (pieces.flatMap decode).length := by
  obtain ⟨before, after, rfl⟩ := List.append_of_mem member
  have first := leads_flatten_le before
  have last := leads_flatten_le after
  have more := leads_lt_decode inside
  rw [List.flatten_append, List.flatten_cons, leads_append, leads_append,
    List.flatMap_append, List.flatMap_cons, List.length_append,
    List.length_append]
  omega

/-- Pieces decode to the whole exactly when none begins within a character. -/
theorem flatMap_decode_eq_iff {pieces : List (List UInt8)}
    (whole : pieces.flatten = encode text) :
    pieces.flatMap decode = text ↔
      ∀ piece ∈ pieces, startsCharacter piece = true := by
  constructor
  · intro same piece member
    by_contra inside
    have more := leads_flatten_lt member (Bool.eq_false_iff.mpr inside)
    rw [whole, leads_encode, same] at more
    exact absurd more (Nat.lt_irrefl _)
  · intro starts
    induction pieces generalizing text with
    | nil =>
        rw [← decode_encode text, ← whole]
        rfl
    | cons head tail ih =>
        obtain ⟨-, later⟩ := List.forall_mem_cons.mp starts
        rw [List.flatten_cons] at whole
        obtain ⟨before, after, rfl, rest⟩ :=
          encode_eq_append whole.symm (startsCharacter_flatten later)
        have others := ih rest later
        rw [rest, ← encode_append] at whole
        rw [List.flatMap_cons, decode_encode, others]
        exact encode_injective whole

end JwSwarm.Data.Utf8
