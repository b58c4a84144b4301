import JwSwarm.Data.Utf8

namespace JwSwarm.WindowsNode

open Data Utf8

/-! The receive pump of the Windows node's tunnel client: it decodes what each
receive call returns by itself. -/

/-- What `ReceiveAsync` returns: the peer's close, or the next bytes of a
message in the buffer. -/
inductive ReceiveResult where
  | close
  | data (bytes : List UInt8) (endOfMessage : Bool)

/-- The messages that `ReceivePumpAsync` raises for the results of its calls;
`sb` is the string builder. -/
def receivePump (sb : List Char) : List ReceiveResult → List String
  | [] => []
  | .close :: _ => []
  | .data bytes endOfMessage :: rest =>
      let sb := sb ++ decode bytes
      if endOfMessage then
        if sb.isEmpty then receivePump [] rest
        else String.ofList sb :: receivePump [] rest
      else receivePump sb rest

def received : List (List UInt8) → List ReceiveResult
  | [] => []
  | [last] => [.data last true]
  | piece :: more => .data piece false :: received more

variable {text sb : List Char} {pieces : List (List UInt8)}

private theorem receivePump_received (arrives : pieces ≠ [])
    (rest : List ReceiveResult) :
    receivePump sb (received pieces ++ rest) =
      (if (sb ++ pieces.flatMap decode).isEmpty then []
        else [String.ofList (sb ++ pieces.flatMap decode)]) ++
        receivePump [] rest := by
  induction pieces generalizing sb with
  | nil => exact absurd rfl arrives
  | cons piece more ih =>
      cases more with
      | nil =>
          simp only [received, List.singleton_append, receivePump,
            List.flatMap_cons, List.flatMap_nil, List.append_nil, if_true]
          split
          · rfl
          · rfl
      | cons next more =>
          have later := @ih (sb ++ decode piece) (List.cons_ne_nil _ _)
          rw [List.append_assoc, ← List.flatMap_cons] at later
          exact later

/-- A message is raised whole exactly when none of its pieces begins within a
character. -/
theorem receivePump_whole_iff (whole : pieces.flatten = encode text)
    (nonempty : text ≠ []) (rest : List ReceiveResult) :
    receivePump [] (received pieces ++ rest) =
        String.ofList text :: receivePump [] rest ↔
      ∀ piece ∈ pieces, startsCharacter piece = true := by
  have arrives : pieces ≠ [] := by
    rintro rfl
    exact nonempty (encode_injective whole.symm)
  rw [receivePump_received arrives, List.nil_append,
    ← flatMap_decode_eq_iff whole]
  constructor
  · intro raised
    split at raised
    · have longer := congrArg List.length raised
      simp at longer
    · obtain ⟨same, -⟩ := List.cons.inj raised
      exact String.ofList_injective same
  · intro same
    rw [same, if_neg (by simpa using nonempty)]
    rfl

/-- An accented letter that arrives in one piece, after another letter. -/
theorem receivePump_whole_iff_aligned :
    receivePump [] (received [[0x61], [0xC3, 0xA9]] ++ [.close]) =
      [String.ofList ['a', 'é']] :=
  (@receivePump_whole_iff ['a', 'é'] [[0x61], [0xC3, 0xA9]] (by decide)
    (by decide) [.close]).mpr (by decide)

/-- The two bytes of a letter come apart, and each becomes a replacement
character. -/
theorem split_letter_raised_as_replacements :
    [[0xC3], [0xA9]].flatten = encode ['é'] ∧
      receivePump [] (received [[0xC3], [0xA9]]) ≠ [String.ofList ['é']] := by
  decide +kernel

end JwSwarm.WindowsNode
