import JwSwarm.Data.Utf8
import JwSwarm.MacNode.Generate

namespace JwSwarm.MacNode

open Data Utf8 Proto

/-! The text of a generation: every sampled token is decoded by itself. -/

/-- `tokenPiece` for a token of these bytes. A token that does not fit into the
buffer has a negative count. -/
def tokenPiece (bytes : List UInt8) : Option String :=
  if bytes.length = 0 ∨ 256 < bytes.length then none
  else (decodeStrict bytes).map String.ofList

/-- The bytes fit into the buffer, and are well-formed and not empty. -/
def wholePiece (bytes : List UInt8) : Bool :=
  0 < bytes.length ∧ bytes.length ≤ 256 ∧ (decodeStrict bytes).isSome

theorem tokenPiece_of_whole {bytes : List UInt8}
    (whole : wholePiece bytes = true) :
    ∃ text, text ≠ [] ∧ bytes = encode text ∧
      tokenPiece bytes = some (String.ofList text) := by
  simp only [wholePiece, decide_eq_true_eq] at whole
  obtain ⟨some, fits, decodes⟩ := whole
  obtain ⟨text, decoded⟩ := Option.isSome_iff_exists.mp decodes
  have same := decodeStrict_eq_some_iff.mp decoded
  refine ⟨text, ?_, same, ?_⟩
  · rintro rfl
    rw [same] at some
    exact absurd some (by decide)
  · rw [tokenPiece, if_neg (by omega), decoded]
    rfl

private theorem isSome_tokenPiece_iff {bytes : List UInt8} :
    ((tokenPiece bytes).filter fun text => !text.isEmpty).isSome = true ↔
      wholePiece bytes = true := by
  constructor
  · intro kept
    obtain ⟨text, kept⟩ := Option.isSome_iff_exists.mp kept
    obtain ⟨piece, -⟩ := Option.filter_eq_some_iff.mp kept
    simp only [tokenPiece] at piece
    split at piece
    · cases piece
    · obtain ⟨decoded, found, -⟩ := Option.map_eq_some_iff.mp piece
      simp only [wholePiece, found, decide_eq_true_eq]
      exact ⟨by omega, by omega, rfl⟩
  · intro whole
    obtain ⟨text, nonempty, -, piece⟩ := tokenPiece_of_whole whole
    rw [piece]
    simp [Option.filter, nonempty]

private theorem flatMap_tokenPiece {tokens : List Token}
    {bytes : Token → List UInt8}
    (whole : ∀ token ∈ tokens, wholePiece (bytes token) = true) :
    (tokens.filterMap fun token => (tokenPiece (bytes token)).filter
        fun text => !text.isEmpty).flatMap String.toList =
      decode (tokens.flatMap bytes) := by
  induction tokens with
  | nil => rfl
  | cons token tokens ih =>
      obtain ⟨first, others⟩ := List.forall_mem_cons.mp whole
      obtain ⟨text, nonempty, same, piece⟩ := tokenPiece_of_whole first
      have kept : (tokenPiece (bytes token)).filter
          (fun text => !text.isEmpty) = some (String.ofList text) := by
        rw [piece]
        simp [Option.filter, nonempty]
      rw [List.filterMap_cons, kept]
      simp only
      rw [List.flatMap_cons, ih others, List.flatMap_cons, same,
        String.toList_ofList]
      exact (decodeFrom_encode text _).symm

namespace Llama

variable {Artifact : Type}

def withPieces (library : Llama Artifact)
    (bytes : Artifact → Token → List UInt8) : Llama Artifact :=
  { library with
    piece := fun artifact token => tokenPiece (bytes artifact token) }

/-- The tokens that the loop of `generate` samples before the end of stream. -/
def sampledLoop (library : Llama Artifact) (artifact : Artifact) :
    ℕ → library.Cache → Batch → ℕ → List Token
  | 0, _, _, _ => []
  | turns + 1, cache, batch, nCur =>
      match library.logits artifact cache batch with
      | none => []
      | some logits =>
          let token := library.nextToken artifact logits
          if token = library.eos artifact then []
          else token :: sampledLoop library artifact turns
            (library.decode artifact cache [(token, nCur)]).1 [(token, nCur)]
            (nCur + 1)

def sampled (library : Llama Artifact) (artifact : Artifact)
    (cache : library.Cache) (request : Request) : List Token :=
  let promptTokens := library.tokenize artifact request.prompt
  let batch := promptTokens.zipIdx
  library.sampledLoop artifact request.maxTokens
    (library.decode artifact cache batch).1 batch promptTokens.length

variable {library : Llama Artifact} {artifact : Artifact}
variable {cache left : library.Cache} {batch : Batch} {turns nCur : ℕ}
variable {generated chunks : List String} {request : Request} {used : Usage}

private theorem append_eq (generated : List String) (piece : Option String) :
    append generated piece =
      generated ++ (piece.filter fun text => !text.isEmpty).toList := by
  cases piece with
  | none => exact (List.append_nil _).symm
  | some text =>
      unfold append
      cases empty : text.isEmpty <;> simp [Option.filter, empty]

private theorem generateLoop_sampled
    (ok : library.generateLoop artifact turns cache batch nCur generated =
      (left, .ok chunks)) :
    chunks = generated ++
      (library.sampledLoop artifact turns cache batch nCur).filterMap
        fun token => (library.piece artifact token).filter
          fun text => !text.isEmpty := by
  induction turns generalizing cache batch nCur generated with
  | zero =>
      obtain ⟨-, same⟩ := Prod.mk.inj ok
      obtain rfl := Except.ok.inj same
      exact (List.append_nil _).symm
  | succ turns ih =>
      unfold generateLoop at ok
      unfold sampledLoop
      cases found : library.logits artifact cache batch with
      | none =>
          rw [found] at ok
          cases ok
      | some logits =>
          rw [found] at ok
          simp only at ok ⊢
          split at ok
          · next ended =>
              obtain ⟨-, same⟩ := Prod.mk.inj ok
              obtain rfl := Except.ok.inj same
              rw [if_pos ended]
              exact (List.append_nil _).symm
          · next goesOn =>
              rw [if_neg goesOn]
              split at ok
              · have later := ih ok
                rw [append_eq, List.append_assoc] at later
                rw [later, List.filterMap_cons]
                cases (library.piece artifact
                    (library.nextToken artifact logits)).filter
                      fun text => !text.isEmpty with
                | none => rfl
                | some text => rfl
              · cases ok

private theorem length_sampledLoop_le :
    (library.sampledLoop artifact turns cache batch nCur).length ≤ turns := by
  induction turns generalizing cache batch nCur with
  | zero => exact Nat.le_refl _
  | succ turns ih =>
      unfold sampledLoop
      split
      · exact Nat.zero_le _
      · simp only
        split
        · exact Nat.zero_le _
        · exact Nat.succ_le_succ ih

private theorem generate_sampled
    (ok : library.generate artifact cache request =
      (left, .ok (chunks, used))) :
    chunks = ((library.sampled artifact cache request).filterMap
        fun token => (library.piece artifact token).filter
          fun text => !text.isEmpty) ∧
      used.completionTokens = .ofNat chunks.length := by
  simp only [generate] at ok
  split at ok
  · cases ok
  · split at ok
    · obtain ⟨-, same⟩ := Prod.mk.inj ok
      cases looped : library.generateLoop artifact request.maxTokens
          (library.decode artifact cache
            (library.tokenize artifact request.prompt).zipIdx).1
          (library.tokenize artifact request.prompt).zipIdx
          (library.tokenize artifact request.prompt).length [] with
      | mk cache outcome =>
          rw [looped] at same
          cases outcome with
          | error failed => cases same
          | ok generated =>
              obtain ⟨rfl, rfl⟩ := Prod.mk.inj (Except.ok.inj same)
              exact ⟨generateLoop_sampled looped, rfl⟩
    · cases ok

/-- A generation returns its whole text and counts every sampled token exactly
when each of them holds whole characters. -/
theorem generate_lossless_iff {bytes : Artifact → Token → List UInt8}
    {text : List Char} {cache left : (library.withPieces bytes).Cache}
    (ok : (library.withPieces bytes).generate artifact cache request =
      (left, .ok (chunks, used)))
    (valid : ((library.withPieces bytes).sampled artifact cache
      request).flatMap (bytes artifact) = encode text) :
    (String.join chunks = String.ofList text ∧ used.completionTokens.toNat =
        ((library.withPieces bytes).sampled artifact cache request).length) ↔
      ∀ token ∈ (library.withPieces bytes).sampled artifact cache request,
        wholePiece (bytes artifact token) = true := by
  obtain ⟨same, counted⟩ := generate_sampled ok
  have few : ((library.withPieces bytes).sampled artifact cache
      request).length ≤ 512 := length_sampledLoop_le.trans request.bounded
  generalize (library.withPieces bytes).sampled artifact cache request =
    tokens at same valid few
  have same : chunks = tokens.filterMap fun token =>
      (tokenPiece (bytes artifact token)).filter
        fun text => !text.isEmpty := same
  have fewer : chunks.length ≤ tokens.length := by
    rw [same]
    exact List.length_filterMap_le _ _
  have count : used.completionTokens.toNat = chunks.length := by
    rw [counted, UInt32.toNat_ofNat']
    omega
  have every : chunks.length = tokens.length ↔
      ∀ token ∈ tokens, wholePiece (bytes artifact token) = true := by
    rw [same, List.filterMap_length_eq_length]
    simp only [isSome_tokenPiece_iff]
  rw [count, every]
  refine ⟨And.right, fun whole => ⟨?_, whole⟩⟩
  apply String.toList_injective
  rw [String.toList_join, String.toList_ofList, same, flatMap_tokenPiece whole,
    valid, decode_encode]

end Llama

def countingLlama : Llama Unit where
  Cache := ℕ
  empty := 0
  Logit := ℕ
  exceeds := fun logit other => decide (other < logit)
  tokenize := fun _ _ => [1]
  vocabSize := fun _ => 4
  eos := fun _ => 3
  piece := fun _ _ => none
  decode := fun _ batches _ => (batches + 1, true)
  logits := fun _ batches _ => some fun token =>
    if token = batches then 1 else 0

def shortRequest : Request where
  prompt := "hello"
  maxTokens := 4
  positive := by decide
  bounded := by decide

def letterBytes (_ : Unit) (token : Token) : List UInt8 :=
  if token = 1 then [0x61] else [0xC3, 0xA9]

theorem generate_lossless_iff_letters :
    ((countingLlama.withPieces letterBytes).generate () (0 : ℕ)
        shortRequest).2 =
        .ok (["a", "é"], ⟨1, 2, 3⟩) ∧
      String.join ["a", "é"] = String.ofList ['a', 'é'] ∧
      (2 : UInt32).toNat = ((countingLlama.withPieces letterBytes).sampled ()
        (0 : ℕ) shortRequest).length := by
  have ok : (countingLlama.withPieces letterBytes).generate () (0 : ℕ)
        shortRequest =
      ((3 : ℕ), .ok (["a", "é"], ⟨1, 2, 3⟩)) := by rfl
  refine ⟨by rw [ok], ?_⟩
  exact (@Llama.generate_lossless_iff Unit countingLlama () ["a", "é"]
    shortRequest ⟨1, 2, 3⟩ letterBytes ['a', 'é'] (0 : ℕ) (3 : ℕ) ok
    (by decide +kernel)).mpr (by decide +kernel)

def halfBytes (_ : Unit) (token : Token) : List UInt8 :=
  if token = 1 then [0xC3] else [0xA9]

/-- The letter is lost, and neither token is counted. -/
theorem split_letter_generates_nothing :
    ((countingLlama.withPieces halfBytes).sampled () (0 : ℕ)
        shortRequest).flatMap (halfBytes ()) = encode ['é'] ∧
      ((countingLlama.withPieces halfBytes).generate () (0 : ℕ)
        shortRequest).2 =
        .ok ([], ⟨1, 0, 1⟩) ∧
      String.join [] ≠ String.ofList ['é'] ∧
      (0 : UInt32).toNat ≠ ((countingLlama.withPieces halfBytes).sampled ()
        (0 : ℕ) shortRequest).length := by
  refine ⟨by decide +kernel, rfl, by decide +kernel, by decide +kernel⟩

end JwSwarm.MacNode
