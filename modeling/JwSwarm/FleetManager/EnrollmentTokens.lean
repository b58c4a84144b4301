import Mathlib.Logic.Equiv.Basic
import JwSwarm.FleetManager.Enrollment

namespace JwSwarm.FleetManager.Enrollment

open Data Transition Machine

/-! One-time tokens: what every interleaving of creates, enrolls and revokes
makes of one token. -/

variable {config : Config} {platform : Platform}
variable {history : History EnrollState Event}
variable {before after final : EnrollState} {event : Event}
variable {table : TokenTable} {tokenHash nodeId now : String}

namespace TokenTable

theorem eq_of_hash {row other : TokenRow} (member : row ∈ table.rows)
    (otherMember : other ∈ table.rows)
    (same : row.tokenHash = other.tokenHash) : row = other :=
  List.inj_on_of_nodup_map table.primaryKey member otherMember same

theorem insert_cases {row : TokenRow} {next : TokenTable}
    (inserted : table.insert row = some next) :
    next.rows = table.rows ++ [row] ∧
      ∀ other ∈ table.rows, other.tokenHash ≠ row.tokenHash := by
  unfold insert at inserted
  split at inserted
  · next fresh =>
      obtain rfl := Option.some.inj inserted
      refine ⟨rfl, fun other member same => fresh ?_⟩
      rw [← same]
      exact List.mem_map_of_mem member
  · cases inserted

theorem countP_le_one (chosen : TokenRow → Bool)
    (keyed : ∀ row, chosen row = true → row.tokenHash = tokenHash) :
    table.rows.countP chosen ≤ 1 := by
  have bounded : table.rows.countP chosen ≤
      (table.rows.map TokenRow.tokenHash).count tokenHash := by
    rw [List.count, List.countP_map]
    apply List.countP_mono_left
    intro row _ isChosen
    simpa using keyed row isChosen
  exact bounded.trans (List.nodup_iff_count_le_one.mp table.primaryKey _)

/-- Rows stay, under their hash and for their node, and used ones stay used. -/
def Keeps (table next : TokenTable) : Prop :=
  ∀ row ∈ table.rows, ∃ kept ∈ next.rows, kept.tokenHash = row.tokenHash ∧
    kept.nodeId = row.nodeId ∧
    (row.usedAt.isSome = true → kept.usedAt.isSome = true)

theorem Keeps.refl (table : TokenTable) : table.Keeps table :=
  fun row member => ⟨row, member, rfl, rfl, fun used => used⟩

private theorem insert_keeps {row : TokenRow} {next : TokenTable}
    (inserted : table.insert row = some next) : table.Keeps next := by
  intro other member
  refine ⟨other, ?_, rfl, rfl, fun used => used⟩
  rw [(insert_cases inserted).1]
  exact List.mem_append_left _ member

section MarkUsed

variable (chosen : TokenRow → Bool) (usedAt : TokenRow → Option String)

theorem mem_markUsed {row : TokenRow} (member : row ∈ table.rows) :
    (if chosen row then { row with usedAt := usedAt row } else row) ∈
      (table.markUsed chosen usedAt).1.rows :=
  List.mem_map_of_mem member

theorem markUsed_keeps (used : ∀ row, (usedAt row).isSome = true) :
    table.Keeps (table.markUsed chosen usedAt).1 := by
  intro row member
  refine ⟨_, mem_markUsed chosen usedAt member, ?_⟩
  split
  · exact ⟨rfl, rfl, fun _ => used row⟩
  · exact ⟨rfl, rfl, fun already => already⟩

theorem of_mem_markUsed {row : TokenRow}
    (member : row ∈ (table.markUsed chosen usedAt).1.rows) :
    ∃ old ∈ table.rows, old.tokenHash = row.tokenHash ∧
      old.nodeId = row.nodeId := by
  obtain ⟨old, inside, rfl⟩ := List.mem_map.mp member
  refine ⟨old, inside, ?_⟩
  split
  · exact ⟨rfl, rfl⟩
  · exact ⟨rfl, rfl⟩

theorem markUsed_refused
    (keyed : ∀ row, chosen row = true → row.tokenHash = tokenHash)
    (refused : (table.markUsed chosen usedAt).2 ≠ 1) :
    (table.markUsed chosen usedAt).1.rows = table.rows := by
  have atMost := table.countP_le_one chosen keyed
  have notOne : table.rows.countP chosen ≠ 1 := refused
  have unchosen := List.countP_eq_zero.mp
    (by omega : table.rows.countP chosen = 0)
  have same : table.rows.map (fun row =>
      if chosen row then { row with usedAt := usedAt row } else row) =
        table.rows.map id := by
    apply List.map_congr_left
    intro row member
    exact if_neg (unchosen row member)
  exact same.trans (List.map_id _)

theorem markUsed_accepted
    (accepted : (table.markUsed chosen usedAt).2 = 1) :
    ∃ row ∈ table.rows, chosen row = true ∧
      { row with usedAt := usedAt row } ∈
        (table.markUsed chosen usedAt).1.rows := by
  have one : table.rows.countP chosen = 1 := accepted
  obtain ⟨row, member, isChosen⟩ := List.countP_pos_iff.mp
    (by omega : 0 < table.rows.countP chosen)
  have marked := mem_markUsed chosen usedAt member
  rw [if_pos isChosen] at marked
  exact ⟨row, member, isChosen, marked⟩

end MarkUsed

theorem consumable_iff {row : TokenRow} :
    consumable tokenHash nodeId now row = true ↔
      row.tokenHash = tokenHash ∧ row.nodeId = nodeId ∧ row.usedAt = none ∧
        now < row.expiresAt := by
  simp [consumable, and_assoc]

private theorem consume_refused
    (refused : (table.consume tokenHash nodeId now).2 = false) :
    (table.consume tokenHash nodeId now).1.rows = table.rows := by
  apply markUsed_refused (consumable tokenHash nodeId now) _
    fun row chosen => (consumable_iff.mp chosen).1
  simpa [consume] using refused

private theorem consume_accepted
    (accepted : (table.consume tokenHash nodeId now).2 = true) :
    ∃ row ∈ table.rows, row.tokenHash = tokenHash ∧ row.nodeId = nodeId ∧
      row.usedAt = none ∧ { row with usedAt := some now } ∈
        (table.consume tokenHash nodeId now).1.rows := by
  obtain ⟨row, member, chosen, marked⟩ :=
    table.markUsed_accepted (consumable tokenHash nodeId now)
      (fun _ => some now) (by simpa [consume] using accepted)
  obtain ⟨hash, node, unused, -⟩ := consumable_iff.mp chosen
  exact ⟨row, member, hash, node, unused, marked⟩

private theorem revoke_refused
    (refused : (table.revoke tokenHash now).2 = false) :
    (table.revoke tokenHash now).1.rows = table.rows := by
  apply markUsed_refused (fun row => row.tokenHash == tokenHash) _
    fun row chosen => eq_of_beq chosen
  simpa [revoke] using refused

private theorem revoke_accepted
    (accepted : (table.revoke tokenHash now).2 = true) :
    ∃ row ∈ (table.revoke tokenHash now).1.rows,
      row.tokenHash = tokenHash ∧ row.usedAt.isSome = true := by
  obtain ⟨row, member, chosen, marked⟩ :=
    table.markUsed_accepted (fun row => row.tokenHash == tokenHash)
      (fun row => some (row.usedAt.getD now))
      (by simpa [revoke] using accepted)
  exact ⟨_, marked, eq_of_beq chosen, rfl⟩

end TokenTable

def Call.response (call : Call) : Option Response :=
  match call.phase with
  | .answered response => some response
  | .returned response => some response
  | _ => none

def Response.isError : Response → Bool
  | .error _ _ => true
  | _ => false

/-- The statement or check that decides the handler's response is past. -/
def EnrollState.Answers (state : EnrollState) (index : ℕ) (request : Request)
    (response : Response) : Prop :=
  ∃ call, state.calls[index]? = some call ∧ call.request = request ∧
    call.response = some response

def Event.call : Event → Option ℕ
  | .insert index _ _ => some index
  | .sign index _ => some index
  | .readCa index _ _ => some index
  | .consume index _ => some index
  | .revoke index _ _ => some index
  | .resume index => some index
  | _ => none

variable {index : ℕ} {succeeds : Bool}

theorem stepInsert_cases {clock : ℤ}
    (taken : stepInsert platform before index clock succeeds = some after) :
    ∃ call body token expiresAt createdBy,
      before.calls[index]? = some call ∧ call.request = .create body ∧
      call.phase = .inserting token expiresAt createdBy ∧
      ((∃ createdAt, before.table.insert {
            tokenHash := platform.hashToken token
            nodeId := trim body.nodeId
            createdAt, expiresAt, createdBy } = some after.table ∧
          after.calls = before.calls.set index { call with
            phase := .answered (.created (trim body.nodeId) token
              (platform.hashToken token) expiresAt) }) ∨
        after = before.setPhase index call
          (.answered (.error 500 "failed to create token"))) := by
  simp only [stepInsert, Option.bind_eq_bind, Option.bind_eq_some_iff]
    at taken
  obtain ⟨call, found, result⟩ := taken
  split at result
  · next body token expiresAt createdBy request phase =>
      refine ⟨call, body, token, expiresAt, createdBy, found, request, phase, ?_⟩
      split at result
      · next createdAt _ =>
          split at result
          · next table written =>
              obtain rfl := Option.some.inj result
              exact .inl ⟨createdAt, written, rfl⟩
          · exact .inr (Option.some.inj result).symm
      · exact .inr (Option.some.inj result).symm
  · cases result

theorem stepSign_cases {signedCert : Option String}
    (taken : stepSign before index signedCert = some after) :
    ∃ call phase, before.calls[index]? = some call ∧
      call.phase = .signing ∧ after = before.setPhase index call phase ∧
      ((∃ cert, signedCert = some cert ∧ phase = .reading cert) ∨
        phase = .returned (.error 400 "CSR signing failed")) := by
  simp only [stepSign, Option.bind_eq_bind, Option.bind_eq_some_iff] at taken
  obtain ⟨call, found, result⟩ := taken
  split at result
  · next signing =>
      split at result
      · exact ⟨call, _, found, signing, (Option.some.inj result).symm,
          .inl ⟨_, rfl, rfl⟩⟩
      · exact ⟨call, _, found, signing, (Option.some.inj result).symm,
          .inr rfl⟩
  · cases result

theorem stepReadCa_cases {caCertPem : Option String} {clock : ℤ}
    (taken : stepReadCa platform before index caCertPem clock = some after) :
    ∃ call cert phase, before.calls[index]? = some call ∧
      call.phase = .reading cert ∧ after = before.setPhase index call phase ∧
      ((∃ ca now, phase = .consuming cert ca now) ∨
        ∃ message, phase = .returned (.error 500 message)) := by
  simp only [stepReadCa, Option.bind_eq_bind, Option.bind_eq_some_iff]
    at taken
  obtain ⟨call, found, result⟩ := taken
  split at result
  · next cert reading =>
      split at result
      · exact ⟨call, cert, _, found, reading, (Option.some.inj result).symm,
          .inr ⟨_, rfl⟩⟩
      · exact ⟨call, cert, _, found, reading, (Option.some.inj result).symm,
          .inr ⟨_, rfl⟩⟩
      · exact ⟨call, cert, _, found, reading, (Option.some.inj result).symm,
          .inl ⟨_, _, rfl⟩⟩
  · cases result

theorem stepConsume_cases
    (taken : stepConsume config platform before index succeeds =
      some after) :
    ∃ call body cert ca now, before.calls[index]? = some call ∧
      call.request = .enroll body ∧ call.phase = .consuming cert ca now ∧
      ((succeeds = true ∧
          (before.table.consume (platform.hashToken (trim body.token))
              (trim body.nodeId) now).2 = true ∧
          after.table = (before.table.consume
            (platform.hashToken (trim body.token)) (trim body.nodeId) now).1 ∧
          after.calls = before.calls.set index { call with
            phase := .answered (.enrolled (trim body.nodeId) cert ca
              config.certValidDays) }) ∨
        (after.table.rows = before.table.rows ∧ ∃ status message,
          after.calls = before.calls.set index { call with
            phase := .answered (.error status message) })) := by
  simp only [stepConsume, Option.bind_eq_bind, Option.bind_eq_some_iff]
    at taken
  obtain ⟨call, found, result⟩ := taken
  split at result
  · next body cert ca now request phase =>
      refine ⟨call, body, cert, ca, now, found, request, phase, ?_⟩
      split at result
      · next succeeded =>
        obtain rfl := Option.some.inj result
        cases accepted : (before.table.consume
            (platform.hashToken (trim body.token)) (trim body.nodeId) now).2 with
        | true => exact .inl ⟨succeeded, rfl, rfl, rfl⟩
        | false =>
            exact .inr ⟨TokenTable.consume_refused accepted, 401,
              "invalid or expired token", rfl⟩
      · obtain rfl := Option.some.inj result
        exact .inr ⟨rfl, 500, "token validation failed", rfl⟩
  · cases result

theorem stepRevoke_cases {clock : ℤ}
    (taken : stepRevoke platform before index clock succeeds = some after) :
    ∃ call tokenHash, before.calls[index]? = some call ∧
      call.request = .revoke tokenHash ∧ call.phase = .revoking ∧
      ((∃ now, (before.table.revoke (trim tokenHash) now).2 = true ∧
          after.table = (before.table.revoke (trim tokenHash) now).1 ∧
          after.calls = before.calls.set index { call with
            phase := .answered (.revoked tokenHash) }) ∨
        (after.table.rows = before.table.rows ∧ ∃ status message,
          after.calls = before.calls.set index { call with
            phase := .answered (.error status message) })) := by
  simp only [stepRevoke, Option.bind_eq_bind, Option.bind_eq_some_iff]
    at taken
  obtain ⟨call, found, result⟩ := taken
  split at result
  · next tokenHash request revoking =>
      refine ⟨call, tokenHash, found, request, revoking, ?_⟩
      split at result
      · next now _ =>
          obtain rfl := Option.some.inj result
          cases accepted : (before.table.revoke (trim tokenHash) now).2 with
          | true => exact .inl ⟨now, accepted, rfl, rfl⟩
          | false =>
              exact .inr ⟨TokenTable.revoke_refused accepted, 404,
                "token not found", rfl⟩
      · obtain rfl := Option.some.inj result
        exact .inr ⟨rfl, 500, "failed to revoke token", rfl⟩
  · cases result

theorem stepResume_cases (taken : stepResume before index = some after) :
    ∃ call response, before.calls[index]? = some call ∧
      call.phase = .answered response ∧
      after = before.setPhase index call (.returned response) := by
  simp only [stepResume, Option.bind_eq_bind, Option.bind_eq_some_iff]
    at taken
  obtain ⟨call, found, result⟩ := taken
  split at result
  · next response answered =>
      exact ⟨call, response, found, answered, (Option.some.inj result).symm⟩
  · cases result

/-- A statement that decides on a response other than an error. -/
inductive Decides (platform : Platform) (table next : TokenTable) :
    Request → Response → Prop
  | created {body : CreateTokenRequest}
      {token expiresAt createdAt createdBy : String}
      (written : table.insert {
        tokenHash := platform.hashToken token
        nodeId := trim body.nodeId
        createdAt, expiresAt, createdBy } = some next) :
      Decides platform table next (.create body) (.created (trim body.nodeId)
        token (platform.hashToken token) expiresAt)
  | enrolled {body : EnrollRequest} {cert ca now : String} {days : ℕ}
      (accepted : (table.consume (platform.hashToken (trim body.token))
        (trim body.nodeId) now).2 = true)
      (written : next = (table.consume (platform.hashToken (trim body.token))
        (trim body.nodeId) now).1) :
      Decides platform table next (.enroll body)
        (.enrolled (trim body.nodeId) cert ca days)
  | revoked {tokenHash now : String}
      (accepted : (table.revoke (trim tokenHash) now).2 = true)
      (written : next = (table.revoke (trim tokenHash) now).1) :
      Decides platform table next (.revoke tokenHash) (.revoked tokenHash)

inductive EnrollStep (platform : Platform) (before after : EnrollState)
    (event : Event) : Prop
  | quiet (table : after.table.rows = before.table.rows)
      (kept : ∀ {index request response},
        before.Answers index request response →
        after.Answers index request response)
      (known : ∀ {index request response}, response.isError = false →
        after.Answers index request response →
        before.Answers index request response)
  | decide (index : ℕ) (call : Call) (request : Request)
      (response : Response) (own : event.call = some index)
      (consumes : ∀ body, request = .enroll body →
        event = .consume index true)
      (found : before.calls[index]? = some call)
      (requested : call.request = request) (undecided : call.response = none)
      (decides : Decides platform before.table after.table request response)
      (calls : after.calls = before.calls.set index
        { call with phase := .answered response })

theorem answers_set {call : Call} {phase : Phase} {other : ℕ}
    {request : Request} {response : Response}
    (found : before.calls[index]? = some call)
    (calls : after.calls = before.calls.set index { call with phase }) :
    after.Answers other request response ↔
      if other = index then
        call.request = request ∧
          Call.response { call with phase } = some response
      else before.Answers other request response := by
  have inside := (List.getElem?_eq_some_iff.mp found).1
  simp only [EnrollState.Answers, calls, List.getElem?_set]
  by_cases same : other = index
  · subst same
    simp [inside]
  · have different : index ≠ other := fun eq => same eq.symm
    simp [same, different]

theorem EnrollStep.of_move {call : Call} {phase : Phase}
    (found : before.calls[index]? = some call)
    (table : after.table.rows = before.table.rows)
    (calls : after.calls = before.calls.set index { call with phase })
    (same : Call.response { call with phase } = call.response ∨
      call.response = none ∧ ∀ response,
        Call.response { call with phase } = some response →
          response.isError = true) :
    EnrollStep platform before after event := by
  refine .quiet table ?_ ?_
  · intro other request response answers
    rw [answers_set found calls]
    split
    · next here =>
        subst here
        obtain ⟨_, known, requested, responded⟩ := answers
        obtain rfl := Option.some.inj (found.symm.trans known)
        rcases same with same | ⟨undecided, -⟩
        · exact ⟨requested, same.trans responded⟩
        · rw [undecided] at responded
          cases responded
    · exact answers
  · intro other request response sound answers
    rw [answers_set found calls] at answers
    split at answers
    · next here =>
        subst here
        rcases same with same | ⟨-, errors⟩
        · exact ⟨call, found, answers.1, same.symm.trans answers.2⟩
        · rw [errors response answers.2] at sound
          cases sound
    · exact answers

theorem EnrollStep.of_start {new : Call}
    (table : after.table = before.table)
    (calls : after.calls = before.calls ++ [new])
    (errors : ∀ response, new.response = some response →
      response.isError = true) :
    EnrollStep platform before after event := by
  refine .quiet (by rw [table]) ?_ ?_
  · rintro index request response ⟨call, found, requested, responded⟩
    have inside := (List.getElem?_eq_some_iff.mp found).1
    refine ⟨call, ?_, requested, responded⟩
    rw [calls, List.getElem?_append_left inside, found]
  · rintro index request response sound ⟨call, found, requested, responded⟩
    rw [calls, List.getElem?_append] at found
    split at found
    · exact ⟨call, found, requested, responded⟩
    · rw [List.getElem?_singleton] at found
      split at found
      · obtain rfl := Option.some.inj found
        rw [errors response responded] at sound
        cases sound
      · cases found

/-- How a handler comes to its first await, if it comes that far. -/
inductive Begun : Phase → Prop
  | refused (status : ℕ) (message : String) :
      Begun (.returned (.error status message))
  | inserting (token expiresAt createdBy : String) :
      Begun (.inserting token expiresAt createdBy)
  | signing : Begun .signing
  | revoking : Begun .revoking

theorem begun_createToken (authorization : Option String)
    (body : CreateTokenRequest) (uuids : String × String) (clock : ℤ) :
    Begun (createToken config platform authorization body uuids clock) := by
  unfold createToken
  split
  · exact .refused _ _
  split
  · exact .refused _ _
  split
  · exact .refused _ _
  simp only
  split
  · exact .refused _ _
  · exact .inserting _ _ _

theorem begun_enrollNode (body : EnrollRequest) :
    Begun (enrollNode config body) := by
  unfold enrollNode
  split
  · exact .refused _ _
  split
  · exact .refused _ _
  split
  · exact .refused _ _
  split
  · exact .refused _ _
  · exact .signing

theorem begun_adminRevokeToken (authorization : Option String)
    (tokenHash : String) :
    Begun (adminRevokeToken config authorization tokenHash) := by
  unfold adminRevokeToken
  split
  · exact .refused _ _
  split
  · exact .refused _ _
  split
  · exact .refused _ _
  · exact .revoking

theorem Begun.errors {phase : Phase} (begun : Begun phase) (request : Request)
    (response : Response)
    (responded : Call.response { request, phase } = some response) :
    response.isError = true := by
  cases begun with
  | refused status message =>
      obtain rfl := Option.some.inj responded
      rfl
  | inserting token expiresAt createdBy => cases responded
  | signing => cases responded
  | revoking => cases responded

theorem enroll_step (taken : step config platform before event = some after) :
    EnrollStep platform before after event := by
  cases event with
  | createToken authorization body uuids clock =>
      cases taken
      exact .of_start rfl rfl
        ((begun_createToken authorization body uuids clock).errors _)
  | enrollNode body =>
      cases taken
      exact .of_start rfl rfl ((begun_enrollNode body).errors _)
  | adminRevokeToken authorization tokenHash =>
      cases taken
      exact .of_start rfl rfl
        ((begun_adminRevokeToken authorization tokenHash).errors _)
  | insert index clock succeeds =>
      obtain ⟨call, body, token, expiresAt, createdBy, found, request, phase,
        ⟨createdAt, written, calls⟩ | rfl⟩ := stepInsert_cases taken
      · exact .decide index call _ _ rfl (fun _ same => by cases same) found
          request (by simp [Call.response, phase]) (.created written) calls
      · refine .of_move found rfl rfl (.inr ⟨by simp [Call.response, phase], ?_⟩)
        rintro response ⟨⟩
        rfl
  | sign index signedCert =>
      obtain ⟨call, phase, found, signing, rfl, ⟨cert, -, rfl⟩ | rfl⟩ :=
        stepSign_cases taken
      · exact .of_move found rfl rfl (.inl (by simp [Call.response, signing]))
      · refine .of_move found rfl rfl
          (.inr ⟨by simp [Call.response, signing], ?_⟩)
        rintro response ⟨⟩
        rfl
  | readCa index caCertPem clock =>
      obtain ⟨call, cert, phase, found, reading, rfl,
        ⟨ca, now, rfl⟩ | ⟨message, rfl⟩⟩ := stepReadCa_cases taken
      · exact .of_move found rfl rfl (.inl (by simp [Call.response, reading]))
      · refine .of_move found rfl rfl
          (.inr ⟨by simp [Call.response, reading], ?_⟩)
        rintro response ⟨⟩
        rfl
  | consume index succeeds =>
      obtain ⟨call, body, cert, ca, now, found, request, phase,
        ⟨rfl, accepted, table, calls⟩ | ⟨table, status, message, calls⟩⟩ :=
        stepConsume_cases taken
      · exact .decide index call _ _ rfl (fun _ _ => rfl) found request
          (by simp [Call.response, phase]) (.enrolled accepted table) calls
      · refine .of_move found table calls
          (.inr ⟨by simp [Call.response, phase], ?_⟩)
        rintro response ⟨⟩
        rfl
  | revoke index clock succeeds =>
      obtain ⟨call, tokenHash, found, request, phase,
        ⟨now, accepted, table, calls⟩ | ⟨table, status, message, calls⟩⟩ :=
        stepRevoke_cases taken
      · exact .decide index call _ _ rfl (fun _ same => by cases same) found
          request (by simp [Call.response, phase]) (.revoked accepted table) calls
      · refine .of_move found table calls
          (.inr ⟨by simp [Call.response, phase], ?_⟩)
        rintro response ⟨⟩
        rfl
  | resume index =>
      obtain ⟨call, response, found, answered, rfl⟩ := stepResume_cases taken
      exact .of_move found rfl rfl (.inl (by simp [Call.response, answered]))

section Decision

variable {call : Call} {request asked : Request}
variable {response decision : Response} {other : ℕ}

theorem answers_now (found : before.calls[index]? = some call)
    (requested : call.request = request)
    (calls : after.calls = before.calls.set index
      { call with phase := .answered response }) :
    after.Answers index request response := by
  rw [answers_set found calls, if_pos rfl]
  exact ⟨requested, rfl⟩

theorem answers_kept (found : before.calls[index]? = some call)
    (undecided : call.response = none)
    (calls : after.calls = before.calls.set index
      { call with phase := .answered response })
    (answers : before.Answers other asked decision) :
    after.Answers other asked decision := by
  rw [answers_set found calls]
  split
  · next here =>
      subst here
      obtain ⟨_, known, -, responded⟩ := answers
      obtain rfl := Option.some.inj (found.symm.trans known)
      rw [undecided] at responded
      cases responded
  · exact answers

theorem answers_now_or_before (found : before.calls[index]? = some call)
    (requested : call.request = request)
    (calls : after.calls = before.calls.set index
      { call with phase := .answered response })
    (answers : after.Answers other asked decision) :
    (other = index ∧ asked = request ∧ decision = response) ∨
      before.Answers other asked decision := by
  rw [answers_set found calls] at answers
  split at answers
  · next here =>
      exact .inl ⟨here, answers.1.symm.trans requested,
        (Option.some.inj answers.2).symm⟩
  · exact .inr answers

end Decision

private theorem answers_step {request : Request} {response : Response}
    (taken : step config platform before event = some after)
    (answers : before.Answers index request response) :
    after.Answers index request response := by
  cases enroll_step taken with
  | quiet table kept known => exact kept answers
  | decide decided call asked decision own consumes found requested undecided
      decides calls =>
      exact answers_kept found undecided calls answers

private theorem answers_functional {request other : Request}
    {response decision : Response}
    (first : final.Answers index request response)
    (second : final.Answers index other decision) :
    request = other ∧ response = decision := by
  obtain ⟨call, found, rfl, responded⟩ := first
  obtain ⟨_, known, rfl, decided⟩ := second
  obtain rfl := Option.some.inj (found.symm.trans known)
  exact ⟨rfl, Option.some.inj (responded.symm.trans decided)⟩

structure Ledger (platform : Platform) (state : EnrollState) : Prop where
  creation : ∀ row ∈ state.table.rows, ∃ index body token expiresAt,
    state.Answers index (.create body)
      (.created row.nodeId token row.tokenHash expiresAt) ∧
    trim body.nodeId = row.nodeId ∧ platform.hashToken token = row.tokenHash
  created : ∀ index body nodeId token tokenHash expiresAt,
    state.Answers index (.create body)
      (.created nodeId token tokenHash expiresAt) →
    tokenHash = platform.hashToken token ∧
      ∃ row ∈ state.table.rows, row.tokenHash = tokenHash ∧
        row.nodeId = nodeId
  enrolled : ∀ index body nodeId cert ca days,
    state.Answers index (.enroll body) (.enrolled nodeId cert ca days) →
    nodeId = trim body.nodeId ∧
      ∃ row ∈ state.table.rows,
        row.tokenHash = platform.hashToken (trim body.token) ∧
        row.nodeId = nodeId ∧ row.usedAt.isSome = true
  revoked : ∀ index tokenHash,
    state.Answers index (.revoke tokenHash) (.revoked tokenHash) →
      ∃ row ∈ state.table.rows, row.tokenHash = trim tokenHash ∧
        row.usedAt.isSome = true
  single : ∀ index other body otherBody nodeId otherId cert otherCert ca
      otherCa days otherDays,
    state.Answers index (.enroll body) (.enrolled nodeId cert ca days) →
    state.Answers other (.enroll otherBody)
      (.enrolled otherId otherCert otherCa otherDays) →
    platform.hashToken (trim body.token) =
      platform.hashToken (trim otherBody.token) → index = other

private theorem ledger_start (config : Config) :
    Ledger platform (enrollment config platform).init where
  creation row member := by cases member
  created _ _ _ _ _ _ answers := by
    obtain ⟨_, found, -⟩ := answers
    cases found
  enrolled _ _ _ _ _ _ answers := by
    obtain ⟨_, found, -⟩ := answers
    cases found
  revoked _ _ answers := by
    obtain ⟨_, found, -⟩ := answers
    cases found
  single _ _ _ _ _ _ _ _ _ _ _ _ answers := by
    obtain ⟨_, found, -⟩ := answers
    cases found

private theorem ledger_quiet (ledger : Ledger platform before)
    (table : after.table.rows = before.table.rows)
    (kept : ∀ {index request response},
      before.Answers index request response →
      after.Answers index request response)
    (known : ∀ {index request response}, response.isError = false →
      after.Answers index request response →
      before.Answers index request response) :
    Ledger platform after where
  creation row member := by
    rw [table] at member
    obtain ⟨index, body, token, expiresAt, answers, same⟩ :=
      ledger.creation row member
    exact ⟨index, body, token, expiresAt, kept answers, same⟩
  created index body nodeId token tokenHash expiresAt answers := by
    rw [table]
    exact ledger.created index body nodeId token tokenHash expiresAt
      (known rfl answers)
  enrolled index body nodeId cert ca days answers := by
    rw [table]
    exact ledger.enrolled index body nodeId cert ca days (known rfl answers)
  revoked index tokenHash answers := by
    rw [table]
    exact ledger.revoked index tokenHash (known rfl answers)
  single index other body otherBody nodeId otherId cert otherCert ca otherCa
      days otherDays first second same :=
    ledger.single index other body otherBody nodeId otherId cert otherCert ca
      otherCa days otherDays (known rfl first) (known rfl second) same

section Decides

variable {next : TokenTable} {request : Request} {response : Response}

theorem Decides.keeps (decides : Decides platform table next request response) :
    table.Keeps next := by
  cases decides with
  | created written => exact TokenTable.insert_keeps written
  | enrolled accepted written =>
      rw [written]
      exact TokenTable.markUsed_keeps _ _ fun _ => rfl
  | revoked accepted written =>
      rw [written]
      exact TokenTable.markUsed_keeps _ _ fun _ => rfl

theorem Decides.origin (decides : Decides platform table next request response)
    {row : TokenRow} (member : row ∈ next.rows) :
    (∃ old ∈ table.rows, old.tokenHash = row.tokenHash ∧
      old.nodeId = row.nodeId) ∨
    ∃ body token expiresAt, request = .create body ∧
      response = .created row.nodeId token row.tokenHash expiresAt ∧
      trim body.nodeId = row.nodeId ∧
      platform.hashToken token = row.tokenHash := by
  cases decides with
  | created written =>
      rw [(TokenTable.insert_cases written).1] at member
      rcases List.mem_append.mp member with old | new
      · exact .inl ⟨row, old, rfl, rfl⟩
      · obtain rfl := List.mem_singleton.mp new
        exact .inr ⟨_, _, _, rfl, rfl, rfl, rfl⟩
  | enrolled accepted written =>
      rw [written] at member
      exact .inl (TokenTable.of_mem_markUsed _ _ member)
  | revoked accepted written =>
      rw [written] at member
      exact .inl (TokenTable.of_mem_markUsed _ _ member)

private theorem Decides.create_cases {body : CreateTokenRequest}
    {nodeId token tokenHash expiresAt : String}
    (decides : Decides platform table next (.create body)
      (.created nodeId token tokenHash expiresAt)) :
    tokenHash = platform.hashToken token ∧
      ∃ row ∈ next.rows, row.tokenHash = tokenHash ∧ row.nodeId = nodeId := by
  cases decides with
  | created written =>
      refine ⟨rfl, ?_⟩
      rw [(TokenTable.insert_cases written).1]
      exact ⟨_, List.mem_append_right _ (List.mem_singleton.mpr rfl), rfl, rfl⟩

theorem Decides.enroll_cases {body : EnrollRequest}
    {nodeId cert ca : String} {days : ℕ}
    (decides : Decides platform table next (.enroll body)
      (.enrolled nodeId cert ca days)) :
    nodeId = trim body.nodeId ∧
      (∃ row ∈ table.rows,
        row.tokenHash = platform.hashToken (trim body.token) ∧
        row.usedAt = none) ∧
      ∃ row ∈ next.rows,
        row.tokenHash = platform.hashToken (trim body.token) ∧
        row.nodeId = nodeId ∧ row.usedAt.isSome = true := by
  cases decides with
  | enrolled accepted written =>
      obtain ⟨row, member, hash, node, unused, marked⟩ :=
        TokenTable.consume_accepted accepted
      refine ⟨rfl, ⟨row, member, hash, unused⟩, ?_⟩
      rw [written]
      exact ⟨_, marked, hash, node, rfl⟩

private theorem Decides.revoke_cases {tokenHash : String}
    (decides : Decides platform table next (.revoke tokenHash)
      (.revoked tokenHash)) :
    ∃ row ∈ next.rows, row.tokenHash = trim tokenHash ∧
      row.usedAt.isSome = true := by
  cases decides with
  | revoked accepted written =>
      rw [written]
      exact TokenTable.revoke_accepted accepted

end Decides

/-- Every certificate went out on a used token for the requested node. -/
def Consumed (platform : Platform) (state : EnrollState) : Prop :=
  ∀ index body nodeId cert ca days,
    state.Answers index (.enroll body) (.enrolled nodeId cert ca days) →
    nodeId = trim body.nodeId ∧ ∃ row ∈ state.table.rows,
      row.tokenHash = platform.hashToken (trim body.token) ∧
      row.nodeId = nodeId ∧ row.usedAt.isSome = true

theorem consumed_decide {call : Call} {request : Request}
    {response : Response} (consumed : Consumed platform before)
    (found : before.calls[index]? = some call)
    (requested : call.request = request)
    (decides : Decides platform before.table after.table request response)
    (calls : after.calls = before.calls.set index
      { call with phase := .answered response }) :
    Consumed platform after := by
  intro other body nodeId cert ca days answers
  rcases answers_now_or_before found requested calls answers with
    ⟨rfl, rfl, rfl⟩ | earlier
  · obtain ⟨trimmed, -, row⟩ := decides.enroll_cases
    exact ⟨trimmed, row⟩
  · obtain ⟨trimmed, row, member, hash, node, used⟩ :=
      consumed _ _ _ _ _ _ earlier
    obtain ⟨keptRow, keptMember, keptHash, keptNode, stillUsed⟩ :=
      decides.keeps row member
    exact ⟨trimmed, keptRow, keptMember, keptHash.trans hash,
      keptNode.trans node, stillUsed used⟩

/-- A consumption finds its row unused, so no certificate went out before for
a token with that hash. -/
theorem Ledger.alone {other : ℕ} {body otherBody : EnrollRequest}
    {nodeId otherId cert otherCert ca otherCa : String} {days otherDays : ℕ}
    {next : TokenTable} (ledger : Ledger platform before)
    (decides : Decides platform before.table next (.enroll body)
      (.enrolled nodeId cert ca days))
    (earlier : before.Answers other (.enroll otherBody)
      (.enrolled otherId otherCert otherCa otherDays)) :
    platform.hashToken (trim body.token) ≠
      platform.hashToken (trim otherBody.token) := by
  intro same
  obtain ⟨-, ⟨row, member, hash, unused⟩, -⟩ := decides.enroll_cases
  obtain ⟨-, old, oldMember, oldHash, -, used⟩ :=
    ledger.enrolled _ _ _ _ _ _ earlier
  obtain rfl := TokenTable.eq_of_hash member oldMember
    (hash.trans (same.trans oldHash.symm))
  rw [unused] at used
  cases used

private theorem ledger_decide {call : Call} {request : Request}
    {response : Response} (ledger : Ledger platform before)
    (found : before.calls[index]? = some call)
    (requested : call.request = request)
    (undecided : call.response = none)
    (decides : Decides platform before.table after.table request response)
    (calls : after.calls = before.calls.set index
      { call with phase := .answered response }) :
    Ledger platform after := by
  have known {other : ℕ} {asked : Request} {decision : Response}
      (answers : after.Answers other asked decision) :=
    answers_now_or_before found requested calls answers
  constructor
  · intro row member
    rcases decides.origin member with ⟨old, oldMember, hash, node⟩ |
      ⟨body, token, expiresAt, rfl, rfl, trimmed, hashed⟩
    · obtain ⟨other, body, token, expiresAt, answers, trimmed, hashed⟩ :=
        ledger.creation old oldMember
      rw [hash, node] at answers
      exact ⟨other, body, token, expiresAt,
        answers_kept found undecided calls answers, trimmed.trans node,
        hashed.trans hash⟩
    · exact ⟨index, body, token, expiresAt,
        answers_now found requested calls, trimmed, hashed⟩
  · intro other body nodeId token tokenHash expiresAt answers
    rcases known answers with ⟨rfl, rfl, rfl⟩ | earlier
    · exact decides.create_cases
    · obtain ⟨hashed, row, member, hash, node⟩ :=
        ledger.created _ _ _ _ _ _ earlier
      obtain ⟨keptRow, keptMember, keptHash, keptNode, -⟩ :=
        decides.keeps row member
      exact ⟨hashed, keptRow, keptMember, keptHash.trans hash,
        keptNode.trans node⟩
  · exact consumed_decide ledger.enrolled found requested decides calls
  · intro other tokenHash answers
    rcases known answers with ⟨rfl, rfl, rfl⟩ | earlier
    · exact decides.revoke_cases
    · obtain ⟨row, member, hash, used⟩ := ledger.revoked _ _ earlier
      obtain ⟨keptRow, keptMember, keptHash, -, stillUsed⟩ :=
        decides.keeps row member
      exact ⟨keptRow, keptMember, keptHash.trans hash, stillUsed used⟩
  · intro first second body otherBody nodeId otherId cert otherCert ca otherCa
      days otherDays answers others same
    rcases known answers with ⟨rfl, rfl, rfl⟩ | earlier
    · rcases known others with ⟨rfl, -, -⟩ | otherEarlier
      · rfl
      · exact absurd same (ledger.alone decides otherEarlier)
    · rcases known others with ⟨rfl, rfl, rfl⟩ | otherEarlier
      · exact absurd same.symm (ledger.alone decides earlier)
      · exact ledger.single _ _ _ _ _ _ _ _ _ _ _ _ earlier otherEarlier same

theorem ledger_run (run : (enrollment config platform).Run history final) :
    Ledger platform final := by
  induction run with
  | start => exact ledger_start config
  | next run taken ih =>
      cases enroll_step taken with
      | quiet table kept known => exact ledger_quiet ih table kept known
      | decide index call request response own consumes found requested
          undecided decides calls =>
          exact ledger_decide ih found requested undecided decides calls

def HasCertificate (state : EnrollState) (index : ℕ)
    (token nodeId : String) : Prop :=
  ∃ body cert ca days, trim body.token = token ∧
    state.calls[index]? =
      some (Call.mk (.enroll body) (.returned (.enrolled nodeId cert ca days)))

def IsCreatedFor (state : EnrollState) (token nodeId : String) : Prop :=
  ∃ index body tokenHash expiresAt, trim body.nodeId = nodeId ∧
    state.Answers index (.create body)
      (.created nodeId token tokenHash expiresAt)

def RevokeCompleted (state : EnrollState) (tokenHash : String) : Prop :=
  ∃ (index : ℕ) (text : String), trim text = tokenHash ∧
    state.calls[index]? =
      some (Call.mk (.revoke text) (.returned (.revoked text)))

/-- At most one certificate for each token, for the node it was created for, and
not when a revoke was complete before the token was consumed. A call that ends
with an error has left the table alone. -/
structure OneTime (config : Config) (platform : Platform)
    (history : History EnrollState Event) (state : EnrollState) : Prop where
  once : ∀ token index other nodeId otherId,
    HasCertificate state index token nodeId →
    HasCertificate state other token otherId → index = other
  bound : ∀ token index nodeId, HasCertificate state index token nodeId →
    IsCreatedFor state token nodeId ∧
      ∀ otherId, IsCreatedFor state token otherId → otherId = nodeId
  unrevoked : ∀ token index nodeId, HasCertificate state index token nodeId →
    ∃ earlier, (earlier, .consume index true) ∈ history ∧
      ¬ RevokeCompleted earlier (platform.hashToken token)
  unburnt : ∀ index body status message,
    state.calls[index]? =
      some (Call.mk (.enroll body) (.returned (.error status message))) →
    ∀ earlier event next, (earlier, event) ∈ history →
      event.call = some index →
      step config platform earlier event = some next →
      next.table.rows = earlier.table.rows

theorem HasCertificate.answers {token : String}
    (certified : HasCertificate final index token nodeId) :
    ∃ body cert ca days, trim body.token = token ∧
      final.Answers index (.enroll body) (.enrolled nodeId cert ca days) := by
  obtain ⟨body, cert, ca, days, same, found⟩ := certified
  exact ⟨body, cert, ca, days, same, _, found, rfl, rfl⟩

private theorem used_of_revokeCompleted (ledger : Ledger platform final)
    (completed : RevokeCompleted final tokenHash) :
    ∃ row ∈ final.table.rows, row.tokenHash = tokenHash ∧
      row.usedAt.isSome = true := by
  obtain ⟨index, text, rfl, found⟩ := completed
  exact ledger.revoked index text ⟨_, found, rfl, rfl⟩

/-- Every certificate goes back to a consumption before which no revoke of its
token was complete. -/
theorem consumed_unrevoked
    (run : (enrollment config platform).Run history final)
    {body : EnrollRequest} {cert ca : String} {days : ℕ}
    (answers : final.Answers index (.enroll body)
      (.enrolled nodeId cert ca days)) :
    ∃ earlier, (earlier, .consume index true) ∈ history ∧
      ¬ RevokeCompleted earlier (platform.hashToken (trim body.token)) := by
  induction run with
  | start =>
      obtain ⟨_, found, -⟩ := answers
      cases found
  | @next past before after event run taken ih =>
      have remembers (earlier : before.Answers index (.enroll body)
          (.enrolled nodeId cert ca days)) :
          ∃ earlier, (earlier, .consume index true) ∈ past ++ [(before, event)] ∧
            ¬ RevokeCompleted earlier
              (platform.hashToken (trim body.token)) := by
        obtain ⟨state, member, unrevoked⟩ := ih earlier
        exact ⟨state, List.mem_append_left _ member, unrevoked⟩
      cases enroll_step taken with
      | quiet table kept known => exact remembers (known rfl answers)
      | decide decided call request response own consumes found requested
          undecided decides calls =>
          rcases answers_now_or_before found requested calls answers with
            ⟨rfl, rfl, rfl⟩ | earlier
          · obtain rfl := consumes body rfl
            refine ⟨before, by simp, fun completed => ?_⟩
            obtain ⟨-, ⟨row, member, hash, unused⟩, -⟩ := decides.enroll_cases
            obtain ⟨old, oldMember, oldHash, used⟩ :=
              used_of_revokeCompleted (ledger_run run) completed
            obtain rfl := TokenTable.eq_of_hash member oldMember
              (hash.trans oldHash.symm)
            rw [unused] at used
            cases used
          · exact remembers earlier

private theorem decided_of_changed
    (run : (enrollment config platform).Run history final)
    {earlier next : EnrollState} (member : (earlier, event) ∈ history)
    (own : event.call = some index)
    (taken : step config platform earlier event = some next)
    (changed : next.table.rows ≠ earlier.table.rows) :
    ∃ request response, response.isError = false ∧
      final.Answers index request response := by
  induction run with
  | start => cases member
  | @next past before after last run taken' ih =>
      rcases List.mem_append.mp member with inside | here
      · obtain ⟨request, response, sound, answers⟩ := ih inside
        exact ⟨request, response, sound, answers_step taken' answers⟩
      · obtain ⟨rfl, rfl⟩ := Prod.mk.inj (List.mem_singleton.mp here)
        obtain rfl := Option.some.inj (taken.symm.trans taken')
        cases enroll_step taken with
        | quiet table kept known => exact absurd table changed
        | decide decided call request response others consumes found requested
            undecided decides calls =>
            obtain rfl := Option.some.inj (others.symm.trans own)
            refine ⟨request, response, ?_, ?_⟩
            · cases decides with
              | created => rfl
              | enrolled => rfl
              | revoked => rfl
            · exact answers_now found requested calls

theorem oneTime_run (collisionFree : Function.Injective platform.hashToken)
    (run : (enrollment config platform).Run history final) :
    OneTime config platform history final := by
  have ledger := ledger_run run
  constructor
  · intro token index other nodeId otherId first second
    obtain ⟨body, cert, ca, days, same, answers⟩ := first.answers
    obtain ⟨otherBody, otherCert, otherCa, otherDays, otherSame, others⟩ :=
      second.answers
    exact ledger.single _ _ _ _ _ _ _ _ _ _ _ _ answers others
      (by rw [same, otherSame])
  · intro token index nodeId certified
    obtain ⟨body, cert, ca, days, rfl, answers⟩ := certified.answers
    obtain ⟨-, row, member, hash, node, -⟩ :=
      ledger.enrolled _ _ _ _ _ _ answers
    constructor
    · obtain ⟨creator, created, token, expiresAt, made, trimmed, hashed⟩ :=
        ledger.creation row member
      obtain rfl := collisionFree (hashed.trans hash)
      rw [node] at made trimmed
      exact ⟨creator, created, _, expiresAt, trimmed, made⟩
    · rintro otherId ⟨creator, created, tokenHash, expiresAt, -, made⟩
      obtain ⟨hashed, other, otherMember, otherHash, otherNode⟩ :=
        ledger.created _ _ _ _ _ _ made
      obtain rfl := TokenTable.eq_of_hash member otherMember
        (hash.trans (hashed.symm.trans otherHash.symm))
      exact otherNode.symm.trans node
  · intro token index nodeId certified
    obtain ⟨body, cert, ca, days, rfl, answers⟩ := certified.answers
    exact consumed_unrevoked run answers
  · intro index body status message found earlier event next member own taken
    by_contra changed
    obtain ⟨request, response, sound, answers⟩ :=
      decided_of_changed run member own taken changed
    obtain ⟨-, rfl⟩ := answers_functional answers
      ⟨_, found, rfl, rfl⟩
    cases sound

def exampleToken : String :=
  "enr_0f8fad5bd9cb469fa16570867728950e_7c9e6679742540de944be07fc1f90ae7"

def exampleHash : String :=
  "e35df95e250acc78fb7dc3b297e6a91f4a5fe48af6e8b7be8b0ac68dffbb38e5"

def examplePlatform : Platform where
  hashToken := Equiv.swap exampleToken exampleHash
  rfc3339 := fun nanoseconds =>
    if nanoseconds = 0 then some "1970-01-01T00:00:00Z"
    else if nanoseconds = 600000000000 then some "1970-01-01T00:10:00Z"
    else none

def exampleConfig : Config where
  enabled := true
  adminToken := some "secret"
  defaultTokenTtlSeconds := 600
  certValidDays := 30

private def exampleEnroll : EnrollRequest where
  nodeId := "node-7 "
  token := exampleToken
  csrPem := "-----BEGIN CERTIFICATE REQUEST-----"

private def exampleAnswer : Response := .enrolled "node-7" "cert" "ca" 30

private def enrollEvents : List Event :=
  [.createToken (some "Bearer secret") ⟨"node-7", none⟩
      ("0f8fad5bd9cb469fa16570867728950e", "7c9e6679742540de944be07fc1f90ae7")
      0,
    .insert 0 0 true, .resume 0, .enrollNode exampleEnroll,
    .sign 1 (some "cert"), .readCa 1 (some "ca") 0, .consume 1 true]

theorem oneTime_run_enrolled :
    ∃ history final,
      (enrollment exampleConfig examplePlatform).Run history final ∧
      HasCertificate final 1 exampleToken "node-7" ∧
      OneTime exampleConfig examplePlatform history final := by
  obtain ⟨history, final, run, observed⟩ :=
    (enrollment exampleConfig examplePlatform).exists_run_of_trace
      (enrollEvents ++ [.resume 1])
      (fun outcome => outcome.2.calls[1]? =
        some ⟨.enroll exampleEnroll, .returned exampleAnswer⟩)
      (by decide +kernel)
  have certified : HasCertificate final 1 exampleToken "node-7" :=
    ⟨exampleEnroll, "cert", "ca", 30, by decide +kernel,
      of_decide_eq_true observed⟩
  exact ⟨history, final, run, certified,
    oneTime_run (Equiv.injective _) run⟩

/-- No call comes back with a certificate once a revoke of its token has
completed. -/
def NeverAfterRevoke (platform : Platform)
    (history : History EnrollState Event) (state : EnrollState) : Prop :=
  ∀ earlier index token nodeId, (earlier, .resume index) ∈ history →
    RevokeCompleted earlier (platform.hashToken token) →
    ¬ HasCertificate state index token nodeId

/-- The token is revoked between its consumption and the response. -/
theorem certificate_after_revoke :
    ∃ history final,
      (enrollment exampleConfig examplePlatform).Run history final ∧
      ¬ NeverAfterRevoke examplePlatform history final := by
  obtain ⟨history, before, run, observed⟩ :=
    (enrollment exampleConfig examplePlatform).exists_run_of_trace
      (enrollEvents ++
        [.adminRevokeToken (some "Bearer secret") exampleHash,
          .revoke 2 0 true, .resume 2])
      (fun outcome =>
        outcome.2.calls[1]? =
          some ⟨.enroll exampleEnroll, .answered exampleAnswer⟩ ∧
        outcome.2.calls[2]? =
          some ⟨.revoke exampleHash, .returned (.revoked exampleHash)⟩)
      (by decide +kernel)
  obtain ⟨enrolling, revoked⟩ := of_decide_eq_true observed
  have completed :
      RevokeCompleted before (examplePlatform.hashToken exampleToken) :=
    ⟨2, exampleHash, by decide +kernel, revoked⟩
  have taken : (enrollment exampleConfig examplePlatform).step before
      (.resume 1) =
        some (before.setPhase 1
          ⟨.enroll exampleEnroll, .answered exampleAnswer⟩
          (.returned exampleAnswer)) := by
    simp only [enrollment, step, stepResume, enrolling]
    rfl
  refine ⟨_, _, run.next taken, fun never => ?_⟩
  refine never before 1 exampleToken "node-7" (by simp) completed
    ⟨exampleEnroll, "cert", "ca", 30, by decide +kernel, ?_⟩
  have inside : 1 < before.calls.length :=
    (List.getElem?_eq_some_iff.mp enrolling).1
  exact List.getElem?_set_self inside

end JwSwarm.FleetManager.Enrollment
