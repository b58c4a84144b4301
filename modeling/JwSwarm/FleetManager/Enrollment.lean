import Mathlib.Data.List.Nodup
import JwSwarm.Data.ListSet
import JwSwarm.Transition.Machine

namespace JwSwarm.FleetManager.Enrollment

open Data Transition

/-! Bootstrap enrollment: one-time tokens, their table, and the three handlers
that touch it, cut at every await. -/

structure Config where
  enabled : Bool
  adminToken : Option String
  defaultTokenTtlSeconds : ℤ
  certValidDays : ℕ

/-- The hash of a token and the text of a time in nanoseconds, both computed by
libraries. -/
structure Platform where
  hashToken : String → String
  rfc3339 : ℤ → Option String

/-- The Unicode property `White_Space`. -/
def isWhiteSpace (char : Char) : Bool :=
  let code := char.toNat
  (9 ≤ code && code ≤ 13) || code == 0x20 || code == 0x85 || code == 0xA0 ||
    code == 0x1680 || (0x2000 ≤ code && code ≤ 0x200A) || code == 0x2028 ||
    code == 0x2029 || code == 0x202F || code == 0x205F || code == 0x3000

def trim (text : String) : String :=
  String.ofList
    ((text.toList.dropWhile isWhiteSpace).reverse.dropWhile isWhiteSpace).reverse

def contains (text pattern : String) : Bool :=
  text.toList.tails.any fun rest => pattern.toList.isPrefixOf rest

/-- The credentials after `Bearer `, in any case, trimmed. -/
def extractBearer (authorization : Option String) : Option String :=
  authorization.bind fun value =>
    if "bearer ".toList.isPrefixOf (value.toLower.toList) then
      some (trim (String.ofList (value.toList.drop 7)))
    else none

def isAuthorizedAdmin (authorization expected : Option String) : Bool :=
  match expected, extractBearer authorization with
  | some expected, some actual => actual == expected
  | _, _ => false

structure TokenRow where
  tokenHash : String
  nodeId : String
  createdAt : String
  expiresAt : String
  usedAt : Option String := none
  createdBy : String

structure TokenTable where
  rows : List TokenRow
  primaryKey : (rows.map TokenRow.tokenHash).Nodup

namespace TokenTable

def empty : TokenTable where
  rows := []
  primaryKey := List.nodup_nil

/-- `INSERT`; a second row with the same hash violates the primary key. -/
def insert (table : TokenTable) (row : TokenRow) : Option TokenTable :=
  if fresh : row.tokenHash ∉ table.rows.map TokenRow.tokenHash then
    some {
      rows := table.rows ++ [row]
      primaryKey := by
        rw [List.map_append]
        exact List.nodup_append.mpr ⟨table.primaryKey, List.nodup_singleton _,
          fun _ old _ new same => fresh (by
            rw [List.map_singleton, List.mem_singleton] at new
            rwa [← new, ← same])⟩ }
  else none

/-- `UPDATE … SET used_at = … WHERE …`, with the number of rows affected. -/
def markUsed (table : TokenTable) (chosen : TokenRow → Bool)
    (usedAt : TokenRow → Option String) : TokenTable × ℕ :=
  ({ rows := table.rows.map fun row =>
        if chosen row then { row with usedAt := usedAt row } else row
     primaryKey := by
        have same : (table.rows.map fun row =>
            if chosen row then { row with usedAt := usedAt row } else row).map
              TokenRow.tokenHash = table.rows.map TokenRow.tokenHash := by
          rw [List.map_map]
          apply List.map_congr_left
          intro row _
          simp only [Function.comp_apply]
          split <;> rfl
        rw [same]
        exact table.primaryKey },
    table.rows.countP chosen)

def consumable (tokenHash nodeId now : String) (row : TokenRow) : Bool :=
  row.tokenHash == tokenHash && row.nodeId == nodeId && row.usedAt.isNone &&
    decide (now < row.expiresAt)

def consume (table : TokenTable) (tokenHash nodeId now : String) :
    TokenTable × Bool :=
  let result := table.markUsed (consumable tokenHash nodeId now)
    fun _ => some now
  (result.1, result.2 == 1)

def revoke (table : TokenTable) (tokenHash now : String) :
    TokenTable × Bool :=
  let result := table.markUsed (fun row => row.tokenHash == tokenHash)
    fun row => some (row.usedAt.getD now)
  (result.1, result.2 == 1)

end TokenTable

structure CreateTokenRequest where
  nodeId : String
  ttlSeconds : Option ℤ
  deriving DecidableEq

structure EnrollRequest where
  nodeId : String
  token : String
  csrPem : String
  deriving DecidableEq

inductive Request where
  | create (body : CreateTokenRequest)
  | enroll (body : EnrollRequest)
  | revoke (tokenHash : String)
  deriving DecidableEq

inductive Response where
  | error (status : ℕ) (message : String)
  | created (nodeId token tokenHash expiresAt : String)
  | enrolled (nodeId nodeCertPem caCertPem : String) (certDays : ℕ)
  | revoked (tokenHash : String)
  deriving DecidableEq

/-- `answered` is a handler whose statement has run and that has not resumed. -/
inductive Phase where
  | inserting (token expiresAt createdBy : String)
  | signing
  | reading (signedCert : String)
  | consuming (signedCert caCertPem now : String)
  | revoking
  | answered (response : Response)
  | returned (response : Response)
  deriving DecidableEq

structure Call where
  request : Request
  phase : Phase
  deriving DecidableEq

structure EnrollState where
  table : TokenTable := .empty
  calls : List Call := []

def EnrollState.setPhase (state : EnrollState) (index : ℕ) (call : Call)
    (phase : Phase) : EnrollState :=
  { state with calls := state.calls.set index { call with phase } }

/-- Signing and reading the CA certificate end with a result or fail; a
statement succeeds or fails; `now` is the clock when the handler reads it. -/
inductive Event where
  | createToken (authorization : Option String) (body : CreateTokenRequest)
      (uuids : String × String) (now : ℤ)
  | enrollNode (body : EnrollRequest)
  | adminRevokeToken (authorization : Option String) (tokenHash : String)
  | insert (call : ℕ) (now : ℤ) (succeeds : Bool)
  | sign (call : ℕ) (signedCert : Option String)
  | readCa (call : ℕ) (caCertPem : Option String) (now : ℤ)
  | consume (call : ℕ) (succeeds : Bool)
  | revoke (call : ℕ) (now : ℤ) (succeeds : Bool)
  | resume (call : ℕ)

def createToken (config : Config) (platform : Platform)
    (authorization : Option String) (body : CreateTokenRequest)
    (uuids : String × String) (now : ℤ) : Phase :=
  if config.enabled = false then
    .returned (.error 404 "enrollment disabled")
  else if (trim body.nodeId).isEmpty then
    .returned (.error 400 "node_id is required")
  else if isAuthorizedAdmin authorization config.adminToken = false then
    .returned (.error 401 "unauthorized")
  else
    let ttl := (body.ttlSeconds.filter fun ttl => 60 ≤ ttl ∧ ttl ≤ 86400).getD
      config.defaultTokenTtlSeconds
    match platform.rfc3339 (now + ttl * 1000000000) with
    | none => .returned (.error 500 "time formatting error")
    | some expiresAt =>
        let createdBy :=
          ((extractBearer authorization).map fun _ => "api-admin").getD "admin"
        .inserting ("enr_" ++ uuids.1 ++ "_" ++ uuids.2) expiresAt createdBy

def enrollNode (config : Config) (body : EnrollRequest) : Phase :=
  if config.enabled = false then
    .returned (.error 404 "enrollment disabled")
  else if (trim body.nodeId).isEmpty then
    .returned (.error 400 "node_id is required")
  else if (trim body.token).isEmpty then
    .returned (.error 400 "token is required")
  else if contains body.csrPem "BEGIN CERTIFICATE REQUEST" = false then
    .returned (.error 400 "csr_pem must be a PEM CSR")
  else .signing

def adminRevokeToken (config : Config) (authorization : Option String)
    (tokenHash : String) : Phase :=
  if config.enabled = false then
    .returned (.error 404 "enrollment disabled")
  else if isAuthorizedAdmin authorization config.adminToken = false then
    .returned (.error 401 "unauthorized")
  else if (trim tokenHash).isEmpty then
    .returned (.error 400 "token hash is required")
  else .revoking

def stepInsert (platform : Platform) (state : EnrollState) (index : ℕ)
    (now : ℤ) (succeeds : Bool) : Option EnrollState := do
  let call ← state.calls[index]?
  match call.request, call.phase with
  | .create body, .inserting token expiresAt createdBy =>
      let failed := state.setPhase index call
        (.answered (.error 500 "failed to create token"))
      match platform.rfc3339 now, succeeds with
      | some createdAt, true =>
          let nodeId := trim body.nodeId
          let tokenHash := platform.hashToken token
          match state.table.insert
            { tokenHash, nodeId, createdAt, expiresAt, createdBy } with
          | some table =>
              some { state.setPhase index call (.answered
                (.created nodeId token tokenHash expiresAt)) with table }
          | none => some failed
      | _, _ => some failed
  | _, _ => none

def stepSign (state : EnrollState) (index : ℕ) (signedCert : Option String) :
    Option EnrollState := do
  let call ← state.calls[index]?
  match call.phase with
  | .signing =>
      match signedCert with
      | some signedCert =>
          some (state.setPhase index call (.reading signedCert))
      | none => some (state.setPhase index call
          (.returned (.error 400 "CSR signing failed")))
  | _ => none

def stepReadCa (platform : Platform) (state : EnrollState) (index : ℕ)
    (caCertPem : Option String) (now : ℤ) : Option EnrollState := do
  let call ← state.calls[index]?
  match call.phase with
  | .reading signedCert =>
      match caCertPem, platform.rfc3339 now with
      | none, _ => some (state.setPhase index call
          (.returned (.error 500 "failed to read CA cert")))
      | some _, none => some (state.setPhase index call
          (.returned (.error 500 "time formatting error")))
      | some caCertPem, some now =>
          some (state.setPhase index call
            (.consuming signedCert caCertPem now))
  | _ => none

def stepConsume (config : Config) (platform : Platform) (state : EnrollState)
    (index : ℕ) (succeeds : Bool) : Option EnrollState := do
  let call ← state.calls[index]?
  match call.request, call.phase with
  | .enroll body, .consuming signedCert caCertPem now =>
      if succeeds then
        let nodeId := trim body.nodeId
        let result := state.table.consume
          (platform.hashToken (trim body.token)) nodeId now
        let response :=
          if result.2 then
            .enrolled nodeId signedCert caCertPem config.certValidDays
          else .error 401 "invalid or expired token"
        some { state.setPhase index call (.answered response) with
          table := result.1 }
      else some (state.setPhase index call
        (.answered (.error 500 "token validation failed")))
  | _, _ => none

def stepRevoke (platform : Platform) (state : EnrollState) (index : ℕ)
    (now : ℤ) (succeeds : Bool) : Option EnrollState := do
  let call ← state.calls[index]?
  match call.request, call.phase with
  | .revoke tokenHash, .revoking =>
      match platform.rfc3339 now, succeeds with
      | some now, true =>
          let result := state.table.revoke (trim tokenHash) now
          let response :=
            if result.2 then .revoked tokenHash
            else .error 404 "token not found"
          some { state.setPhase index call (.answered response) with
            table := result.1 }
      | _, _ => some (state.setPhase index call
          (.answered (.error 500 "failed to revoke token")))
  | _, _ => none

def stepResume (state : EnrollState) (index : ℕ) : Option EnrollState := do
  let call ← state.calls[index]?
  match call.phase with
  | .answered response =>
      some (state.setPhase index call (.returned response))
  | _ => none

def step (config : Config) (platform : Platform) (state : EnrollState) :
    Event → Option EnrollState
  | .createToken authorization body uuids now =>
      some { state with calls := state.calls ++ [{
        request := .create body
        phase := createToken config platform authorization body uuids now }] }
  | .enrollNode body =>
      some { state with calls := state.calls ++ [{
        request := .enroll body
        phase := enrollNode config body }] }
  | .adminRevokeToken authorization tokenHash =>
      some { state with calls := state.calls ++ [{
        request := .revoke tokenHash
        phase := adminRevokeToken config authorization tokenHash }] }
  | .insert call now succeeds => stepInsert platform state call now succeeds
  | .sign call signedCert => stepSign state call signedCert
  | .readCa call caCertPem now => stepReadCa platform state call caCertPem now
  | .consume call succeeds => stepConsume config platform state call succeeds
  | .revoke call now succeeds => stepRevoke platform state call now succeeds
  | .resume call => stepResume state call

def enrollment (config : Config) (platform : Platform) :
    Machine EnrollState Event where
  init := {}
  step := step config platform

end JwSwarm.FleetManager.Enrollment
