import JwSwarm.FleetManager.EnrollmentTokens

namespace JwSwarm.FleetManager.Enrollment

open Data Transition Machine

/-! Whom a certificate names: the token binds a node id, the CSR brings a
subject of its own, and the signing tool copies the subject. -/

/-- What the signing tool reads off PEM texts, and which certificates it makes
of a CSR. `x509 -req` without a subject argument keeps the CSR's subject. -/
structure Openssl where
  csrCommonName : String → Option String
  certCommonName : String → Option String
  signs : String → String → Prop
  keepsSubject : ∀ {csrPem cert : String}, signs csrPem cert →
    certCommonName cert = csrCommonName csrPem

/-- A signing that ends with a certificate has signed the CSR of its call. -/
def SignsCsr (openssl : Openssl) (state : EnrollState) : Event → Prop
  | .sign index (some signedCert) =>
      ∀ body phase, state.calls[index]? = some (Call.mk (.enroll body) phase) →
        openssl.signs body.csrPem signedCert
  | _ => True

/-- The service on a database that already holds a token table. -/
def enrollmentFrom (config : Config) (platform : Platform)
    (table : TokenTable) : Machine EnrollState Event where
  init := { table }
  step := step config platform

variable {config : Config} {platform : Platform} {openssl : Openssl}
variable {initial : TokenTable} {history : History EnrollState Event}
variable {before after final : EnrollState} {event : Event} {index : ℕ}

def Phase.cert : Phase → Option String
  | .reading signedCert => some signedCert
  | .consuming signedCert _ _ => some signedCert
  | .answered (.enrolled _ nodeCertPem _ _) => some nodeCertPem
  | .returned (.enrolled _ nodeCertPem _ _) => some nodeCertPem
  | _ => none

def Certified (openssl : Openssl) (state : EnrollState) : Prop :=
  ∀ (index : ℕ) (body : EnrollRequest) (phase : Phase) (cert : String),
    state.calls[index]? = some (Call.mk (.enroll body) phase) →
    phase.cert = some cert → openssl.signs body.csrPem cert

theorem certified_start {new : Call} (certified : Certified openssl before)
    (calls : after.calls = before.calls ++ [new])
    (blank : new.phase.cert = none) : Certified openssl after := by
  intro index body phase cert found holds
  rw [calls, List.getElem?_append] at found
  split at found
  · exact certified index body phase cert found holds
  · rw [List.getElem?_singleton] at found
    split at found
    · obtain rfl := Option.some.inj found
      rw [blank] at holds
      cases holds
    · cases found

theorem certified_move {call : Call} {phase : Phase}
    (certified : Certified openssl before)
    (found : before.calls[index]? = some call)
    (calls : after.calls = before.calls.set index { call with phase })
    (origin : ∀ body cert, call.request = .enroll body →
      phase.cert = some cert → call.phase.cert = some cert ∨
        openssl.signs body.csrPem cert) :
    Certified openssl after := by
  intro other body now cert known holds
  rw [calls, List.getElem?_set] at known
  split at known
  · next here =>
      subst here
      rw [if_pos (List.getElem?_eq_some_iff.mp found).1] at known
      obtain ⟨request, phase⟩ := call
      obtain ⟨rfl, rfl⟩ := Call.mk.inj (Option.some.inj known)
      rcases origin body cert rfl holds with old | signed
      · exact certified index body phase cert found old
      · exact signed
  · exact certified other body now cert known holds

theorem Begun.cert {phase : Phase} (begun : Begun phase) :
    phase.cert = none := by
  cases begun with
  | refused status message => rfl
  | inserting token expiresAt createdBy => rfl
  | signing => rfl
  | revoking => rfl

private theorem certified_step (certified : Certified openssl before)
    (signs : SignsCsr openssl before event)
    (taken : step config platform before event = some after) :
    Certified openssl after := by
  cases event with
  | createToken authorization body uuids clock =>
      cases taken
      exact certified_start certified rfl
        (begun_createToken authorization body uuids clock).cert
  | enrollNode body =>
      cases taken
      exact certified_start certified rfl (begun_enrollNode body).cert
  | adminRevokeToken authorization tokenHash =>
      cases taken
      exact certified_start certified rfl
        (begun_adminRevokeToken authorization tokenHash).cert
  | insert index clock succeeds =>
      obtain ⟨call, body, token, expiresAt, createdBy, found, -, -,
        ⟨createdAt, -, calls⟩ | rfl⟩ := stepInsert_cases taken
      · exact certified_move certified found calls fun _ _ _ none => by
          cases none
      · exact certified_move certified found rfl fun _ _ _ none => by
          cases none
  | sign index signedCert =>
      obtain ⟨call, phase, found, -, rfl, ⟨cert, rfl, rfl⟩ | rfl⟩ :=
        stepSign_cases taken
      · refine certified_move certified found rfl ?_
        rintro body cert requested ⟨⟩
        obtain ⟨request, phase⟩ := call
        obtain rfl : request = .enroll body := requested
        exact .inr (signs body phase found)
      · exact certified_move certified found rfl fun _ _ _ none => by
          cases none
  | readCa index caCertPem clock =>
      obtain ⟨call, cert, phase, found, reading, rfl,
        ⟨ca, now, rfl⟩ | ⟨message, rfl⟩⟩ := stepReadCa_cases taken
      · refine certified_move certified found rfl fun _ _ _ holds => .inl ?_
        rw [reading]
        exact holds
      · exact certified_move certified found rfl fun _ _ _ none => by
          cases none
  | consume index succeeds =>
      obtain ⟨call, body, cert, ca, now, found, -, consuming,
        ⟨-, -, -, calls⟩ | ⟨-, status, message, calls⟩⟩ :=
        stepConsume_cases taken
      · refine certified_move certified found calls
          fun _ _ _ holds => .inl ?_
        rw [consuming]
        exact holds
      · exact certified_move certified found calls fun _ _ _ none => by
          cases none
  | revoke index clock succeeds =>
      obtain ⟨call, tokenHash, found, -, -,
        ⟨now, -, -, calls⟩ | ⟨-, status, message, calls⟩⟩ :=
        stepRevoke_cases taken
      · exact certified_move certified found calls fun _ _ _ none => by
          cases none
      · exact certified_move certified found calls fun _ _ _ none => by
          cases none
  | resume index =>
      obtain ⟨call, response, found, answered, rfl⟩ := stepResume_cases taken
      refine certified_move certified found rfl fun _ _ _ holds => .inl ?_
      rw [answered]
      cases response with
      | enrolled nodeId cert ca days => exact holds
      | _ => cases holds

private theorem certified_run
    (run : (enrollmentFrom config platform initial).Run history final)
    (signed : Guarded (fun _ => SignsCsr openssl) history) :
    Certified openssl final := by
  induction run with
  | start =>
      intro index body phase cert found
      cases found
  | next run taken ih =>
      obtain ⟨signed, signs⟩ := guarded_concat.mp signed
      exact certified_step (ih signed) signs taken

private theorem consumed_step (consumed : Consumed platform before)
    (taken : step config platform before event = some after) :
    Consumed platform after := by
  cases enroll_step taken with
  | quiet table kept known =>
      intro index body nodeId cert ca days answers
      rw [table]
      exact consumed index body nodeId cert ca days (known rfl answers)
  | decide decided call request response own consumes found requested
      undecided decides calls =>
      exact consumed_decide consumed found requested decides calls

theorem consumed_run
    (run : (enrollmentFrom config platform initial).Run history final) :
    Consumed platform final := by
  induction run with
  | start =>
      rintro index body nodeId cert ca days ⟨_, found, -⟩
      cases found
  | next run taken ih => exact consumed_step ih taken

/-- A certificate names the node its token was bound to exactly when the CSR
names the node of the request: nothing else ties the two together. -/
theorem certificate_names_token
    (run : (enrollmentFrom config platform initial).Run history final)
    (signed : Guarded (fun _ => SignsCsr openssl) history)
    {body : EnrollRequest} {nodeId cert ca : String} {days : ℕ}
    (issued : final.calls[index]? = some (Call.mk (.enroll body)
      (.returned (.enrolled nodeId cert ca days)))) :
    ∃ row ∈ final.table.rows,
      row.tokenHash = platform.hashToken (trim body.token) ∧
      row.usedAt.isSome = true ∧
      (openssl.certCommonName cert = some row.nodeId ↔
        openssl.csrCommonName body.csrPem = some (trim body.nodeId)) := by
  obtain ⟨trimmed, row, member, hash, node, used⟩ :=
    consumed_run run index body nodeId cert ca days ⟨_, issued, rfl, rfl⟩
  have signs : openssl.signs body.csrPem cert :=
    certified_run run signed index body _ cert issued rfl
  refine ⟨row, member, hash, used, ?_⟩
  rw [openssl.keepsSubject signs, node, trimmed]

def enrolling (table : TokenTable) (body : EnrollRequest) (phase : Phase) :
    EnrollState :=
  { table, calls := [⟨.enroll body, phase⟩] }

/-- An enrollment that passes its checks and finds its token goes through. -/
theorem exists_exchange {body : EnrollRequest} {cert now : String} {clock : ℤ}
    (ca : String) (checked : enrollNode config body = .signing)
    (signs : openssl.signs body.csrPem cert)
    (time : platform.rfc3339 clock = some now)
    (accepted : (initial.consume (platform.hashToken (trim body.token))
      (trim body.nodeId) now).2 = true) :
    ∃ history final,
      (enrollmentFrom config platform initial).Run history final ∧
      Guarded (fun _ => SignsCsr openssl) history ∧
      final.calls[0]? = some (Call.mk (.enroll body) (.returned
        (.enrolled (trim body.nodeId) cert ca config.certValidDays))) := by
  have enrolls : (enrollmentFrom config platform initial).step
      (enrollmentFrom config platform initial).init (.enrollNode body) =
        some (enrolling initial body .signing) := by
    simp [enrollmentFrom, step, checked, enrolling]
  have signed : (enrollmentFrom config platform initial).step
      (enrolling initial body .signing) (.sign 0 (some cert)) =
        some (enrolling initial body (.reading cert)) := rfl
  have read : (enrollmentFrom config platform initial).step
      (enrolling initial body (.reading cert)) (.readCa 0 (some ca) clock) =
        some (enrolling initial body (.consuming cert ca now)) := by
    simp [enrollmentFrom, step, stepReadCa, enrolling, time,
      EnrollState.setPhase]
  have consumes : (enrollmentFrom config platform initial).step
      (enrolling initial body (.consuming cert ca now)) (.consume 0 true) =
        some (enrolling (initial.consume (platform.hashToken
          (trim body.token)) (trim body.nodeId) now).1 body (.answered
            (.enrolled (trim body.nodeId) cert ca config.certValidDays))) := by
    simp [enrollmentFrom, step, stepConsume, enrolling, accepted,
      EnrollState.setPhase]
  have resumes : (enrollmentFrom config platform initial).step
      (enrolling (initial.consume (platform.hashToken (trim body.token))
        (trim body.nodeId) now).1 body (.answered
          (.enrolled (trim body.nodeId) cert ca config.certValidDays)))
      (.resume 0) = some (enrolling (initial.consume (platform.hashToken
          (trim body.token)) (trim body.nodeId) now).1 body (.returned
            (.enrolled (trim body.nodeId) cert ca config.certValidDays))) :=
    rfl
  have run := (((Run.start.next enrolls).next signed).next read).next consumes
  refine ⟨_, _, run.next resumes, ?_, rfl⟩
  rw [guarded_iff_forall_mem]
  intro taken member
  simp only [List.nil_append, List.cons_append, List.mem_cons,
    List.not_mem_nil, or_false] at member
  rcases member with rfl | rfl | rfl | rfl | rfl
  · trivial
  · rintro other phase ⟨⟩
    exact signs
  · trivial
  · trivial
  · trivial

def exampleCsr : String :=
  "-----BEGIN CERTIFICATE REQUEST-----" ++ "
MIGQMEQCAQAwETEPMA0GA1UEAwwGbm9kZS03MCowBQYDK2VwAyEAShhA2YRJ4H7T
peJF5LZVJY8cj/KnLrbVVeH86rT24E+gADAFBgMrZXADQQDXaKwT3EzR3FRUnEnN
4WYZh+90RzeeaL2jlhGgdAitPlsrfOHNwNr6+XXoK/jmqK8id6winNhErUS/ArTE
yjIH
-----END CERTIFICATE REQUEST-----
"

def exampleCert : String :=
  "-----BEGIN CERTIFICATE-----
MIIBTzCCAQGgAwIBAgIUQIvjTR9zabXTiAzsf/cQPI7S8SowBQYDK2VwMA0xCzAJ
BgNVBAMMAmNhMB4XDTI2MTEyMDAwMjI0MVoXDTI2MTIyMDAwMjI0MVowETEPMA0G
A1UEAwwGbm9kZS03MCowBQYDK2VwAyEAShhA2YRJ4H7TpeJF5LZVJY8cj/KnLrbV
VeH86rT24E+jbzBtMAkGA1UdEwQCMAAwCwYDVR0PBAQDAgWgMBMGA1UdJQQMMAoG
CCsGAQUFBwMCMB0GA1UdDgQWBBT/jpTBDzNeBEo69bY7lyHRJtasXzAfBgNVHSME
GDAWgBQkSD/n+T1gArHROktSHAvaPxcIIzAFBgMrZXADQQAUi7SthYhD1fnlUVCz
pwh2p/JPHPcEPPXJohiJbYBT0GV1CwfQRh8wwbhxzQLYqywZ0MUbhIFj6iLIvl+I
840P
-----END CERTIFICATE-----
"

/-- As the tool behaves on this CSR and this certificate. -/
def exampleOpenssl : Openssl where
  csrCommonName := fun csrPem =>
    if csrPem = exampleCsr then some "node-7" else none
  certCommonName := fun cert =>
    if cert = exampleCert then some "node-7" else none
  signs := fun csrPem cert => csrPem = exampleCsr ∧ cert = exampleCert
  keepsSubject := by
    rintro csrPem cert ⟨rfl, rfl⟩
    rw [if_pos rfl, if_pos rfl]

private theorem contains_append {text pattern : String} (rest : String)
    (inside : contains text pattern = true) :
    contains (text ++ rest) pattern = true := by
  obtain ⟨tail, member, starts⟩ := List.any_eq_true.mp inside
  obtain ⟨front, same⟩ := (List.mem_tails ..).mp member
  have longer : (tail ++ rest.toList) ∈ (text ++ rest).toList.tails := by
    rw [List.mem_tails, String.toList_append, ← same, List.append_assoc]
    exact List.suffix_append front _
  refine List.any_eq_true.mpr ⟨_, longer, ?_⟩
  rw [List.isPrefixOf_iff_prefix] at starts ⊢
  exact starts.trans (List.prefix_append _ _)

def exampleTable (nodeId : String) : TokenTable where
  rows := [{
    tokenHash := exampleHash
    nodeId
    createdAt := "1970-01-01T00:00:00Z"
    expiresAt := "1970-01-01T00:10:00Z"
    createdBy := "api-admin" }]
  primaryKey := List.nodup_singleton _

def exchangeRequest (nodeId : String) : EnrollRequest where
  nodeId
  token := exampleToken
  csrPem := exampleCsr

private theorem enrollNode_exchange {nodeId : String}
    (named : (trim nodeId).isEmpty = false) :
    enrollNode exampleConfig (exchangeRequest nodeId) = .signing := by
  have token : (trim exampleToken).isEmpty = false := by decide +kernel
  have pem : contains exampleCsr "BEGIN CERTIFICATE REQUEST" = true := by
    apply contains_append
    decide +kernel
  simp [enrollNode, exchangeRequest, exampleConfig, named, token, pem]

private theorem certCommonName_exampleCert :
    exampleOpenssl.certCommonName exampleCert = some "node-7" := by
  simp [exampleOpenssl]

theorem exists_example_exchange (nodeId : String)
    (named : (trim nodeId).isEmpty = false)
    (accepted : ((exampleTable nodeId).consume
      (examplePlatform.hashToken (trim exampleToken)) (trim nodeId)
      "1970-01-01T00:00:00Z").2 = true) :
    ∃ history final,
      (enrollmentFrom exampleConfig examplePlatform
        (exampleTable nodeId)).Run history final ∧
      Guarded (fun _ => SignsCsr exampleOpenssl) history ∧
      final.calls[0]? = some (Call.mk (.enroll (exchangeRequest nodeId))
        (.returned (.enrolled (trim nodeId) exampleCert "ca" 30))) := by
  have signs : exampleOpenssl.signs (exchangeRequest nodeId).csrPem
      exampleCert := ⟨rfl, rfl⟩
  have time : examplePlatform.rfc3339 0 = some "1970-01-01T00:00:00Z" := rfl
  exact exists_exchange "ca" (enrollNode_exchange named) signs time accepted

theorem certificate_names_token_own :
    ∃ history final,
      (enrollmentFrom exampleConfig examplePlatform
        (exampleTable "node-7")).Run history final ∧
      ∃ row ∈ final.table.rows,
        row.tokenHash =
          examplePlatform.hashToken (trim (exchangeRequest "node-7").token) ∧
        row.usedAt.isSome = true ∧
        (exampleOpenssl.certCommonName exampleCert = some row.nodeId ↔
          exampleOpenssl.csrCommonName (exchangeRequest "node-7").csrPem =
            some (trim (exchangeRequest "node-7").nodeId)) := by
  obtain ⟨history, final, run, signed, issued⟩ :=
    exists_example_exchange "node-7" (by decide +kernel) (by decide +kernel)
  exact ⟨history, final, run, certificate_names_token run signed issued⟩

/-- The token of `node-8` buys a certificate that names `node-7`. -/
theorem certificate_names_another :
    ∃ history final,
      (enrollmentFrom exampleConfig examplePlatform
        (exampleTable "node-8")).Run history final ∧
      Guarded (fun _ => SignsCsr exampleOpenssl) history ∧
      final.calls[0]? = some (Call.mk (.enroll (exchangeRequest "node-8"))
        (.returned (.enrolled (trim "node-8") exampleCert "ca" 30))) ∧
      exampleOpenssl.certCommonName exampleCert = some "node-7" ∧
      ∃ row ∈ final.table.rows,
        row.tokenHash = examplePlatform.hashToken (trim exampleToken) ∧
        row.usedAt.isSome = true ∧ row.nodeId = "node-8" := by
  obtain ⟨history, final, run, signed, issued⟩ :=
    exists_example_exchange "node-8" (by decide +kernel) (by decide +kernel)
  obtain ⟨-, row, member, hash, node, used⟩ :=
    consumed_run run 0 _ _ _ _ _ ⟨_, issued, rfl, rfl⟩
  have trimmed : trim "node-8" = "node-8" := by decide +kernel
  exact ⟨history, final, run, signed, issued, certCommonName_exampleCert, row,
    member, hash, used, node.trans trimmed⟩

end JwSwarm.FleetManager.Enrollment
