import JwSwarm.Data.Calendar
import JwSwarm.FleetManager.EnrollmentTokens

namespace JwSwarm.FleetManager.Enrollment

open Data Calendar

/-! When a token expires: instants are stored, and compared by the table, as
their text. -/

/-- Times are written by `Rfc3339`. -/
def utc (hashToken : String → String) : Platform where
  hashToken := hashToken
  rfc3339 := formatRfc3339

def lifetime (config : Config) (body : CreateTokenRequest) : ℤ :=
  (body.ttlSeconds.filter fun ttl => 60 ≤ ttl ∧ ttl ≤ 86400).getD
    config.defaultTokenTtlSeconds

def expiry (creation lifetime : ℤ) : ℤ :=
  creation + lifetime * 1000000000

variable {config : Config} {platform : Platform} {body : CreateTokenRequest}
variable {authorization : Option String} {uuids : String × String}
variable {creation enrollment : ℤ} {token expiresAt createdBy now : String}

private theorem createToken_inserting
    (created : createToken config platform authorization body uuids creation =
      .inserting token expiresAt createdBy) :
    platform.rfc3339 (expiry creation (lifetime config body)) =
      some expiresAt := by
  unfold createToken at created
  split at created
  · cases created
  · split at created
    · cases created
    · split at created
      · cases created
      · simp only at created
        split at created
        · cases created
        · next text found =>
            obtain ⟨-, rfl, -⟩ := Phase.inserting.inj created
            exact found

namespace TokenTable

variable {table : TokenTable} {row : TokenRow} {nodeId : String}

private theorem consume_eq_true_iff (member : row ∈ table.rows) :
    (table.consume row.tokenHash nodeId now).2 = true ↔
      consumable row.tokenHash nodeId now row = true := by
  constructor
  · intro accepted
    obtain ⟨other, inside, chosen, -⟩ :=
      table.markUsed_accepted (consumable row.tokenHash nodeId now)
        (fun _ => some now) (by simpa [consume] using accepted)
    have same := eq_of_hash inside member (consumable_iff.mp chosen).1
    rwa [same] at chosen
  · intro chosen
    have atMost := table.countP_le_one (consumable row.tokenHash nodeId now)
      fun _ other => (consumable_iff.mp other).1
    have found := List.countP_pos_iff.mpr ⟨row, member, chosen⟩
    exact beq_iff_eq.mpr (Nat.le_antisymm atMost found)

end TokenTable

variable {table : TokenTable} {row : TokenRow} {hashToken : String → String}

/-- A token is consumed on time exactly where the enrollment's instant and the
expiry are not confusable. -/
theorem consumed_on_time_iff
    (created : createToken config (utc hashToken) authorization body uuids
      creation = .inserting token row.expiresAt createdBy)
    (read : formatRfc3339 enrollment = some now)
    (member : row ∈ table.rows) (unused : row.usedAt = none) :
    ((table.consume row.tokenHash row.nodeId now).2 = true ↔
        enrollment < expiry creation (lifetime config body)) ↔
      ¬ Confusable enrollment (expiry creation (lifetime config body)) := by
  have stored := createToken_inserting created
  have order := formatRfc3339_lt_iff read stored
  have accepted : (table.consume row.tokenHash row.nodeId now).2 = true ↔
      now < row.expiresAt := by
    rw [TokenTable.consume_eq_true_iff member, TokenTable.consumable_iff]
    simp [unused]
  rwa [accepted]

def minuteRow : TokenRow where
  tokenHash := "7c9e66"
  nodeId := "node-7"
  createdAt := "2023-11-14T22:13:20.5Z"
  expiresAt := "2023-11-14T22:14:20.5Z"
  createdBy := "api-admin"

def minuteTable : TokenTable where
  rows := [minuteRow]
  primaryKey := List.nodup_singleton _

private theorem minuteRow_created :
    createToken exampleConfig (utc id) (some "Bearer secret")
        ⟨"node-7", some 60⟩ ("0f8fad5b", "7c9e6679") 1700000000500000000 =
      .inserting "enr_0f8fad5b_7c9e6679" minuteRow.expiresAt "api-admin" := by
  decide +kernel

theorem minuteRow_consumed_on_time :
    ((minuteTable.consume "7c9e66" "node-7" "2023-11-14T22:14:19.75Z").2 =
        true ↔
      (1700000059750000000 : ℤ) < expiry 1700000000500000000 60) ↔
      ¬ Confusable 1700000059750000000 (expiry 1700000000500000000 60) :=
  consumed_on_time_iff minuteRow_created
    (by decide +kernel : formatRfc3339 1700000059750000000 = _)
    List.mem_cons_self rfl

/-- Ten milliseconds after its expiry the token is still consumed: `.51Z` is
before `.5Z` as text. -/
theorem minuteRow_consumed_late :
    formatRfc3339 1700000060510000000 = some "2023-11-14T22:14:20.51Z" ∧
      ¬ ((minuteTable.consume "7c9e66" "node-7" "2023-11-14T22:14:20.51Z").2 =
          true ↔
        (1700000060510000000 : ℤ) < expiry 1700000000500000000 60) := by
  decide +kernel

end JwSwarm.FleetManager.Enrollment
