import JwSwarm.Data.NumberText
import JwSwarm.FleetManager.TokenExpiry

namespace JwSwarm.FleetManager.Enrollment

open Data Calendar NumberText

/-! How long a token lives: the request's lifetime if that is within bounds, or
else the environment's, and the arithmetic of its expiry. -/

/-- The variables that `EnrollmentConfig::from_env` reads; `none` is one that is
unset or not UTF-8. -/
structure Env where
  enable : Option String := none
  adminToken : Option String := none
  tokenTtlSeconds : Option String := none
  certDays : Option String := none

def parsedTtl (env : Env) : Option ℤ :=
  env.tokenTtlSeconds.bind fun value => parseSigned 64 value.toList

def parsedDays (env : Env) : Option ℕ :=
  env.certDays.bind fun value => parseUnsigned 32 value.toList

def fromEnv (env : Env) : Config where
  enabled := env.enable.any fun value =>
    ["1", "true", "yes", "on"].contains value.toLower
  adminToken := (env.adminToken.map trim).filter fun value =>
    !value.isEmpty
  defaultTokenTtlSeconds :=
    ((parsedTtl env).filter fun value => 60 ≤ value).getD 600
  certValidDays := ((parsedDays env).filter fun value => 1 ≤ value).getD 30

/-- `OffsetDateTime + Duration`: it panics on a sum before the year -9999 or
after the year 9999. -/
def addSeconds (now seconds : ℤ) : Option ℤ :=
  let sum := expiry now seconds
  if -377705116800 * 1000000000 ≤ sum ∧ sum < newYear10000 then some sum
  else none

/-- The lifetime is within bounds, and neither adding it to the clock nor
writing the sum as text fails. -/
structure SafeLifetime (config : Config) (body : CreateTokenRequest) (now : ℤ) :
    Prop where
  bounded : 60 ≤ lifetime config body ∧ lifetime config body ≤ 86400
  added : ∃ instant, addSeconds now (lifetime config body) = some instant
  written : ∃ instant text,
    addSeconds now (lifetime config body) = some instant ∧
      formatRfc3339 instant = some text

def newYear9998 : ℤ := 253339228800 * 1000000000

example : formatRfc3339 newYear9998 = some "9998-01-01T00:00:00Z" := by
  decide +kernel

variable {config : Config} {body : CreateTokenRequest} {env : Env}
variable {authorization : Option String} {uuids : String × String}
variable {hashToken : String → String} {now instant seconds ttl : ℤ}

theorem createToken_of_addSeconds (enabled : config.enabled = true)
    (named : (trim body.nodeId).isEmpty = false)
    (authorized : isAuthorizedAdmin authorization config.adminToken = true)
    (added : addSeconds now (lifetime config body) = some instant) :
    createToken config (utc hashToken) authorization body uuids now =
      match formatRfc3339 instant with
      | none => .returned (.error 500 "time formatting error")
      | some expiresAt =>
          .inserting ("enr_" ++ uuids.1 ++ "_" ++ uuids.2) expiresAt
            (((extractBearer authorization).map fun _ => "api-admin").getD
              "admin") := by
  obtain ⟨-, sum⟩ := Option.ite_none_right_eq_some.mp added
  obtain rfl := Option.some.inj sum
  simp only [createToken, enabled, named, authorized]
  rfl

private theorem lifetime_of_within (asked : body.ttlSeconds = some ttl)
    (least : 60 ≤ ttl) (most : ttl ≤ 86400) : lifetime config body = ttl := by
  simp [lifetime, asked, Option.filter, least, most]

private theorem lifetime_of_without
    (outside : ∀ ttl, body.ttlSeconds = some ttl → ttl < 60 ∨ 86400 < ttl) :
    lifetime config body = config.defaultTokenTtlSeconds := by
  cases asked : body.ttlSeconds with
  | none => simp [lifetime, asked]
  | some ttl =>
      have rejected : ¬ (60 ≤ ttl ∧ ttl ≤ 86400) := by
        have := outside ttl asked
        omega
      simp [lifetime, asked, Option.filter, rejected]

private theorem defaultTtl_of_parsed (parsed : parsedTtl env = some seconds)
    (least : 60 ≤ seconds) :
    (fromEnv env).defaultTokenTtlSeconds = seconds := by
  simp [fromEnv, parsed, Option.filter, least]

private theorem defaultTtl_of_refused
    (refused : ∀ seconds, parsedTtl env = some seconds → seconds < 60) :
    (fromEnv env).defaultTokenTtlSeconds = 600 := by
  cases parsed : parsedTtl env with
  | none => simp [fromEnv, parsed]
  | some seconds =>
      have less := refused seconds parsed
      simp [fromEnv, parsed, Option.filter, less.not_ge]

/-- A request out of bounds leaves the choice to the environment, whose own
filter has no upper bound. -/
theorem lifetime_bounded_iff :
    60 ≤ lifetime (fromEnv env) body ∧ lifetime (fromEnv env) body ≤ 86400 ↔
      (∃ ttl, body.ttlSeconds = some ttl ∧ 60 ≤ ttl ∧ ttl ≤ 86400) ∨
        ∀ seconds, parsedTtl env = some seconds → seconds ≤ 86400 := by
  by_cases within : ∃ ttl, body.ttlSeconds = some ttl ∧ 60 ≤ ttl ∧ ttl ≤ 86400
  · obtain ⟨ttl, asked, least, most⟩ := within
    rw [lifetime_of_within asked least most]
    exact ⟨fun _ => .inl ⟨ttl, asked, least, most⟩, fun _ => ⟨least, most⟩⟩
  · have outside (ttl : ℤ) (asked : body.ttlSeconds = some ttl) :
        ttl < 60 ∨ 86400 < ttl := by
      by_contra inside
      exact within ⟨ttl, asked, by omega, by omega⟩
    rw [lifetime_of_without outside, or_iff_right within]
    by_cases refused : ∀ seconds, parsedTtl env = some seconds → seconds < 60
    · rw [defaultTtl_of_refused refused]
      refine ⟨fun _ seconds parsed => ?_, fun _ => by omega⟩
      have less := refused seconds parsed
      omega
    · push Not at refused
      obtain ⟨seconds, parsed, least⟩ := refused
      rw [defaultTtl_of_parsed parsed least, parsed]
      constructor
      · rintro ⟨-, most⟩ other same
        obtain rfl := Option.some.inj same
        exact most
      · intro most
        exact ⟨least, most seconds rfl⟩

private theorem exists_text_of_bounded (since : 0 ≤ now + epoch)
    (before : now < newYear9998) (least : 60 ≤ seconds)
    (most : seconds ≤ 86400) :
    ∃ instant text, addSeconds now seconds = some instant ∧
      formatRfc3339 instant = some text := by
  have later : 0 ≤ expiry now seconds + epoch := by
    unfold expiry
    omega
  have sooner : expiry now seconds < newYear10000 := by
    unfold expiry newYear10000 newYear9998 at *
    omega
  have above : -377705116800 * 1000000000 ≤ expiry now seconds := by
    unfold epoch at later
    omega
  obtain ⟨text, written⟩ := exists_formatRfc3339 later sooner
  exact ⟨_, text, if_pos ⟨above, sooner⟩, written⟩

theorem safeLifetime_iff (since : 0 ≤ now + epoch)
    (before : now < newYear9998) :
    SafeLifetime (fromEnv env) body now ↔
      (∃ ttl, body.ttlSeconds = some ttl ∧ 60 ≤ ttl ∧ ttl ≤ 86400) ∨
        ∀ seconds, parsedTtl env = some seconds → seconds ≤ 86400 := by
  rw [← lifetime_bounded_iff]
  constructor
  · intro safe
    exact safe.bounded
  · intro bounded
    obtain ⟨instant, text, added, written⟩ :=
      exists_text_of_bounded since before bounded.1 bounded.2
    exact ⟨bounded, ⟨instant, added⟩, instant, text, added, written⟩

def longestTtl : Env where
  enable := some "true"
  adminToken := some "secret"
  tokenTtlSeconds := some "9223372036854775807"

theorem safeLifetime_iff_longest :
    SafeLifetime (fromEnv longestTtl) ⟨"node-7", some 600⟩
        1700000000500000000 ↔
      (∃ ttl : ℤ, some 600 = some ttl ∧ 60 ≤ ttl ∧ ttl ≤ 86400) ∨
        ∀ seconds, parsedTtl longestTtl = some seconds → seconds ≤ 86400 :=
  @safeLifetime_iff ⟨"node-7", some 600⟩ longestTtl 1700000000500000000
    (by decide) (by decide)

/-- A request without a lifetime gets the longest one: the addition panics. -/
theorem longest_not_safe :
    addSeconds 1700000000500000000
        (lifetime (fromEnv longestTtl) ⟨"node-7", none⟩) = none ∧
      ¬ SafeLifetime (fromEnv longestTtl) ⟨"node-7", none⟩
        1700000000500000000 := by
  have panics : addSeconds 1700000000500000000
      (lifetime (fromEnv longestTtl) ⟨"node-7", none⟩) = none := by
    decide +kernel
  refine ⟨panics, fun safe => ?_⟩
  obtain ⟨instant, added⟩ := safe.added
  rw [panics] at added
  cases added

end JwSwarm.FleetManager.Enrollment
