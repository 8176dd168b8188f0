import CloudRing.Identity.Token

/-!
# What an accepted token says, in exact arithmetic

The verifier compares 64-bit points in time.
-/

namespace CloudRing.Identity

open Library

def unixLimit : Int := 2 ^ 63 - Time.unixToInternal

def InWindow (key : SigningKey) (instant : Int) : Prop :=
  (key.activeFrom.isZero = false → key.activeFrom.instant ≤ instant) ∧
    (key.activeUntil.isZero = false → instant < key.activeUntil.instant)

theorem issuedWithinSigningWindow_iff {key : SigningKey} {time : Time} :
    issuedWithinSigningWindow key time = true ↔ InWindow key time.instant := by
  simp only [issuedWithinSigningWindow, InWindow]
  cases key.activeFrom.isZero <;> cases key.activeUntil.isZero <;>
    simp [Time.before_iff, Time.before_eq_false_iff]

def claimsOf (token : List Char) : Option (List (String × Json)) :=
  match token.splitOn '.' with
  | [_, second, _] => decodeJSONSegment second
  | _ => none

/-- The claims of a token, read as integers of any size, are valid at an instant, and the selected
key is a configured one that could sign when the token was issued. -/
structure Exact (config : RuntimeConfig) (now : Time) (parts : TokenParts) (exp iat : Int) :
    Prop where
  isExp : integerClaim parts.raw "exp" = some exp
  isIat : integerClaim parts.raw "iat" = some iat
  unexpired : now.instant - config.clockSkew.val < exp * Instant.second
  past : iat * Instant.second ≤ now.instant + config.clockSkew.val
  started : ∀ value, parts.raw.lookup "nbf" = some value →
    ∃ nbf, integerClaim parts.raw "nbf" = some nbf ∧
      nbf * Instant.second ≤ now.instant + config.clockSkew.val
  ordered : 0 < exp - iat
  bounded : (exp - iat) * Instant.second ≤ config.tokenMaxLifetime.val
  configured : parts.key ∈ config.keys ∧ parts.key.keyID = parts.kid ∧
    parts.key.algorithm = parts.alg
  window : InWindow parts.key (iat * Instant.second)

/-- The instant of issue does not wrap around, the lifetime is a duration, and a third claim that
wraps around is not in the future anyway. -/
def Representable (config : RuntimeConfig) (now : Time) (raw : List (String × Json)) : Prop :=
  ∀ exp iat, integerClaim raw "exp" = some exp → integerClaim raw "iat" = some iat →
    iat < unixLimit ∧ (exp - iat) * Instant.second ≤ Instant.maxDuration ∧
    ∀ nbf, integerClaim raw "nbf" = some nbf →
      nbf < unixLimit ∨ nbf * Instant.second ≤ now.instant + config.clockSkew.val

theorem unix_exact {claim : Int} (fits : Fits64 claim) (below : claim < unixLimit) :
    (Time.unix claim).instant = claim * Instant.second := by
  refine Time.unix_instant fits.1 ?_
  rw [unixLimit] at below
  omega

theorem unix_wrapped {claim : Int} (fits : Fits64 claim) (above : unixLimit ≤ claim) :
    (Time.unix claim).instant = (claim - 2 ^ 64) * Instant.second := by
  refine Time.unix_instant_wrapped ?_ fits.2
  rw [unixLimit] at above
  omega

section Claims

variable {config : RuntimeConfig} {raw : List (String × Json)} {now : Time}
  {claims : VerifiedClaims} {exp iat : Int}

theorem read_unique {read : Option Int} {value : Int} {holds : Int → Prop}
    (known : ∃ other, read = some other ∧ holds other) (found : read = some value) :
    holds value := by
  obtain ⟨other, same, facts⟩ := known
  cases same.symm.trans found
  exact facts

section Passed

variable (passed : PassedClaims config raw now claims)

include passed

theorem PassedClaims.unexpired_exact
    (skew : 0 ≤ config.clockSkew.val) (isExp : integerClaim raw "exp" = some exp) :
    now.instant - config.clockSkew.val < exp * Instant.second := by
  obtain ⟨fits, same⟩ := read_unique passed.expiry isExp
  have early := Time.before_iff.mp passed.unexpired
  have late : (claims.expiresAt.add config.clockSkew.val).instant ≤ _ := Time.add_instant_le skew
  rw [same] at early late
  rcases lt_or_ge exp unixLimit with below | above
  · rw [unix_exact fits below] at late
    omega
  · rw [unix_wrapped fits above] at late
    simp only [Instant.second, Instant.millisecond] at late ⊢
    omega

theorem PassedClaims.exp_lt
    (isExp : integerClaim raw "exp" = some exp) (isIat : integerClaim raw "iat" = some iat)
    (below : iat < unixLimit) : exp < unixLimit := by
  obtain ⟨fitsExp, sameExp⟩ := read_unique passed.expiry isExp
  obtain ⟨fitsIat, sameIat⟩ := read_unique passed.issue isIat
  by_contra above
  have ordered := Time.before_iff.mp passed.ordered
  rw [sameExp, sameIat, unix_exact fitsIat below, unix_wrapped fitsExp (not_lt.mp above)] at ordered
  have lower := fitsIat.1
  have upper := fitsExp.2
  simp only [Instant.second, Instant.millisecond] at ordered
  omega

end Passed

theorem not_after_exact (skew : 0 ≤ config.clockSkew.val) {claim : Int} (fits : Fits64 claim)
    (below : claim < unixLimit)
    (past : (now.add config.clockSkew.val).before (Time.unix claim) = false) :
    claim * Instant.second ≤ now.instant + config.clockSkew.val := by
  rw [← unix_exact fits below]
  exact (Time.before_eq_false_iff.mp past).trans (Time.add_instant_le skew)

theorem PassedClaims.iat_lt (passed : PassedClaims config raw now claims)
    (skew : 0 ≤ config.clockSkew.val)
    (isExp : integerClaim raw "exp" = some exp)
    (past : iat * Instant.second ≤ now.instant + config.clockSkew.val)
    (ordered : 0 < exp - iat) : iat < unixLimit := by
  obtain ⟨fitsExp, sameExp⟩ := read_unique passed.expiry isExp
  by_contra above
  have expAbove : unixLimit ≤ exp := by omega
  have early := Time.before_iff.mp passed.unexpired
  have late : (claims.expiresAt.add config.clockSkew.val).instant ≤ _ := Time.add_instant_le skew
  rw [sameExp, unix_wrapped fitsExp expAbove] at late
  rw [sameExp] at early
  have upper := fitsExp.2
  have small := config.clockSkew.property.2
  simp only [unixLimit, Time.unixToInternal] at above
  simp only [Instant.second, Instant.millisecond] at late past
  omega

theorem PassedClaims.representable {parts : TokenParts}
    (passed : PassedClaims config parts.raw now claims) (skew : 0 ≤ config.clockSkew.val)
    (exact : Exact config now parts exp iat) : Representable config now parts.raw := by
  intro exp' iat' isExp isIat
  obtain rfl : exp = exp' := Option.some.inj (exact.isExp.symm.trans isExp)
  obtain rfl : iat = iat' := Option.some.inj (exact.isIat.symm.trans isIat)
  refine ⟨passed.iat_lt skew isExp exact.past exact.ordered, ?_, ?_⟩
  · have longest := config.tokenMaxLifetime.property.2
    have bounded := exact.bounded
    rw [Instant.maxDuration]
    omega
  · intro nbf isNbf
    cases found : parts.raw.lookup "nbf" with
    | none => simp [integerClaim, found] at isNbf
    | some value =>
      obtain ⟨nbf', isNbf', early⟩ := exact.started value found
      rw [isNbf] at isNbf'
      cases isNbf'
      exact .inr early

theorem PassedClaims.bounded_exact (passed : PassedClaims config raw now claims)
    (lifetime : 0 < config.tokenMaxLifetime.val)
    (expiresAt : claims.expiresAt.instant = exp * Instant.second)
    (issuedAt : claims.issuedAt.instant = iat * Instant.second)
    (small : (exp - iat) * Instant.second ≤ Instant.maxDuration) :
    0 < exp - iat ∧ (exp - iat) * Instant.second ≤ config.tokenMaxLifetime.val := by
  have ordered := Time.before_iff.mp passed.ordered
  have bounded := passed.bounded lifetime
  rw [expiresAt, issuedAt] at ordered
  rw [Time.sub, expiresAt, issuedAt] at bounded
  have fits : Fits64 (exp * Instant.second - iat * Instant.second) := by
    simp only [Fits64, Instant.second, Instant.millisecond, Instant.maxDuration] at *
    omega
  rw [Instant.sub_eq_of_fits fits, ← sub_mul] at bounded
  refine ⟨?_, bounded⟩
  simp only [Instant.second, Instant.millisecond] at ordered
  omega

theorem PassedClaims.exact {parts : TokenParts}
    (passed : PassedClaims config parts.raw now claims) (skew : 0 ≤ config.clockSkew.val)
    (lifetime : 0 < config.tokenMaxLifetime.val)
    (configured : parts.key ∈ config.keys ∧ parts.key.keyID = parts.kid ∧
      parts.key.algorithm = parts.alg)
    (window : issuedWithinSigningWindow parts.key claims.issuedAt = true)
    (representable : Representable config now parts.raw) :
    ∃ exp iat, Exact config now parts exp iat := by
  obtain ⟨exp, isExp, fitsExp, sameExp⟩ := passed.expiry
  obtain ⟨iat, isIat, fitsIat, sameIat⟩ := passed.issue
  obtain ⟨iatBelow, small, nbfBelow⟩ := representable exp iat isExp isIat
  have expBelow := passed.exp_lt isExp isIat iatBelow
  have expiresAt : claims.expiresAt.instant = exp * Instant.second := by
    rw [sameExp, unix_exact fitsExp expBelow]
  have issuedAt : claims.issuedAt.instant = iat * Instant.second := by
    rw [sameIat, unix_exact fitsIat iatBelow]
  obtain ⟨ordered, bounded⟩ := passed.bounded_exact lifetime expiresAt issuedAt small
  refine ⟨exp, iat, isExp, isIat, passed.unexpired_exact skew isExp, ?_, ?_, ordered, bounded,
    configured, ?_⟩
  · exact not_after_exact skew fitsIat iatBelow (sameIat ▸ passed.past)
  · intro value found
    obtain ⟨nbf, isNbf, fitsNbf, past⟩ := passed.started value found
    refine ⟨nbf, isNbf, ?_⟩
    rcases nbfBelow nbf isNbf with below | early
    · exact not_after_exact skew fitsNbf below past
    · exact early
  · rw [← issuedAt]
    exact issuedWithinSigningWindow_iff.mp window

end Claims

section Accepted

variable [Platform] {runtime : Runtime} {token : List Char} {now : Time} {claims : VerifiedClaims}

def ExactlyValid (runtime : Runtime) (token : List Char) (now : Time) : Prop :=
  ∃ parts exp iat, PassedToken runtime token now parts ∧ Exact runtime.config now parts exp iat

theorem PassedToken.claimsOf_eq {parts : TokenParts}
    (passed : PassedToken runtime token now parts) : claimsOf token = some parts.raw := by
  rw [claimsOf, passed.segments]
  exact passed.isRaw

theorem ExactlyValid.representable (accepted : runtime.verifyJWT token now = .ok claims)
    (valid : ExactlyValid runtime token now) {raw : List (String × Json)}
    (isRaw : claimsOf token = some raw) : Representable runtime.config now raw := by
  obtain ⟨parts, passed, validated, -⟩ := Runtime.verifyJWT_ok accepted
  obtain ⟨parts', exp, iat, passed', exact⟩ := valid
  have checked := Runtime.validateClaims_ok validated
  rw [Option.some.inj (passed.claimsOf_eq.symm.trans passed'.claimsOf_eq)] at checked
  rw [Option.some.inj (isRaw.symm.trans passed'.claimsOf_eq)]
  exact checked.representable runtime.sound.skew exact

/-- An accepted token is valid in exact arithmetic just when its claims are representable. -/
theorem verifyJWT_exact_iff (accepted : runtime.verifyJWT token now = .ok claims) :
    ExactlyValid runtime token now ↔
      ∀ raw, claimsOf token = some raw → Representable runtime.config now raw := by
  constructor
  · intro valid raw isRaw
    exact valid.representable accepted isRaw
  · intro representable
    obtain ⟨parts, passed, validated, window⟩ := Runtime.verifyJWT_ok accepted
    obtain ⟨exp, iat, exact⟩ := (Runtime.validateClaims_ok validated).exact runtime.sound.skew
      runtime.sound.lifetime (Runtime.keyByID_some passed.isKey) window
      (representable parts.raw passed.claimsOf_eq)
    exact ⟨parts, exp, iat, passed, exact⟩

end Accepted

/-! ## Tokens that are accepted -/

section Sample

abbrev trustingPlatform : Platform where
  parseURL _ := some ⟨"https", "id", false, "", ""⟩
  quote := id
  isOnCurve _ _ _ := true
  sha256 := id
  verifyRSA _ _ _ := false
  verifyECDSA _ _ _ _ := true

attribute [local instance] trustingPlatform

def zeroTime : Time := ⟨0, 0, by decide, (Time.unix 0).nsec_lt⟩

def sampleNow : Time := Time.unix 1700000000

def sampleKey : SigningKey :=
  ⟨"k", "ES256", .ecdsa (some ("P-256", 0, 0)), zeroTime, zeroTime⟩

def lastingConfig : RuntimeConfig where
  issuer := "https://id"
  authorizationEndpoint := "https://id"
  tokenEndpoint := "https://id"
  jwksURI := "https://id"
  audience := "a"
  authorizedParty := "p"
  expectedJOSEType := "JWT"
  jwtClassClaim := "cls"
  expectedJWTClass := "id"
  allowedAlgorithms := ["ES256"]
  requiredClaims := ["iss", "aud", "azp", "exp", "iat", "sub", "cls", "groups", "ns"]
  groupsClaim := "groups"
  namespacesClaim := "ns"
  tokenMaxLifetime := ⟨Instant.maxDuration, by decide⟩
  clockSkew := ⟨0, by decide⟩
  jwksCacheTTL := ⟨Instant.minute, by decide⟩
  rotationOverlap := ⟨Instant.maxDuration, by decide⟩
  keys := [sampleKey]

def lastingRuntime : Runtime := ⟨lastingConfig, isOk_iff.mp (by decide +kernel)⟩

def sampleToken (claims : List Char) : List Char :=
  "eyJhbGciOiJFUzI1NiIsImtpZCI6ImsiLCJ0eXAi".toList ++
    "OiJKV1QifQ".toList ++
    '.' :: (claims ++ '.' :: List.replicate 86 'A')

def ordinaryToken : List Char := sampleToken
  ("eyJpc3MiOiJodHRwczovL2lkIiwiYXVkIjoiYSIs".toList ++
    "ImF6cCI6InAiLCJjbHMiOiJpZCIsImV4cCI6MTcw".toList ++
    "MDAwMDA2MCwiaWF0IjoxNjk5OTk5OTQwLCJzdWIi".toList ++
    "OiJzIiwiZ3JvdXBzIjpbImciXSwibnMiOlsibiJd".toList ++
    "fQ".toList)

def futureToken : List Char := sampleToken
  ("eyJpc3MiOiJodHRwczovL2lkIiwiYXVkIjoiYSIs".toList ++
    "ImF6cCI6InAiLCJjbHMiOiJpZCIsImV4cCI6MTcw".toList ++
    "MDAwMDA2MCwiaWF0Ijo5MjIzMzcyMDM2ODU0Nzc1".toList ++
    "ODA3LCJzdWIiOiJzIiwiZ3JvdXBzIjpbImciXSwi".toList ++
    "bnMiOlsibiJdfQ".toList)

theorem exists_of_isOk {ε α : Type} {chain : Except ε α} (passed : chain.isOk = true) :
    ∃ value, chain = .ok value := by
  cases chain with
  | error message => cases passed
  | ok value => exact ⟨value, rfl⟩

/-- The ordinary token is accepted, and is valid in exact arithmetic. -/
theorem verifyJWT_exact_ordinary :
    ∃ claims, lastingRuntime.verifyJWT ordinaryToken sampleNow = .ok claims ∧
      ExactlyValid lastingRuntime ordinaryToken sampleNow := by
  have passes : (lastingRuntime.verifyJWT ordinaryToken sampleNow).isOk = true := by decide +kernel
  obtain ⟨claims, accepted⟩ := exists_of_isOk passes
  refine ⟨claims, accepted, (verifyJWT_exact_iff accepted).mpr ?_⟩
  intro raw isRaw exp iat isExp isIat
  have read : (claimsOf ordinaryToken).map (fun raw =>
      (integerClaim raw "exp", integerClaim raw "iat", integerClaim raw "nbf")) =
      some (some 1700000060, some 1699999940, none) := by
    decide +kernel
  rw [isRaw, Option.map_some, Option.some.injEq, Prod.mk.injEq, Prod.mk.injEq] at read
  obtain ⟨readExp, readIat, readNbf⟩ := read
  obtain rfl := Option.some.inj (isExp.symm.trans readExp)
  obtain rfl := Option.some.inj (isIat.symm.trans readIat)
  refine ⟨by decide, by decide, ?_⟩
  intro nbf isNbf
  cases isNbf.symm.trans readNbf

/-- A token that claims to be issued in the far future is accepted. -/
theorem verifyJWT_future_issue :
    ∃ claims, lastingRuntime.verifyJWT futureToken sampleNow = .ok claims ∧
      ¬ExactlyValid lastingRuntime futureToken sampleNow := by
  have passes : (lastingRuntime.verifyJWT futureToken sampleNow).isOk = true := by decide +kernel
  obtain ⟨claims, accepted⟩ := exists_of_isOk passes
  refine ⟨claims, accepted, ?_⟩
  rintro ⟨parts, exp, iat, passed, exact⟩
  have readIat : (claimsOf futureToken).bind (integerClaim · "iat") =
      some 9223372036854775807 := by
    decide +kernel
  rw [passed.claimsOf_eq, Option.bind_some] at readIat
  obtain rfl := Option.some.inj (exact.isIat.symm.trans readIat)
  exact absurd exact.past (by decide)

end Sample

end CloudRing.Identity
