import CloudRing.Identity.Verification

/-!
# Rotation of the signing keys

A key is published a cache lifetime before it may sign and an overlap after its last signature.
-/

namespace CloudRing.Identity

open Library

/-- The start of publication is early enough for any accepted instant of issue: the skew is not
more than the cache lifetime, and the start is representable. Or else the current time is not
before the start. -/
def StartsInTime (config : RuntimeConfig) (key : SigningKey) (now : Time) : Prop :=
  key.activeFrom.isZero = true ∨
    (config.clockSkew.val ≤ config.jwksCacheTTL.val ∧
      key.activeFrom.Reaches (-config.jwksCacheTTL.val)) ∨
    (key.activeFrom.add (-config.jwksCacheTTL.val)).instant ≤ now.instant

/-- The end of publication is late enough for any accepted expiry: the sum of lifetime and skew
does not wrap around, the lifetime of the token is a duration, and the end is representable. Or
else the current time is before the end. -/
def EndsInTime (config : RuntimeConfig) (key : SigningKey) (now : Time)
    (claims : VerifiedClaims) : Prop :=
  key.activeUntil.isZero = true ∨
    (config.tokenMaxLifetime.val + config.clockSkew.val ≤ Instant.maxDuration ∧
      claims.expiresAt.instant - claims.issuedAt.instant ≤ Instant.maxDuration ∧
      key.activeUntil.Reaches config.rotationOverlap.val) ∨
    now.instant < (key.activeUntil.add config.rotationOverlap.val).instant

theorem keyPublished_iff {config : RuntimeConfig} {key : SigningKey} {now : Time} :
    keyPublished key now config.jwksCacheTTL config.rotationOverlap = true ↔
      (key.activeFrom.isZero = true ∨
        (key.activeFrom.add (-config.jwksCacheTTL.val)).instant ≤ now.instant) ∧
      (key.activeUntil.isZero = true ∨
        now.instant < (key.activeUntil.add config.rotationOverlap.val).instant) := by
  rw [keyPublished, ← Time.before_eq_false_iff, ← Time.before_iff]
  cases key.activeFrom.isZero <;> cases key.activeUntil.isZero <;>
    cases now.before (key.activeFrom.add (-config.jwksCacheTTL.val)) <;> simp

section Claims

variable {config : RuntimeConfig} {raw : List (String × Json)} {now : Time}
  {claims : VerifiedClaims} {key : SigningKey}

theorem PassedClaims.started_publication (passed : PassedClaims config raw now claims)
    (skew : 0 ≤ config.clockSkew.val) (window : InWindow key claims.issuedAt.instant)
    (active : key.activeFrom.isZero = false)
    (within : config.clockSkew.val ≤ config.jwksCacheTTL.val)
    (reaches : key.activeFrom.Reaches (-config.jwksCacheTTL.val)) :
    (key.activeFrom.add (-config.jwksCacheTTL.val)).instant ≤ now.instant := by
  have issued := window.1 active
  have past := (Time.before_eq_false_iff.mp passed.past).trans (Time.add_instant_le skew)
  rw [Time.add_instant reaches]
  omega

theorem PassedClaims.unended_publication (passed : PassedClaims config raw now claims)
    (sound : SoundConfig config) (window : InWindow key claims.issuedAt.instant)
    (active : key.activeUntil.isZero = false)
    (covered : config.tokenMaxLifetime.val + config.clockSkew.val ≤ Instant.maxDuration)
    (small : claims.expiresAt.instant - claims.issuedAt.instant ≤ Instant.maxDuration)
    (reaches : key.activeUntil.Reaches config.rotationOverlap.val) :
    now.instant < (key.activeUntil.add config.rotationOverlap.val).instant := by
  have issued := window.2 active
  have early := Time.before_iff.mp passed.unexpired
  have late : (claims.expiresAt.add config.clockSkew.val).instant ≤ _ :=
    Time.add_instant_le sound.skew
  have ordered := Time.before_iff.mp passed.ordered
  have bounded := passed.bounded sound.lifetime
  have fits : Fits64 (claims.expiresAt.instant - claims.issuedAt.instant) := by
    simp only [Fits64, Instant.maxDuration] at *
    omega
  rw [Time.sub, Instant.sub_eq_of_fits fits] at bounded
  have sum : Fits64 (config.tokenMaxLifetime.val + config.clockSkew.val) := by
    have lifetime := sound.lifetime
    have skew := sound.skew
    simp only [Fits64, Instant.maxDuration] at *
    omega
  have overlap := sound.overlap
  rw [wrapped_of_fits sum] at overlap
  rw [Time.add_instant reaches]
  omega

end Claims

section Found

variable [Platform]

end Found

/-! ## A key that is published too late -/

section Sample

attribute [local instance] trustingPlatform

def nextKey : SigningKey := { sampleKey with activeFrom := Time.unix 1700000000 }

/-- Clocks may differ by ten minutes, and keys are published as long before their activation as
given. -/
def skewedConfig (cache : Duration) : RuntimeConfig where
  __ := lastingConfig
  tokenMaxLifetime := ⟨Instant.hour, by decide⟩
  clockSkew := ⟨10 * Instant.minute, by decide⟩
  jwksCacheTTL := cache
  rotationOverlap := ⟨2 * Instant.hour, by decide⟩
  keys := [nextKey]

def earlyRuntime : Runtime :=
  ⟨skewedConfig ⟨10 * Instant.minute, by decide⟩, isOk_iff.mp (by decide +kernel)⟩

def lateRuntime : Runtime :=
  ⟨skewedConfig ⟨5 * Instant.minute, by decide⟩, isOk_iff.mp (by decide +kernel)⟩

def nextClaims : List (String × Json) :=
  [("iss", .string "https://id"), ("aud", .string "a"), ("azp", .string "p"),
    ("cls", .string "id"), ("exp", .number (.ofInt 1700000060)),
    ("iat", .number (.ofInt 1700000000)), ("sub", .string "s"), ("groups", .string "g"),
    ("ns", .string "n")]

def behindClock : Time := Time.unix 1699999520

end Sample

end CloudRing.Identity
