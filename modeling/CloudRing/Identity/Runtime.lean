import CloudRing.Library.Check
import CloudRing.Library.Time
import Mathlib.Data.List.Nodup

/-!
# The configured issuer

The configuration of a token verifier, the checks it passes before a runtime is made from it, and
the window in which each of its signing keys is published.
-/

namespace CloudRing.Identity

open Library

/-! ## Configuration -/

inductive PublicKey where
  | rsa (parts : Option (Int × Int))
  | ecdsa (parts : Option (String × Int × Int))
  | other
  deriving DecidableEq, Repr

structure SigningKey where
  (keyID algorithm : String)
  publicKey : PublicKey
  (activeFrom activeUntil : Time)
  deriving DecidableEq

structure RuntimeConfig where
  (issuer authorizationEndpoint tokenEndpoint jwksURI : String)
  (audience authorizedParty : String)
  (expectedJOSEType jwtClassClaim expectedJWTClass : String)
  (allowedAlgorithms requiredClaims : List String)
  (groupsClaim namespacesClaim : String)
  (tokenMaxLifetime clockSkew : Duration)
  (jwksCacheTTL rotationOverlap : Duration)
  keys : List SigningKey

structure Url where
  (scheme host : String)
  hasUser : Bool
  (rawQuery fragment : String)

class Platform where
  parseURL : String → Option Url
  quote : String → String
  isOnCurve : String → Int → Int → Bool
  sha256 : List UInt8 → List UInt8
  verifyRSA : Option (Int × Int) → List UInt8 → List UInt8 → Bool
  verifyECDSA : Option (String × Int × Int) → List UInt8 → List UInt8 → List UInt8 → Bool

variable [Platform]

/-- The checks of `publicJWK`. -/
def publicJWK (key : SigningKey) : Except String Unit :=
  match key.publicKey with
  | .rsa parts => do
    ensure ("rsa key " ++ Platform.quote key.keyID ++
        " must be at least 2048 bits with a safe odd exponent")
      (parts.any fun (modulus, exponent) =>
        2 ^ 2047 ≤ modulus.natAbs && 65537 ≤ exponent && exponent.tmod 2 ≠ 0)
    ensure ("rsa key " ++ Platform.quote key.keyID ++ " must use RS256") (key.algorithm = "RS256")
  | .ecdsa parts =>
    ensure ("ecdsa key " ++ Platform.quote key.keyID ++ " must use ES256 P-256")
      (parts.any fun (curve, x, y) =>
        key.algorithm = "ES256" && curve = "P-256" && Platform.isOnCurve curve x y)
  | .other => .error ("unsupported public key type for " ++ Platform.quote key.keyID)

/-! ## Checks -/

def isHTTPS (endpoint : String) : Bool :=
  (Platform.parseURL endpoint).any fun parsed =>
    parsed.scheme = "https" && parsed.host ≠ "" && !parsed.hasUser && parsed.rawQuery = "" &&
      parsed.fragment = ""

def checkAlgorithm (seen : List String) (alg : String) : Except String (List String) := do
  ensure ("forbidden or unsupported algorithm " ++ Platform.quote alg)
    (alg = "RS256" || alg = "ES256")
  ensure ("duplicate allowed algorithm " ++ Platform.quote alg) (alg ∉ seen)
  return alg :: seen

def checkRequired (seen : List String) (claim : String) : Except String (List String) := do
  ensure ("required claim " ++ Platform.quote claim ++ " is empty or duplicated")
    (claim ≠ "" && claim ∉ seen)
  return claim :: seen

def checkKey (config : RuntimeConfig) (seen : List String) (key : SigningKey) :
    Except String (List String) := do
  ensure "signing key id is required" (key.keyID ≠ "")
  ensure ("duplicate signing key id " ++ Platform.quote key.keyID) (key.keyID ∉ seen)
  ensure ("signing key " ++ Platform.quote key.keyID ++ " uses disallowed algorithm " ++
      Platform.quote key.algorithm)
    (key.algorithm ∈ config.allowedAlgorithms)
  ensure ("signing key " ++ Platform.quote key.keyID ++ " activation window is invalid")
    (!(!key.activeFrom.isZero && !key.activeUntil.isZero &&
      !key.activeFrom.before key.activeUntil))
  publicJWK key
  return key.keyID :: seen

/-- `validateRuntimeConfig`. The sum of the two durations wraps around. -/
def validateRuntimeConfig (config : RuntimeConfig) : Except String Unit := do
  forEach (fun (label, value) => ensure (label ++ " is required") (value ≠ ""))
    [("issuer", config.issuer), ("authorization endpoint", config.authorizationEndpoint),
      ("token endpoint", config.tokenEndpoint), ("jwks uri", config.jwksURI),
      ("audience", config.audience), ("authorized party", config.authorizedParty),
      ("expected jose type", config.expectedJOSEType), ("jwt class claim", config.jwtClassClaim),
      ("expected jwt class", config.expectedJWTClass), ("groups claim", config.groupsClaim),
      ("namespaces claim", config.namespacesClaim)]
  ensure "jwt class and JOSE type must form an explicit id or access profile"
    (!((config.expectedJWTClass = "id" && config.expectedJOSEType ≠ "JWT") ||
      (config.expectedJWTClass = "access" && config.expectedJOSEType ≠ "at+jwt") ||
      (config.expectedJWTClass ≠ "id" && config.expectedJWTClass ≠ "access")))
  forEach (fun endpoint => ensure ("identity endpoint must be an https URL: " ++
      Platform.quote endpoint) (isHTTPS endpoint))
    [config.issuer, config.authorizationEndpoint, config.tokenEndpoint, config.jwksURI]
  ensure "at least one asymmetric algorithm is required" (!config.allowedAlgorithms.isEmpty)
  let _ ← config.allowedAlgorithms.foldlM checkAlgorithm []
  let _ ← config.requiredClaims.foldlM checkRequired []
  forEach (fun claim => ensure ("required claim " ++ Platform.quote claim ++
      " is missing from policy") (claim ∈ config.requiredClaims))
    ["iss", "aud", "azp", "exp", "iat", "sub", config.jwtClassClaim, config.groupsClaim,
      config.namespacesClaim]
  ensure "token, skew, cache, and rotation durations must be configured"
    (0 < config.tokenMaxLifetime.val && 0 ≤ config.clockSkew.val && 0 < config.jwksCacheTTL.val &&
      0 < config.rotationOverlap.val)
  ensure "rotation overlap must cover the maximum token lifetime plus verification clock skew"
    (wrapped (config.tokenMaxLifetime.val + config.clockSkew.val) ≤ config.rotationOverlap.val)
  ensure "at least one signing key is required" (!config.keys.isEmpty)
  let _ ← config.keys.foldlM (checkKey config) []
  return ()

/-- `Runtime`: a configuration that was checked. -/
structure Runtime where
  config : RuntimeConfig
  valid : validateRuntimeConfig config = .ok ()

def newRuntime (config : RuntimeConfig) : Except String Runtime :=
  match valid : validateRuntimeConfig config with
  | .error message => .error message
  | .ok () => .ok ⟨config, valid⟩

structure SoundConfig (config : RuntimeConfig) : Prop where
  lifetime : 0 < config.tokenMaxLifetime.val
  skew : 0 ≤ config.clockSkew.val
  cache : 0 < config.jwksCacheTTL.val
  overlap : wrapped (config.tokenMaxLifetime.val + config.clockSkew.val) ≤
    config.rotationOverlap.val
  names : (config.keys.map SigningKey.keyID).Nodup

theorem checkKeys_ok {config : RuntimeConfig} {keys : List SigningKey} {last : List String}
    (passed : keys.foldlM (checkKey config) [] = .ok last) :
    (keys.map SigningKey.keyID).Nodup := by
  generalize [] = seen at passed
  have both : (keys.map SigningKey.keyID).Nodup ∧
      ∀ name ∈ keys.map SigningKey.keyID, name ∉ seen := by
    induction keys generalizing seen with
    | nil => simp
    | cons key keys ih =>
      rw [List.foldlM_cons, bind_ok] at passed
      obtain ⟨next, taken, passed⟩ := passed
      simp only [checkKey, check_bind, ensure_ok, decide_eq_true_eq] at taken
      obtain ⟨-, fresh, -, -, -, taken⟩ := taken
      cases taken
      obtain ⟨distinct, unseen⟩ := ih _ passed
      simp only [List.mem_cons, not_or] at unseen
      refine ⟨List.nodup_cons.mpr ⟨fun again => (unseen _ again).1 rfl, distinct⟩, ?_⟩
      exact List.forall_mem_cons.mpr ⟨fresh, fun name listed => (unseen name listed).2⟩
  exact both.1

theorem Runtime.sound (runtime : Runtime) : SoundConfig runtime.config := by
  have passed := runtime.valid
  simp only [validateRuntimeConfig, bind_ok] at passed
  obtain ⟨_, -, _, -, _, -, _, -, -, -, -, -, _, -, _, durations, _, overlap, _, -, last, keys,
    -⟩ := passed
  simp only [ensure_ok, Bool.and_eq_true, decide_eq_true_eq] at durations overlap
  exact ⟨durations.1.1.1, durations.1.1.2, durations.1.2, overlap, checkKeys_ok keys⟩

/-! ## Publication -/

def keyPublished (key : SigningKey) (now : Time) (cacheTTL overlap : Duration) : Bool :=
  if !key.activeFrom.isZero && now.before (key.activeFrom.add (-cacheTTL.val)) then false
  else if key.activeUntil.isZero then true
  else now.before (key.activeUntil.add overlap.val)

def Runtime.published (runtime : Runtime) (now : Time) (key : SigningKey) : Bool :=
  keyPublished key now runtime.config.jwksCacheTTL runtime.config.rotationOverlap

def Runtime.keyByID (runtime : Runtime) (kid alg : String) (now : Time) : Option SigningKey :=
  runtime.config.keys.find? fun key =>
    key.keyID = kid && key.algorithm = alg && runtime.published now key

theorem Runtime.keyByID_some {runtime : Runtime} {kid alg : String} {now : Time}
    {key : SigningKey} (found : runtime.keyByID kid alg now = some key) :
    key ∈ runtime.config.keys ∧ key.keyID = kid ∧ key.algorithm = alg := by
  have holds := List.find?_some found
  simp only [Bool.and_eq_true, decide_eq_true_eq] at holds
  exact ⟨List.mem_of_find?_eq_some found, holds.1.1, holds.1.2⟩

theorem Runtime.keyByID_self {runtime : Runtime} {key : SigningKey} {now : Time}
    (configured : key ∈ runtime.config.keys) :
    runtime.keyByID key.keyID key.algorithm now = some key ↔
      runtime.published now key = true := by
  constructor
  · intro found
    have holds := List.find?_some found
    simp only [Bool.and_eq_true] at holds
    exact holds.2
  · intro published
    cases found : runtime.keyByID key.keyID key.algorithm now with
    | none =>
      have missing := List.find?_eq_none.mp found key configured
      simp [published] at missing
    | some other =>
      obtain ⟨member, name, -⟩ := Runtime.keyByID_some found
      rw [List.inj_on_of_nodup_map runtime.sound.names member configured name]

end CloudRing.Identity
