import CloudRing.Identity.Runtime
import CloudRing.Library.Base64
import CloudRing.Library.Json.Decimal
import CloudRing.StrictJson.Validate

/-!
# The verification of a token

A compact token is three segments of base64 text.
-/

namespace CloudRing.Identity

open Library

def maxCompactJWTBytes : Nat := 65536

def maxEncodedJWTSegmentBytes : Nat := 24576

structure VerifiedClaims where
  issuer : String
  audience : List String
  (expiresAt issuedAt : Time)
  (subject nonce : String)
  (groups namespaces : List String)
  deriving DecidableEq

/-- An error that wraps `errJWTRejected`. -/
def rejected (text : String) : String := text ++ ": jwt rejected"

/-! ## Claims -/

def asMap : Json → Option (List (String × Json))
  | .object members => some members
  | .null => some []
  | _ => none

def decodeJSONSegment (segment : List Char) : Option (List (String × Json)) :=
  if segment = [] ∨ (Utf8.encode segment).length > maxEncodedJWTSegmentBytes then none
  else do
    let data ← Base64.decodeLooseRawURL segment
    let value ← (StrictJson.decode data).toOption
    asMap value

def textOf (raw : List (String × Json)) (name : String) : String :=
  match raw.lookup name with
  | some (.string text) => text
  | _ => ""

def integerOf (literal : List Char) : Option Int :=
  match literal with
  | '-' :: digits =>
    if !digits.isEmpty && digits.all Char.isDigit then some (-(Json.digitsValue digits : Int))
    else none
  | digits =>
    if !digits.isEmpty && digits.all Char.isDigit then some (Json.digitsValue digits) else none

def integerClaim (raw : List (String × Json)) (name : String) : Option Int :=
  match raw.lookup name with
  | some (.number numeral) => integerOf numeral.literal.toList
  | _ => none

def numericTime (value : Option Json) : Except String Time :=
  match value with
  | some (.number numeral) =>
    match integerOf numeral.literal.toList with
    | some integer =>
      if Fits64 integer then .ok (Time.unix integer) else .error "value out of range"
    | none => .error "invalid syntax"
  | _ => .error "claim is not numeric"

def claimStrings (value : Option Json) : Except String (List String) :=
  match value with
  | some (.string text) => if text = "" then .error "empty string claim" else .ok [text]
  | some (.array items) =>
    items.mapM fun item =>
      match item with
      | .string text => if text = "" then .error "non-string claim item" else .ok text
      | _ => .error "non-string claim item"
  | _ => .error "claim is not string or string array"

def issuedWithinSigningWindow (key : SigningKey) (issuedAt : Time) : Bool :=
  !(!key.activeFrom.isZero && issuedAt.before key.activeFrom) &&
    !(!key.activeUntil.isZero && !issuedAt.before key.activeUntil)

def orElse {α : Type} (message : String) (step : Except String α) : Except String α :=
  require message step.toOption

def checkNotBefore (limit : Time) (value : Option Json) : Except String Unit :=
  match value with
  | none => .ok ()
  | some _ => do
    let notBefore ← orElse (rejected "invalid or future nbf claim") (numericTime value)
    ensure (rejected "invalid or future nbf claim") !(limit.before notBefore)

section Verify

variable [Platform]

def Runtime.validateClaims (runtime : Runtime) (raw : List (String × Json)) (now : Time) :
    Except String VerifiedClaims := do
  let config := runtime.config
  let skew := config.clockSkew.val
  forEach (fun claim => ensure (rejected ("missing required claim " ++ Platform.quote claim))
    (raw.lookup claim).isSome) config.requiredClaims
  ensure (rejected "wrong issuer") (textOf raw "iss" = config.issuer)
  let audiences ← orElse (rejected "wrong audience") (claimStrings (raw.lookup "aud"))
  ensure (rejected "wrong audience") (config.audience ∈ audiences)
  ensure (rejected "wrong authorized party") (textOf raw "azp" = config.authorizedParty)
  ensure (rejected "wrong jwt class") (textOf raw config.jwtClassClaim = config.expectedJWTClass)
  let exp ← orElse (rejected "invalid exp claim") (numericTime (raw.lookup "exp"))
  ensure (rejected "expired JWT") (now.before (exp.add skew))
  let iat ← orElse (rejected "invalid iat claim") (numericTime (raw.lookup "iat"))
  ensure (rejected "iat in future") !(iat.after (now.add skew))
  ensure (rejected "exp must be after iat") (exp.after iat)
  checkNotBefore (now.add skew) (raw.lookup "nbf")
  ensure (rejected "token lifetime exceeds policy")
    !(0 < config.tokenMaxLifetime.val && config.tokenMaxLifetime.val < exp.sub iat)
  ensure (rejected "missing subject") (textOf raw "sub" ≠ "")
  let groups ← orElse (rejected "missing groups claim")
    (claimStrings (raw.lookup config.groupsClaim))
  ensure (rejected "missing groups claim") (!groups.isEmpty)
  let namespaces ← orElse (rejected "missing namespace claim")
    (claimStrings (raw.lookup config.namespacesClaim))
  ensure (rejected "missing namespace claim") (!namespaces.isEmpty)
  return {
    issuer := textOf raw "iss"
    audience := audiences
    expiresAt := exp
    issuedAt := iat
    subject := textOf raw "sub"
    nonce := textOf raw "nonce"
    groups := groups
    namespaces := namespaces }

/-! ## Signatures -/

def verifySignature (alg : String) (publicKey : PublicKey) (signingInput : List Char)
    (signature : List UInt8) : Except String Unit :=
  let digest := Platform.sha256 (Utf8.encode signingInput)
  if alg = "RS256" then
    match publicKey with
    | .rsa parts =>
      ensure (rejected "invalid jwt signature") (Platform.verifyRSA parts digest signature)
    | _ => .error (rejected "wrong public key type")
  else if alg = "ES256" then
    match publicKey with
    | .ecdsa parts =>
      ensure (rejected "invalid jwt signature") (signature.length = 64 &&
        Platform.verifyECDSA parts digest (signature.take 32) (signature.drop 32))
    | _ => .error (rejected "wrong public key type")
  else .error (rejected ("unsupported jwt algorithm " ++ Platform.quote alg))

def Runtime.checkHeader (runtime : Runtime) (header : List (String × Json)) :
    Except String Unit := do
  let alg := textOf header "alg"
  ensure (rejected "critical jwt headers are unsupported") (header.lookup "crit").isNone
  ensure (rejected ("forbidden jwt algorithm " ++ Platform.quote alg))
    (alg ≠ "" && alg ≠ "none" && alg ≠ "HS256" && alg ∈ runtime.config.allowedAlgorithms)
  ensure (rejected "missing jwt kid") (textOf header "kid" ≠ "")
  ensure (rejected ("wrong jwt JOSE type " ++ Platform.quote (textOf header "typ")))
    (textOf header "typ" = runtime.config.expectedJOSEType)

def Runtime.verifyJWT (runtime : Runtime) (token : List Char) (now : Time) :
    Except String VerifiedClaims := do
  ensure (rejected "compact jwt size is invalid")
    (token ≠ [] && (Utf8.encode token).length ≤ maxCompactJWTBytes)
  match token.splitOn '.' with
  | [first, second, third] => do
    let header ← require (rejected "invalid jwt header") (decodeJSONSegment first)
    runtime.checkHeader header
    let key ← require (rejected ("unknown jwt kid " ++ Platform.quote (textOf header "kid")))
      (runtime.keyByID (textOf header "kid") (textOf header "alg") now)
    let signature ← require (rejected "invalid jwt signature encoding")
      (Base64.decodeLooseRawURL third)
    verifySignature (textOf header "alg") key.publicKey (first ++ '.' :: second) signature
    let raw ← require (rejected "invalid jwt claims") (decodeJSONSegment second)
    let claims ← runtime.validateClaims raw now
    ensure (rejected "jwt issued outside signing-key activation window")
      (issuedWithinSigningWindow key claims.issuedAt)
    return claims
  | _ => .error (rejected "compact jwt must have three parts")

end Verify

/-! ## What passing the checks means -/

theorem orElse_ok {α : Type} {message : String} {step : Except String α} {value : α} :
    orElse message step = .ok value ↔ step = .ok value := by
  cases step <;> simp [orElse, require, Except.toOption]

theorem numericTime_ok {raw : List (String × Json)} {name : String} {time : Time}
    (read : numericTime (raw.lookup name) = .ok time) :
    ∃ integer, integerClaim raw name = some integer ∧ Fits64 integer ∧
      time = Time.unix integer := by
  unfold numericTime at read
  split at read
  · rename_i numeral found
    split at read
    · rename_i integer value
      split at read
      · rename_i fits
        cases read
        exact ⟨integer, by rw [integerClaim, found]; exact value, fits, rfl⟩
      · cases read
    · cases read
  · cases read

theorem checkNotBefore_ok {raw : List (String × Json)} {limit : Time}
    (passed : checkNotBefore limit (raw.lookup "nbf") = .ok ()) {value : Json}
    (found : raw.lookup "nbf" = some value) :
    ∃ nbf, integerClaim raw "nbf" = some nbf ∧ Fits64 nbf ∧
      limit.before (Time.unix nbf) = false := by
  simp only [found, checkNotBefore] at passed
  obtain ⟨time, read, passed⟩ := bind_ok.mp passed
  rw [orElse_ok, ← found] at read
  obtain ⟨nbf, isInteger, fits, rfl⟩ := numericTime_ok read
  exact ⟨nbf, isInteger, fits, by simpa using passed⟩

section Passed

variable [Platform]

structure PassedClaims (config : RuntimeConfig) (raw : List (String × Json)) (now : Time)
    (claims : VerifiedClaims) : Prop where
  expiry : ∃ exp, integerClaim raw "exp" = some exp ∧ Fits64 exp ∧
    claims.expiresAt = Time.unix exp
  issue : ∃ iat, integerClaim raw "iat" = some iat ∧ Fits64 iat ∧ claims.issuedAt = Time.unix iat
  unexpired : now.before (claims.expiresAt.add config.clockSkew.val) = true
  past : (now.add config.clockSkew.val).before claims.issuedAt = false
  ordered : claims.issuedAt.before claims.expiresAt = true
  started : ∀ value, raw.lookup "nbf" = some value →
    ∃ nbf, integerClaim raw "nbf" = some nbf ∧ Fits64 nbf ∧
      (now.add config.clockSkew.val).before (Time.unix nbf) = false
  bounded : 0 < config.tokenMaxLifetime.val →
    claims.expiresAt.sub claims.issuedAt ≤ config.tokenMaxLifetime.val

theorem Runtime.validateClaims_ok {runtime : Runtime} {raw : List (String × Json)} {now : Time}
    {claims : VerifiedClaims} (accepted : runtime.validateClaims raw now = .ok claims) :
    PassedClaims runtime.config raw now claims := by
  simp only [Runtime.validateClaims, bind_ok] at accepted
  obtain ⟨_, -, _, -, audiences, -, _, -, _, -, _, -, exp, readExp, _, unexpired, iat, readIat, _,
    past, _, ordered, _, started, _, bounded, _, -, groups, -, _, -, namespaces, -, _, -,
    accepted⟩ := accepted
  cases accepted
  simp only [ensure_ok, Bool.not_eq_true', Bool.and_eq_false_iff, decide_eq_false_iff_not,
    not_lt] at unexpired past ordered bounded
  refine ⟨numericTime_ok (orElse_ok.mp readExp), numericTime_ok (orElse_ok.mp readIat), unexpired,
    past, ordered, fun _ => checkNotBefore_ok started, ?_⟩
  intro positive
  rcases bounded with none | within
  · exact absurd positive (not_lt.mpr none)
  · exact within

structure TokenParts where
  (first second third : List Char)
  (header raw : List (String × Json))
  key : SigningKey
  signature : List UInt8

def TokenParts.kid (parts : TokenParts) : String := textOf parts.header "kid"

def TokenParts.alg (parts : TokenParts) : String := textOf parts.header "alg"

/-- The parts are those of a token, with a signature over the first two segments that the selected
key verifies. -/
structure PassedToken (runtime : Runtime) (token : List Char) (now : Time) (parts : TokenParts) :
    Prop where
  segments : token.splitOn '.' = [parts.first, parts.second, parts.third]
  isHeader : decodeJSONSegment parts.first = some parts.header
  isRaw : decodeJSONSegment parts.second = some parts.raw
  isSignature : Base64.decodeLooseRawURL parts.third = some parts.signature
  isKey : runtime.keyByID parts.kid parts.alg now = some parts.key
  verified : verifySignature parts.alg parts.key.publicKey (parts.first ++ '.' :: parts.second)
    parts.signature = .ok ()

theorem Runtime.verifyJWT_ok {runtime : Runtime} {token : List Char} {now : Time}
    {claims : VerifiedClaims} (accepted : runtime.verifyJWT token now = .ok claims) :
    ∃ parts : TokenParts, PassedToken runtime token now parts ∧
      runtime.validateClaims parts.raw now = .ok claims ∧
      issuedWithinSigningWindow parts.key claims.issuedAt = true := by
  rw [Runtime.verifyJWT] at accepted
  obtain ⟨-, accepted⟩ := check_bind.mp accepted
  split at accepted
  · rename_i first second third segments
    simp only [bind_ok, require_ok] at accepted
    obtain ⟨header, isHeader, _, -, key, isKey, signature, isSignature, _, verified, raw, isRaw,
      claims', isClaims, _, window, accepted⟩ := accepted
    cases accepted
    exact ⟨⟨first, second, third, header, raw, key, signature⟩,
      ⟨segments, isHeader, isRaw, isSignature, isKey, verified⟩, isClaims, ensure_ok.mp window⟩
  · cases accepted

end Passed

end CloudRing.Identity
