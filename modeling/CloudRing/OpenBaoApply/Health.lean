import CloudRing.Library.Json.Decimal
import CloudRing.Library.Time
import CloudRing.OpenBaoApply.Calls

/-!
# The health check and its clock comparison

`restClient.do` reads a reply into a map, and `Health` of the OpenBao client accepts the map of an
active, unsealed server whose clock is close to the local one.
-/

namespace CloudRing.OpenBaoApply

open Library

abbrev Seconds := { value : Int // Fits64 value }

structure HttpReply where
  status : Nat
  body : List UInt8

def maxResponseBytes : Nat := 2 * 1024 * 1024

/-- `unicode.IsSpace`. -/
def isUnicodeSpace (rune : Char) : Bool :=
  let code := rune.toNat
  (9 ≤ code && code ≤ 13) || (0x2000 ≤ code && code ≤ 0x200a) ||
    code ∈ [0x20, 0x85, 0xa0, 0x1680, 0x2028, 0x2029, 0x202f, 0x205f, 0x3000]

/-- `len(bytes.TrimSpace(body)) == 0`. -/
def isBlank (body : List UInt8) : Bool := (Utf8.decode body).all isUnicodeSpace

/-- `strconv.ParseFloat(literal, 64)` succeeds: the number does not round to an infinity. -/
def fitsFloat64 (number : Json.Numeral) : Bool :=
  let text := (Json.scanSign number.literal.toList).2
  let integer := ((Json.scanInteger text).getD ([], text))
  let fraction := Json.scanFraction integer.2
  let digits := Json.digitsValue (integer.1 ++ fraction.1.drop 1)
  let exponent := Json.exponentValue (Json.scanExponent fraction.2).1 -
    (fraction.1.length - 1 : Nat)
  digits * 10 ^ exponent.toNat < (2 ^ 1024 - 2 ^ 970) * 10 ^ (-exponent).toNat

mutual

def numbersFit : Json → Bool
  | .number value => fitsFloat64 value
  | .array items => numbersFitItems items
  | .object members => numbersFitMembers members
  | _ => true

def numbersFitItems : List Json → Bool
  | [] => true
  | item :: items => numbersFit item && numbersFitItems items

def numbersFitMembers : List (String × Json) → Bool
  | [] => true
  | (_, value) :: members => numbersFit value && numbersFitMembers members

end

/-- `inspectJSONFields` passes: no key is repeated, no value is deeper than 32, and every number
token is read as a float. -/
def inspectJSONFields (value : Json) : Bool :=
  (match StrictJson.inspectWithin 32 0 value with
    | .ok false => true
    | _ => false) && numbersFit value

/-- `restClient.do`, from the reply on: the status and the decoded map. -/
def received (reply : Option HttpReply) : Option (Nat × Fields) :=
  match reply with
  | none => none
  | some reply =>
    if reply.body.length > maxResponseBytes then none
    else if isBlank reply.body then some (reply.status, [])
    else
      match (Json.parse reply.body).filter inspectJSONFields with
      | some (.object members) => some (reply.status, members)
      | _ => none

/-- `deltaSeconds`, in 64-bit arithmetic. -/
def deltaSeconds (left right : Int) : Int :=
  if left < right then wrapped (right - left) else wrapped (left - right)

def health (reply : Option HttpReply) (now : Seconds) : Answer Unit :=
  match received reply with
  | none => .error .unavailable
  | some (status, payload) =>
    if status ≠ 200 || payload.length ≠ 10 then .error .unavailable
    else if boolValue payload "initialized" ≠ some true then .error .unavailable
    else if boolValue payload "sealed" ≠ some false then .error .unavailable
    else if boolValue payload "standby" ≠ some false then .error .unavailable
    else if textValue payload "version" ≠ supportedOpenBaoVersion then .error .unavailable
    else
      let performanceStandby := boolValue payload "performance_standby"
      let serverTime := integer payload "server_time_utc"
      let performanceMode := textValue payload "replication_performance_mode"
      if performanceStandby ≠ some false ||
          serverTime.elim true (fun time => deltaSeconds now.1 time > 300) ||
          (performanceMode ≠ "disabled" && performanceMode ≠ "primary") ||
          textValue payload "replication_dr_mode" ≠ "disabled" ||
          textValue payload "cluster_name" = "" || textValue payload "cluster_id" = "" then
        .error .unavailable
      else .ok ()

/-- The members that `Health` asks for apart from the time of the server. -/
def activeServer (payload : Fields) : Bool :=
  payload.length = 10 && boolValue payload "initialized" = some true &&
    boolValue payload "sealed" = some false && boolValue payload "standby" = some false &&
    textValue payload "version" = supportedOpenBaoVersion &&
    boolValue payload "performance_standby" = some false &&
    textValue payload "replication_performance_mode" ∈ ["disabled", "primary"] &&
    textValue payload "replication_dr_mode" = "disabled" &&
    textValue payload "cluster_name" ≠ "" && textValue payload "cluster_id" ≠ ""

def Active (reply : Option HttpReply) : Prop :=
  ∃ payload, received reply = some (200, payload) ∧ activeServer payload = true

def serverTimeUTC (reply : Option HttpReply) : Option Int :=
  (received reply).bind fun answer => integer answer.2 "server_time_utc"

theorem parseInt64_fits {text : String} {value : Int} (parsed : parseInt64 text = some value) :
    Fits64 value := by
  obtain ⟨-, bounds⟩ := Option.filter_eq_some_iff.mp parsed
  simp only [Bool.and_eq_true, decide_eq_true_eq] at bounds
  unfold Fits64
  omega

theorem integer_fits {fields : Fields} {key : String} {value : Int}
    (found : integer fields key = some value) : Fits64 value := by
  unfold integer at found
  split at found
  · exact parseInt64_fits found
  · contradiction

theorem serverTimeUTC_fits {reply : Option HttpReply} {time : Int}
    (reported : serverTimeUTC reply = some time) : Fits64 time := by
  obtain ⟨answer, -, found⟩ := Option.bind_eq_some_iff.mp reported
  exact integer_fits found

theorem deltaSeconds_le_iff {left right : Int} (leftFits : Fits64 left)
    (rightFits : Fits64 right) :
    deltaSeconds left right ≤ 300 ↔ |left - right| ≤ 300 ∨ 2 ^ 63 ≤ |left - right| := by
  have main : ∀ distance : Int, 0 ≤ distance → distance < 2 ^ 64 →
      (wrapped distance ≤ 300 ↔ distance ≤ 300 ∨ 2 ^ 63 ≤ distance) := by
    intro distance nonnegative below
    by_cases fits : distance < 2 ^ 63
    · rw [wrapped_of_fits ⟨by omega, fits⟩]
      omega
    · rw [wrapped_of_above (by omega) (by omega)]
      omega
  unfold Fits64 at leftFits rightFits
  unfold deltaSeconds
  by_cases less : left < right
  · rw [if_pos less, abs_of_neg (by omega), main _ (by omega) (by omega)]
    omega
  · rw [if_neg less, abs_of_nonneg (by omega), main _ (by omega) (by omega)]

theorem health_ok_iff (reply : Option HttpReply) (now : Seconds) :
    health reply now = .ok () ↔
      Active reply ∧ ∃ time, serverTimeUTC reply = some time ∧ deltaSeconds now.1 time ≤ 300 := by
  unfold health Active serverTimeUTC
  cases received reply with
  | none => simp
  | some answer =>
    obtain ⟨status, payload⟩ := answer
    simp only [Option.some.injEq, Prod.mk.injEq, Option.bind_some, activeServer]
    cases integer payload "server_time_utc" with
    | none => simp
    | some time =>
      by_cases ok : status = 200
      · subst ok
        simp only [ite_eq_iff]
        simp [and_assoc]
        grind
      · simp [ok]

/-- An accepted server reports a time within 300 seconds of the local one, unless the reply is
that of an active server whose time is so far away that the distance does not fit 64 bits. -/
theorem health_close_iff (reply : Option HttpReply) (now : Seconds) :
    (health reply now = .ok () →
        ∃ time, serverTimeUTC reply = some time ∧ |now.1 - time| ≤ 300) ↔
      (Active reply → ∀ time, serverTimeUTC reply = some time → |now.1 - time| < 2 ^ 63) := by
  constructor
  · intro close active time reported
    by_contra far
    rw [not_lt] at far
    have small : deltaSeconds now.1 time ≤ 300 :=
      (deltaSeconds_le_iff now.2 (serverTimeUTC_fits reported)).mpr (Or.inr far)
    obtain ⟨other, found, near⟩ :=
      close ((health_ok_iff reply now).mpr ⟨active, time, reported, small⟩)
    rw [reported, Option.some.injEq] at found
    subst found
    omega
  · intro bounded accepted
    obtain ⟨active, time, reported, small⟩ := (health_ok_iff reply now).mp accepted
    refine ⟨time, reported, ?_⟩
    have fits := bounded active time reported
    obtain near | far := (deltaSeconds_le_iff now.2 (serverTimeUTC_fits reported)).mp small
    · exact near
    · omega

def activePayload (time : Int) : Fields :=
  [("initialized", .bool true), ("sealed", .bool false), ("standby", .bool false),
    ("performance_standby", .bool false), ("replication_performance_mode", .string "disabled"),
    ("replication_dr_mode", .string "disabled"), ("server_time_utc", .number (.ofInt time)),
    ("version", .string "2.5.5"), ("cluster_name", .string "c"), ("cluster_id", .string "1")]

def farServer : HttpReply :=
  ⟨200, Json.goStyle.bytes (.object (activePayload (-9223372036854775808)))⟩

/-- The distance of that clock from the first second of 2026 comes out negative, and the server
is accepted. -/
theorem health_farServer :
    let now : Seconds := ⟨1767225600, by decide⟩
    health (some farServer) now = .ok () ∧
      serverTimeUTC (some farServer) = some (-9223372036854775808) ∧
      ¬ |now.1 - -9223372036854775808| ≤ 300 := by
  intro now
  exact ⟨by decide +kernel, by decide +kernel, by decide⟩

end CloudRing.OpenBaoApply
