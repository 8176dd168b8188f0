import CloudRing.OpenBaoApply.Endings

/-!
# The live proof of the workload's authorization

`verifyWorkloadAuthorization` logs in as the workload and as identities that must be refused.
-/

namespace CloudRing.OpenBaoApply

open Library Library.Program OpenBaoAuth
open OpenBaoBootstrap (Place)

/-! ## Which calls it makes -/

section Uses

variable (request : Request)

theorem projectedToken_uses (identity : WorkloadIdentity) (audience : String) :
    (projectedToken identity audience).Uses (·.quiet = true) := by
  refine uses_bind ((uses_request _).mpr rfl) fun | .error _ => trivial | .ok token => ?_
  exact uses_bind ((uses_request _).mpr rfl) fun _ => uses_pure _

theorem login_uses (body : Json) :
    (ask (.write .anonymous (loginPath request) body)).Uses (·.sparing request = true) := by
  refine (uses_request _).mpr ?_
  simp [Call.sparing, loginPath_eq]

theorem revokeAndProve_sparing (scope : Scope) (credential : Credential) :
    (revokeAndProve scope credential).Uses (·.sparing request = true) :=
  uses_mono (revokeAndProve_uses scope credential) fun _ => Call.sparing_of_ending

theorem denyLogins_uses (logins : List (WorkloadIdentity × String)) :
    (denyLogins request logins).Uses (·.sparing request = true) := by
  induction logins with
  | nil => exact uses_pure none
  | cons login logins ih =>
    obtain ⟨identity, audience⟩ := login
    have projected := uses_mono (projectedToken_uses identity audience) fun _ =>
      Call.sparing_of_quiet request
    refine uses_bind projected fun | none => trivial | some jwt => ?_
    refine uses_bind (login_uses request _) fun
      | .error .forbidden => ih
      | .error .unavailable | .error .ambiguous | .error .rejected => trivial
      | .ok login => ?_
    exact uses_bind (revokeAndProve_sparing request .detached _) fun _ => uses_pure _

variable [TimeFormat]

theorem workloadChecks_uses (serviceAccountUID : String) (login : ReadResult) :
    (workloadChecks request serviceAccountUID login).run.Uses (·.sparing request = true) := by
  refine uses_bindExit (uses_require (uses_pure _)) fun _ => ?_
  refine uses_bindExit (uses_lift ((uses_request _).mpr rfl)) fun seed => ?_
  refine uses_bindExit (uses_require (uses_pure _)) fun _ => ?_
  refine uses_bindExit (uses_lift ((uses_request _).mpr rfl)) fun capabilities => ?_
  refine uses_bindExit (uses_require (uses_pure _)) fun _ => ?_
  refine uses_bindExit (uses_lift ((uses_request _).mpr rfl)) fun sibling => ?_
  refine uses_bindExit (uses_require (uses_pure _)) fun _ => ?_
  refine uses_bindExit (uses_lift ((uses_request _).mpr rfl)) fun metadata => ?_
  refine uses_bindExit (uses_require (uses_pure _)) fun _ => ?_
  refine uses_bindExit (uses_lift (denyLogins_uses request _)) fun
    | some failed => uses_leave (uses_pure _)
    | none => ?_
  exact uses_bindExit (uses_lift (revokeAndProve_sparing request .operation _)) fun _ =>
    uses_require (uses_pure _)

theorem verifyWorkloadAuthorization_uses (serviceAccountUID : String) :
    (verifyWorkloadAuthorization request serviceAccountUID).Uses (·.sparing request = true) := by
  refine uses_bind ((uses_request _).mpr rfl) fun | .error _ => trivial | .ok uid => ?_
  dsimp only
  split
  · exact uses_pure _
  · have projected := uses_mono
      (projectedToken_uses request.contract.workloadIdentity request.contract.audience)
      fun _ => Call.sparing_of_quiet request
    refine uses_bind projected fun | none => trivial | some jwt => ?_
    refine uses_bind (login_uses request _) fun | .error _ => trivial | .ok login => ?_
    dsimp only
    split
    · exact uses_pure _
    · refine uses_bind (workloadChecks_uses request serviceAccountUID login) fun
        | .ok () => trivial
        | .error (gate, cleanupSafe) => ?_
      exact uses_bind (revokeAndProve_sparing request .detached _) fun _ => uses_pure _

end Uses

/-! ## Which tokens it leaves behind -/

def cleanupSafe (result : Option (String × Bool)) : Bool := result.all Prod.snd

section Tokens

variable {admits : Admits} {honest : Prop} {request : Request} {tokens : Option String → Prop}
  {log later : History}

theorem Held.kept (extension : Extends (fun call => call.quiet = true) log later)
    (held : Held request tokens log) : Held request tokens later := by
  rw [Held, outstanding_kept (extension.mono fun _ => Call.tokenless_of_quiet)]
  exact held

theorem quiet_held {call : Call} (quiet : call.quiet = true)
    (held : honest → Held request tokens log) :
    (ask call).wp (recording admits) (fun _ later => honest → Held request tokens later) log :=
  wp_recorded.mpr fun _ _ _ honestly =>
    (held honestly).kept ((Extends.refl _ log).cons quiet)

theorem expectForbidden_held {credential : Credential} {path : String}
    (held : honest → Held request tokens log) :
    (ask (.expectForbidden credential path)).wp (recording admits)
      (fun _ later => honest → Held request tokens later) log := by
  refine wp_recorded.mpr fun answer _ _ honestly token member => ?_
  cases answer with
  | error failure => exact held honestly token member
  | ok =>
    simp only [outstanding] at member
    split at member
    · exact held honestly token (List.mem_filter.mp member).1
    · exact held honestly token member

theorem Held.rejected {body : Json} {answer : Answer ReadResult} {effective : Bool}
    (honestly : Honest (.write .anonymous (request.at .login) body) answer effective)
    (rejected : definitelyRejected answer = true) (held : Held request tokens log) :
    Held request tokens
      (⟨.write .anonymous (request.at .login) body, answer, effective⟩ :: log) := by
  obtain rfl : effective = false := honestly.2 rejected
  cases answer with
  | error failure =>
    intro token member
    simp only [outstanding, if_true] at member
    exact held token member
  | ok login => exact absurd rejected Bool.false_ne_true

theorem Held.login {body : Json} {login : ReadResult} {effective : Bool}
    (held : Held request tokens log) :
    Held request (fun token => tokens token ∨ token = some (loginToken login))
      (⟨.write .anonymous (request.at .login) body, .ok login, effective⟩ :: log) := by
  intro token member
  simp only [outstanding, if_true, List.mem_cons] at member
  rcases member with rfl | earlier
  · exact .inr rfl
  · exact .inl (held token earlier)

theorem revokeAndProve_held (accepted : request.Accepted) (scope : Scope)
    (credential : Credential)
    (held : honest → Held request (fun token => tokens token ∨ token = some credential.token) log) :
    (revokeAndProve scope credential).wp (recording admits) (fun revoked later =>
      honest → revoked = true → Held request tokens later) log := by
  refine wp_mono (revokeAndProve_spec accepted scope credential) fun
    revoked later ⟨_, left, _⟩ honestly proven token member => ?_
  rw [left, if_pos proven] at member
  obtain ⟨earlier, other⟩ := List.mem_filter.mp member
  rcases held honestly token earlier with wanted | revokedToken
  · exact wanted
  · exact absurd revokedToken (by simpa using other)

variable (sound : HonestIf honest admits)

include sound

theorem denyLogins_spec (accepted : request.Accepted)
    (logins : List (WorkloadIdentity × String)) (held : honest → Held request tokens log) :
    (denyLogins request logins).wp (recording admits) (fun result later =>
      honest → cleanupSafe result = true → Held request tokens later) log := by
  induction logins generalizing log with
  | nil => exact fun honestly _ => held honestly
  | cons login logins ih =>
    obtain ⟨identity, audience⟩ := login
    refine wp_then (wp_extends (projectedToken_uses identity audience)) fun
      | none, later, extension => fun honestly _ => (held honestly).kept extension
      | some jwt, later, extension => ?_
    refine wp_asked fun
      | .error .forbidden, effective, admitted => ?_
      | .error .unavailable, effective, admitted => ?_
      | .error .ambiguous, effective, admitted => ?_
      | .error .rejected, effective, admitted => ?_
      | .ok login, effective, admitted => ?_
    · exact ih fun honestly =>
        ((held honestly).kept extension).rejected (sound honestly _ _ _ admitted) rfl
    · exact fun honestly _ => absurd rfl (sound honestly _ _ _ admitted).1
    · exact fun _ => nofun
    · exact fun honestly _ =>
        ((held honestly).kept extension).rejected (sound honestly _ _ _ admitted) rfl
    · refine wp_then (revokeAndProve_held accepted .detached _ fun honestly =>
        ((held honestly).kept extension).login) fun revoked last safe => ?_
      exact fun honestly clean => safe honestly clean

variable [TimeFormat]

theorem workloadChecks_spec (accepted : request.Accepted) (serviceAccountUID : String)
    (login : ReadResult)
    (held : honest →
      Held request (fun token => tokens token ∨ token = some (loginToken login)) log) :
    wpExit (recording admits) (workloadChecks request serviceAccountUID login)
      (fun _ later => honest → Held request tokens later)
      (fun failed later => honest → failed.2 = true →
        Held request (fun token => tokens token ∨ token = some (loginToken login)) later) log := by
  refine wpExit_unless (fun _ => fun honestly _ => held honestly) fun _ => ?_
  refine wpExit_run (quiet_held rfl held) fun seed first heldSeed => ?_
  refine wpExit_unless (fun _ => fun honestly _ => heldSeed honestly) fun _ => ?_
  refine wpExit_run (quiet_held rfl heldSeed) fun capabilities second heldSecond => ?_
  refine wpExit_unless (fun _ => fun honestly _ => heldSecond honestly) fun _ => ?_
  refine wpExit_run (expectForbidden_held heldSecond) fun sibling third heldThird => ?_
  refine wpExit_unless (fun _ => fun honestly _ => heldThird honestly) fun _ => ?_
  refine wpExit_run (expectForbidden_held heldThird) fun metadata fourth heldFourth => ?_
  refine wpExit_unless (fun _ => fun honestly _ => heldFourth honestly) fun _ => ?_
  refine wpExit_run (denyLogins_spec sound accepted (negativeLogins request) heldFourth) fun
    | some (gate, safe), fifth, left => (wpExit_leave _).mpr left
    | none, fifth, left => ?_
  refine wpExit_run (revokeAndProve_held accepted .operation
    (.workload (loginToken login)) fun honestly => left honestly rfl) fun revoked last proven => ?_
  refine (wpExit_require _ _).mpr ⟨fun success honestly => proven honestly success, ?_⟩
  exact fun _ _ => nofun

theorem verifyWorkloadAuthorization_spec (accepted : request.Accepted)
    (serviceAccountUID : String) (held : honest → Held request tokens log) :
    (verifyWorkloadAuthorization request serviceAccountUID).wp (recording admits)
      (fun result later => Extends (fun call => call.sparing request = true) log later ∧
        (honest → cleanupSafe result = true → Held request tokens later)) log := by
  refine wp_and (wp_extends (verifyWorkloadAuthorization_uses request serviceAccountUID)) ?_
  refine wp_then (quiet_held rfl held) fun
    | .error _, first, heldFirst => fun honestly _ => heldFirst honestly
    | .ok uid, first, heldFirst => ?_
  dsimp only
  split
  · exact fun honestly _ => heldFirst honestly
  · refine wp_then (wp_extends (projectedToken_uses _ _)) fun
      | none, second, extension => fun honestly _ => (heldFirst honestly).kept extension
      | some jwt, second, extension => ?_
    refine wp_asked fun
      | .error failure, effective, admitted => fun honestly safe => ?_
      | .ok login, effective, admitted => ?_
    · exact ((heldFirst honestly).kept extension).rejected (sound honestly _ _ _ admitted) safe
    · dsimp only
      split
      · exact fun _ => nofun
      · refine wp_then (workloadChecks_spec sound accepted serviceAccountUID login
          fun honestly => ((heldFirst honestly).kept extension).login) fun
          | .ok (), last, left => fun honestly _ => left honestly
          | .error (gate, safe), last, left => ?_
        refine wp_then (revokeAndProve_held accepted .detached (.workload (loginToken login))
          fun (both : honest ∧ safe = true) => left both.1 both.2) fun revoked final proven => ?_
        intro honestly clean
        obtain ⟨checked, proved⟩ : safe = true ∧ revoked = true := by
          simpa [cleanupSafe] using clean
        exact proven ⟨honestly, checked⟩ proved

end Tokens

end CloudRing.OpenBaoApply
