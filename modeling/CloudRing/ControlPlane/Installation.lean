import CloudRing.Library.Cas
import CloudRing.Library.Hex
import CloudRing.Library.Pool

/-!
# The installation record

`bootstrap` of the control plane's `state.go`: every server that starts binds itself to one durable
record.
-/

namespace CloudRing.ControlPlane

open Library

/-- `sha256.Sum256`. -/
class Digest where
  sha256 : List UInt8 → List UInt8
  sha256_length : ∀ bytes, (sha256 bytes).length = 32

/-- `json.Marshal` and `strictjson.DecodeExact` for one type of records. -/
class Encoding (State : Type) (Body : outParam Type) where
  marshal : State → Option Body
  decode : Body → Option State
  decode_marshal : ∀ {state body}, marshal state = some body → decode body = some state

/-! ## Token hashes -/

section Hashes

variable [Digest]

def tokenHash (token : String) : String := Hex.text (Digest.sha256 (Utf8.ofString token))

def equalHash (first second : String) : Bool :=
  (Utf8.ofString first).length = 64 && (Utf8.ofString second).length = 64 && first = second

def Collision (left right : String) : Prop :=
  left ≠ right ∧ Digest.sha256 (Utf8.ofString left) = Digest.sha256 (Utf8.ofString right)

theorem eq_or_collision {left right : String} (same : tokenHash left = tokenHash right) :
    left = right ∨ Collision left right := by
  by_cases equal : left = right
  · exact .inl equal
  · exact .inr ⟨equal, Hex.text_injective same⟩

theorem equalHash_iff {stored token : String} :
    equalHash stored (tokenHash token) = true ↔ stored = tokenHash token := by
  have length : (Utf8.ofString (tokenHash token)).length = 64 := by
    rw [tokenHash, Hex.ofString_text_length, Digest.sha256_length]
  simp only [equalHash, Bool.and_eq_true, decide_eq_true_eq]
  constructor
  · exact fun equal => equal.2
  · rintro rfl
    exact ⟨⟨length, length⟩, rfl⟩

end Hashes

/-! ## Records and calls -/

structure InstallationState where
  schemaVersion : Int
  (installationID profile operatorID operatorTokenSHA256 : String)
  createdAt : Int
  products : Option (List String)
  deriving DecidableEq, Repr

/-- The errors of `state.go`. -/
inductive StateError where
  | unavailable
  | binding
  deriving DecidableEq, Repr

/-- `Error`. -/
def StateError.text : StateError → String
  | unavailable => "control plane durable state is unavailable"
  | binding => "control plane installation identity does not match durable state"

inductive InstallationCall (Body : Type) where
  | ready
  | load
  | save (expected : Nat) (body : Body)

def InstallationReply (Body : Type) : InstallationCall Body → Type
  | .ready => Bool
  | .load => Except LoadError (Versioned Body)
  | .save _ _ => Except SaveError (Versioned Body)

def askInstallation {Body : Type} (call : InstallationCall Body) :
    Program (InstallationReply Body) (InstallationReply Body call) :=
  Program.request call

def installationStore {Body : Type} :
    Program.Environment (InstallationReply Body) (List (Versioned Body)) :=
  fun history call reply after =>
    match call with
    | .ready => after = history
    | .load => after = history ∧ Loads history reply
    | .save expected body => Saves history expected body reply after

/-! ## Bootstrap -/

structure Launch where
  (installationID operatorToken : String)
  now : Int

section Bootstrap

variable {Body : Type} [Digest] [Encoding InstallationState Body]

def Launch.initial (launch : Launch) : InstallationState where
  schemaVersion := 1
  installationID := launch.installationID
  profile := "development"
  operatorID := "dev-operator:" ++ launch.installationID
  operatorTokenSHA256 := tokenHash launch.operatorToken
  createdAt := launch.now
  products := some []

def validateInstallation (document : Versioned Body) (installationID operatorToken : String) :
    Except StateError InstallationState :=
  match Encoding.decode document.value with
  | none => .error .binding
  | some state =>
    if state.schemaVersion ≠ 1 ∨ document.revision < 1 ∨ state.installationID ≠ installationID ∨
        state.profile ≠ "development" ∨ state.operatorID ≠ "dev-operator:" ++ installationID ∨
        !equalHash state.operatorTokenSHA256 (tokenHash operatorToken) ∨ state.createdAt = 0 ∨
        state.products ≠ some [] then
      .error .binding
    else .ok state

/-- The end of `bootstrap`, on the last answer of the store. -/
def concludeBootstrap (loaded : Except LoadError (Versioned Body)) (launch : Launch) :
    Except StateError InstallationState :=
  match loaded with
  | .error _ => .error .unavailable
  | .ok document => validateInstallation document launch.installationID launch.operatorToken

def bootstrap (launch : Launch) :
    Program (InstallationReply Body) (Except StateError InstallationState) := do
  let ready : Bool ← askInstallation .ready
  if !ready then return .error .unavailable
  else
    let loaded : Except LoadError (Versioned Body) ← askInstallation .load
    match loaded with
    | .error .notFound =>
      match Encoding.marshal launch.initial with
      | none => return .error .unavailable
      | some body =>
        let saved : Except SaveError (Versioned Body) ← askInstallation (.save 0 body)
        -- A parallel create or a lost answer is resolved by loading the record again.
        match saved with
        | .ok document => return concludeBootstrap (.ok document) launch
        | .error _ =>
          let reloaded : Except LoadError (Versioned Body) ← askInstallation .load
          return concludeBootstrap reloaded launch
    | loaded => return concludeBootstrap loaded launch

def bootstraps {ι : Type} (launch : ι → Launch) :
    System (InstallationReply Body) (List (Versioned Body)) ι
      (Except StateError InstallationState) where
  program actor := bootstrap (launch actor)
  environment _ := installationStore
  drift _ _ := False

/-! ## What every server keeps to -/

variable {ι : Type} (launch : ι → Launch)

def CreatedBy (creator : Launch) (history : List (Versioned Body)) : Prop :=
  ∃ revision body, history = [⟨revision, body⟩] ∧ 1 ≤ revision ∧
    Encoding.marshal creator.initial = some body

def installationContract : Contract (List (Versioned Body)) ι where
  invariant history := history = [] ∨ ∃ creator, CreatedBy (launch creator) history
  rely _ history later := history ≠ [] → later = history
  guarantee actor history after :=
    after = history ∨ history = [] ∧ CreatedBy (launch actor) after
  rely_refl _ _ _ := rfl
  rely_trans := by
    intro _ first second third before after present
    have same := before present
    rw [← same] at present ⊢
    exact after present
  guarantee_refl _ _ := .inl rfl
  guarantee_invariant := by
    rintro actor state next holds (rfl | ⟨-, created⟩)
    · exact holds
    · exact .inr ⟨actor, created⟩
  guarantee_rely := by
    rintro actor other state next - - (rfl | ⟨absent, -⟩) present
    · rfl
    · exact absurd absent present

def Bound (launch : Launch) (result : Except StateError InstallationState)
    (history : List (Versioned Body)) : Prop :=
  ∀ state, result = .ok state → ∃ document, history = [document] ∧
    Encoding.decode document.value = some state ∧ state.installationID = launch.installationID ∧
    state.operatorTokenSHA256 = tokenHash launch.operatorToken

variable {launch}

theorem validateInstallation_ok {document : Versioned Body} {installationID operatorToken : String}
    {state : InstallationState}
    (accepted : validateInstallation document installationID operatorToken = .ok state) :
    Encoding.decode document.value = some state ∧ state.installationID = installationID ∧
      state.operatorTokenSHA256 = tokenHash operatorToken := by
  unfold validateInstallation at accepted
  cases decoded : (Encoding.decode document.value : Option InstallationState) with
  | none => simp [decoded] at accepted
  | some found =>
    simp only [decoded] at accepted
    split at accepted
    · cases accepted
    · rename_i valid
      cases accepted
      simp only [not_or, ne_eq, not_not, Bool.not_eq_true', Bool.not_eq_false] at valid
      obtain ⟨-, -, identity, -, -, hash, -⟩ := valid
      exact ⟨rfl, identity, equalHash_iff.mp hash⟩

variable {history : List (Versioned Body)}

theorem concludeBootstrap_bound {loaded : Except LoadError (Versioned Body)} {launch : Launch}
    (current : ∀ document, loaded = .ok document → history = [document]) :
    Bound launch (concludeBootstrap loaded launch) history := by
  intro state concluded
  cases loaded with
  | error error => cases concluded
  | ok document => exact ⟨document, current document rfl, validateInstallation_ok concluded⟩

theorem Bound.guards {actor : ι} {bound : Launch} {result : Except StateError InstallationState}
    (holds : Bound bound result history) :
    (installationContract launch).Guards installationStore actor (Bound bound) (.done result)
      history := by
  intro later relied _ state started
  obtain ⟨document, stored, rest⟩ := holds state started
  have same : later = history := relied (by simp [stored])
  exact ⟨document, same.trans stored, rest⟩

theorem current_only {current : Versioned Body} {older : List (Versioned Body)}
    (holds : (installationContract launch).invariant (current :: older)) : older = [] := by
  rcases holds with absent | ⟨creator, revision, body, stored, -⟩
  · cases absent
  · exact (List.cons.inj stored).2

theorem concludeBootstrap_guards (actor : ι) {loaded : Except LoadError (Versioned Body)}
    (loads : Loads history loaded)
    (holds : (installationContract launch).invariant history) :
    (installationContract launch).Guards installationStore actor (Bound (launch actor))
      (.done (concludeBootstrap loaded (launch actor))) history := by
  apply Bound.guards
  apply concludeBootstrap_bound
  intro document found
  cases loads with
  | found current older =>
    cases found
    rw [current_only holds]
  | absent | failed => cases found

theorem reload_guards (actor : ι) :
    (installationContract launch).Guards installationStore actor (Bound (launch actor))
      (askInstallation .load >>= fun reloaded =>
        .done (concludeBootstrap reloaded (launch actor))) history := by
  apply Contract.guards_ask
  rintro later - holds loaded _ ⟨rfl, loads⟩
  exact ⟨.inl rfl, concludeBootstrap_guards actor loads holds⟩

theorem absent_of_revision (holds : (installationContract launch).invariant history)
    (new : currentRevision history = 0) : history = [] := by
  rcases holds with absent | ⟨creator, revision, body, stored, positive, -⟩
  · exact absent
  · simp only [stored, currentRevision] at new
    omega

theorem bootstrap_guards (actor : ι) :
    (installationContract launch).Guards installationStore actor (Bound (launch actor))
      (bootstrap (launch actor)) history := by
  apply Contract.guards_ask
  intro first _ _ ready _ same
  refine ⟨.inl same, ?_⟩
  cases ready with
  | false => exact Bound.guards fun state started => by cases started
  | true =>
    apply Contract.guards_ask
    rintro second - holds loaded _ ⟨rfl, loads⟩
    refine ⟨.inl rfl, ?_⟩
    cases loads with
    | found current older => exact concludeBootstrap_guards actor (.found current older) holds
    | failed => exact concludeBootstrap_guards actor (.failed _) holds
    | absent =>
      cases marshalled : (Encoding.marshal (launch actor).initial : Option Body) with
      | none =>
        exact Bound.guards fun state started => by cases started
      | some body =>
        apply Contract.guards_ask
        intro third _ holds saved after saves
        cases saves with
        | @stored revision new grows =>
          have created : CreatedBy (launch actor) [⟨revision, body⟩] :=
            ⟨revision, body, rfl, grows, marshalled⟩
          have absent := absent_of_revision holds new
          rw [absent]
          refine ⟨.inr ⟨rfl, created⟩, Bound.guards (concludeBootstrap_bound ?_)⟩
          rintro document found
          cases found
          rfl
        | @lost revision new grows =>
          have created : CreatedBy (launch actor) [⟨revision, body⟩] :=
            ⟨revision, body, rfl, grows, marshalled⟩
          have absent := absent_of_revision holds new
          rw [absent]
          exact ⟨.inr ⟨rfl, created⟩, reload_guards actor⟩
        | refused error => exact ⟨.inl rfl, reload_guards actor⟩

variable (launch) in
theorem bootstraps_sound :
    (installationContract launch).Sound (bootstraps launch)
      fun actor result (history : List (Versioned Body)) =>
        Bound (launch actor) result history where
  drift_invariant _ drifts := drifts.elim
  drift_rely _ drifts := drifts.elim
  program _ := bootstrap_guards _

theorem stored_lasts (document : Versioned Body) :
    (installationContract launch).Lasts (bootstraps launch) fun history =>
      history = [document] where
  guarantee := by
    rintro actor state next - (rfl | ⟨absent, -⟩) stored
    · exact stored
    · simp [absent] at stored
  drift _ drifts := drifts.elim

variable (launch) in
/-- Servers that start at once, with any identities and tokens, on a record that does not exist. In
every reachable pool: at most one document was stored, and it is never replaced; a server that
started was given the identity and the token of the server that created the document; and a server
that was given another identity or token, and has returned, has returned an error. What is said of
tokens holds up to a collision of digests. -/
theorem bootstraps_agree [DecidableEq ι]
    {pool : Pool (InstallationReply Body) (List (Versioned Body)) ι
      (Except StateError InstallationState)}
    (reachable : ((bootstraps launch).machine fun history => history = []).Reachable pool) :
    pool.shared.length ≤ 1 ∧
    (∀ later, ((bootstraps launch).machine fun history => history = []).Reaches pool later →
      ∀ document, pool.shared = [document] → later.shared = [document]) ∧
    (∀ actor state, pool.thread actor = some (.done (.ok state)) →
      ∃ creator, CreatedBy (launch creator) pool.shared) ∧
    (∀ actor creator state, pool.thread actor = some (.done (.ok state)) →
      CreatedBy (launch creator) pool.shared →
      (launch actor).installationID = (launch creator).installationID ∧
        ((launch actor).operatorToken = (launch creator).operatorToken ∨
          Collision (launch actor).operatorToken (launch creator).operatorToken)) ∧
    (∀ actor creator result, pool.thread actor = some (.done result) →
      CreatedBy (launch creator) pool.shared →
      ((launch actor).installationID ≠ (launch creator).installationID ∨
        (launch actor).operatorToken ≠ (launch creator).operatorToken) →
      (∃ error, result = .error error) ∨
        Collision (launch actor).operatorToken (launch creator).operatorToken) := by
  have starts : ∀ history : List (Versioned Body), history = [] →
      (installationContract launch).invariant history := fun _ absent => .inl absent
  have sound := bootstraps_sound launch
  have proved := Contract.proved sound starts reachable
  have given : ∀ actor creator state, pool.thread actor = some (.done (.ok state)) →
      CreatedBy (launch creator) pool.shared →
      (launch actor).installationID = (launch creator).installationID ∧
        ((launch actor).operatorToken = (launch creator).operatorToken ∨
          Collision (launch actor).operatorToken (launch creator).operatorToken) := by
    intro actor creator state finished created
    obtain ⟨document, stored, decoded, identity, hash⟩ := proved.result finished state rfl
    obtain ⟨revision, body, same, -, marshalled⟩ := created
    rw [stored] at same
    cases same
    rw [Encoding.decode_marshal marshalled] at decoded
    cases decoded
    exact ⟨identity.symm, eq_or_collision hash.symm⟩
  refine ⟨?_, ?_, ?_, given, ?_⟩
  · rcases proved.invariant with absent | ⟨creator, revision, body, stored, -⟩
    · simp [absent]
    · simp [stored]
  · intro later run document stored
    exact (stored_lasts document).reaches sound starts reachable run stored
  · intro actor state finished
    obtain ⟨document, stored, -⟩ := proved.result finished state rfl
    rcases proved.invariant with absent | created
    · simp [absent] at stored
    · exact created
  · intro actor creator result finished created different
    cases result with
    | error error => exact .inl ⟨error, rfl⟩
    | ok state =>
      obtain ⟨identity, equal | collision⟩ := given actor creator state finished created
      · exact absurd different (by simp [identity, equal])
      · exact .inr collision

end Bootstrap

/-! ## A sample run -/

abbrev plainDigest : Digest where
  sha256 bytes := (bytes ++ List.replicate 32 0).take 32
  sha256_length bytes := by
    rw [List.length_take, List.length_append, List.length_replicate]
    omega

abbrev plainEncoding (State : Type) : Encoding State State where
  marshal := some
  decode := some
  decode_marshal same := same.symm

def installationHandler {Body : Type} (history : List (Versioned Body)) :
    (call : InstallationCall Body) → InstallationReply Body call × List (Versioned Body)
  | .ready => (true, history)
  | .load => (answerLoad history, history)
  | .save expected body => answerSave history expected body

theorem installationHandler_admitted {Body : Type} (history : List (Versioned Body))
    (call : InstallationCall Body) :
    installationStore history call (installationHandler history call).1
      (installationHandler history call).2 := by
  cases call with
  | ready => rfl
  | load => exact ⟨rfl, loads_answerLoad history⟩
  | save expected body => exact saves_answerSave history expected body

def sampleLaunch : Bool → Launch
  | false => ⟨"alpha", "first", 1⟩
  | true => ⟨"beta", "second", 2⟩

section Sample

attribute [local instance] plainDigest plainEncoding

abbrev sampleServers : Machine (Pool (InstallationReply InstallationState)
    (List (Versioned InstallationState)) Bool (Except StateError InstallationState))
    (Option Bool) :=
  (bootstraps sampleLaunch).machine fun history => history = []

/-- The first server creates the record, and the second, with another identity, returns an error. -/
theorem bootstraps_agree_sample :
    ∃ pool, sampleServers.Reachable pool ∧
      pool.thread false = some (.done (.ok (sampleLaunch false).initial)) ∧
      pool.thread true = some (.done (.error .binding)) ∧ pool.shared.length ≤ 1 := by
  have start : sampleServers.Reachable ⟨[], fun _ => none⟩ :=
    ⟨⟨[], fun _ => none⟩, ⟨rfl, fun _ => rfl⟩, .refl⟩
  have created := start.reaches
    (System.reaches_runWith false installationHandler_admitted [] (fun _ => none) rfl)
  have both := created.reaches
    (System.reaches_runWith true installationHandler_admitted _ _ rfl)
  refine ⟨_, both, ?_, ?_, (bootstraps_agree sampleLaunch both).1⟩
  · rfl
  · rfl

end Sample

end CloudRing.ControlPlane
