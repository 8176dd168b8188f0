import CloudRing.ControlPlane.Sessions
import Mathlib.Data.List.Infix
import Mathlib.Data.List.Nodup

/-!
# Operator sessions over all interleavings

What the calls of any number of servers keep to, whatever order they happen in.
-/

namespace CloudRing.ControlPlane

open Library

/-! ## Committed logins -/

section Logins

variable {Body : Type} [Encoding SessionState Body]

def liveHash (document : Versioned Body) : Option String :=
  (Encoding.decode document.value : Option SessionState).bind fun state =>
    if state.revoked then none else some state.tokenSHA256

def logins (history : List (Versioned Body)) : List String := history.filterMap liveHash

variable {document : Versioned Body} {hash : String} {history : List (Versioned Body)}

theorem logins_cons_none
    (dead : liveHash document = none) : logins (document :: history) = logins history :=
  List.filterMap_cons_none dead

theorem logins_cons_some (live : liveHash document = some hash) :
    logins (document :: history) = hash :: logins history :=
  List.filterMap_cons_some live

theorem mem_logins
    (member : document ∈ history) (live : liveHash document = some hash) : hash ∈ logins history :=
  List.mem_filterMap.mpr ⟨document, member, live⟩

theorem liveHash_of_decode {state : SessionState}
    (decoded : Encoding.decode document.value = some state) (active : state.revoked = false) :
    liveHash document = some state.tokenSHA256 := by
  simp [liveHash, decoded, active]

theorem decode_of_liveHash (live : liveHash document = some hash) :
    ∃ state : SessionState, Encoding.decode document.value = some state ∧
      state.revoked = false ∧ state.tokenSHA256 = hash := by
  obtain ⟨state, decoded, active⟩ := Option.bind_eq_some_iff.mp live
  split at active
  · cases active
  · rename_i unrevoked
    exact ⟨state, decoded, by simpa using unrevoked, Option.some.inj active⟩

theorem eq_of_liveHash (distinct : (logins history).Nodup)
    {first second : Versioned Body} (one : first ∈ history)
    (other : second ∈ history) (live : liveHash first = some hash)
    (same : liveHash second = some hash) : first = second := by
  by_contra different
  have apart := List.pairwise_filterMap.mp distinct
  have symmetric : Std.Symm fun left right : Versioned Body =>
      ∀ x, liveHash left = some x → ∀ y, liveHash right = some y → x ≠ y :=
    ⟨fun left right differ x shows y shown => (differ y shown x shows).symm⟩
  exact apart.forall one other different hash live hash same rfl

def Retired (time : Int) (history : List (Versioned Body)) (hash : String) : Prop :=
  hash ∈ logins history ∧ ∀ current older, history = current :: older →
    liveHash current = some hash → ∀ state : SessionState,
      Encoding.decode current.value = some state → state.expiresAt ≤ time

theorem Retired.mono {time later : Int}
    (retired : Retired time history hash) (passes : time ≤ later) :
    Retired later history hash :=
  ⟨retired.1, fun current older stored live state decoded =>
    Int.le_trans (retired.2 current older stored live state decoded) passes⟩

theorem Retired.extend {time : Int} {later : List (Versioned Body)}
    (retired : Retired time history hash) (grows : history <:+ later)
    (distinct : (logins later).Nodup) : Retired time later hash := by
  obtain ⟨added, rfl⟩ := grows
  cases added with
  | nil => exact retired
  | cons current added =>
    refine ⟨?_, ?_⟩
    · rw [logins, List.filterMap_append]
      exact List.mem_append_right _ retired.1
    · intro newest older stored live
      cases stored
      rw [List.cons_append, logins_cons_some live, logins, List.filterMap_append] at distinct
      exact absurd (List.mem_append_right _ retired.1) (List.nodup_cons.mp distinct).1

def Superseded (history : List (Versioned Body)) (hash : String) : Prop :=
  ∃ newer, List.Sublist [newer, hash] (logins history)

theorem Superseded.retired
    (superseded : Superseded history hash) (distinct : (logins history).Nodup) (time : Int) :
    Retired time history hash := by
  obtain ⟨newer, later⟩ := superseded
  refine ⟨later.subset (by simp), ?_⟩
  rintro current older rfl live
  rw [logins_cons_some live] at later distinct
  have earlier : hash ∈ logins older := by
    cases later with
    | cons _ rest | cons_cons _ rest => exact rest.subset (by simp)
  exact absurd earlier (List.nodup_cons.mp distinct).1

/-! ## The shared state -/

variable {ι : Type}

structure Consistent (store : SessionStore Body ι) : Prop where
  ordered : Ordered store.history
  distinct : (logins store.history).Nodup
  drawn : (store.drawn.map Prod.snd).Nodup

/-- What a server relies on the others for: time passes, documents are added, and nobody else
commits a token that the server drew. -/
structure Relied (actor : ι) (store later : SessionStore Body ι) : Prop where
  clock : store.clock ≤ later.clock
  history : store.history <:+ later.history
  drawn : ∀ {hash}, (actor, hash) ∈ store.drawn → (actor, hash) ∈ later.drawn
  own : ∀ {hash}, (actor, hash) ∈ store.drawn → hash ∈ logins later.history →
    hash ∈ logins store.history

theorem Consistent.store {store : SessionStore Body ι} (consistent : Consistent store)
    (newer : currentRevision store.history < document.revision)
    (first : ∀ hash, liveHash document = some hash → hash ∉ logins store.history) :
    Consistent { store with history := document :: store.history } where
  ordered := consistent.ordered.cons newer document.value
  distinct := by
    cases live : liveHash document with
    | none => exact (logins_cons_none live).symm ▸ consistent.distinct
    | some hash =>
      rw [logins_cons_some live]
      exact List.nodup_cons.mpr ⟨first hash live, consistent.distinct⟩
  drawn := consistent.drawn

theorem Retired.relied {actor : ι} {store later : SessionStore Body ι}
    (retired : Retired store.clock store.history hash) (relied : Relied actor store later)
    (consistent : Consistent later) : Retired later.clock later.history hash :=
  (retired.mono relied.clock).extend relied.history consistent.distinct

theorem SessionStore.Begins.consistent {store : SessionStore Body ι} (begins : store.Begins) :
    Consistent store := by
  obtain ⟨short, positive, undrawn⟩ := begins
  have single : ∀ {β : Type} {related : β → β → Prop} (list : List β), list.length ≤ 1 →
      list.Pairwise related
    | _, _, [], _ => .nil
    | _, _, [_], _ => List.pairwise_singleton _ _
  have few : (logins store.history).length ≤ 1 :=
    Nat.le_trans (List.length_filterMap_le _ _) short
  exact ⟨⟨positive, single _ short⟩, single _ few, by simp [undrawn]⟩

end Logins

/-! ## Accepted tokens -/

section Interleavings

variable {Body ι : Type} [Digest] [Encoding SessionState Body]

theorem validSession_iff {installationID token : String} {now : Int}
    {document : Versioned Body} {state : SessionState}
    (decoded : Encoding.decode document.value = some state) :
    validSession installationID document token now = true ↔
      state.schemaVersion = 1 ∧ 1 ≤ document.revision ∧ state.revoked = false ∧
        state.installationID = installationID ∧
        state.operatorID = "dev-operator:" ++ installationID ∧
        state.tokenSHA256 = tokenHash token ∧ state.createdAt ≤ now ∧ now < state.expiresAt ∧
        state.expiresAt - state.createdAt = sessionLifetime := by
  simp only [validSession, decoded, Bool.not_eq_true', Bool.or_eq_false_iff,
    decide_eq_false_iff_not, ne_eq, not_not, Bool.not_eq_false', equalHash_iff, and_assoc,
    decide_eq_true_eq, not_lt, gt_iff_lt]

theorem liveHash_of_valid {installationID token : String} {now : Int} {document : Versioned Body}
    (valid : validSession installationID document token now = true) :
    liveHash document = some (tokenHash token) := by
  cases decoded : (Encoding.decode document.value : Option SessionState) with
  | none => simp [validSession, decoded] at valid
  | some state =>
    obtain ⟨-, -, active, -, -, hash, -⟩ := (validSession_iff decoded).mp valid
    rw [liveHash_of_decode decoded active, hash]

theorem Retired.invalid {time now : Int} {current : Versioned Body}
    {older : List (Versioned Body)} {token : String}
    (retired : Retired time (current :: older) (tokenHash token)) (passes : time ≤ now)
    (installationID : String) : validSession installationID current token now = false := by
  by_contra accepted
  have valid : validSession installationID current token now = true := by simpa using accepted
  have live := liveHash_of_valid valid
  obtain ⟨state, decoded, -, -⟩ := decode_of_liveHash live
  have expired : state.expiresAt ≤ time := retired.2 current older rfl live state decoded
  have unexpired : now < state.expiresAt := by
    obtain ⟨-, -, -, -, -, -, -, unexpired, -⟩ := (validSession_iff decoded).mp valid
    exact unexpired
  omega

theorem Retired.rejects {time now : Int} {history : List (Versioned Body)}
    {loaded : Except LoadError (Versioned Body)} {token : String}
    (retired : Retired time history (tokenHash token)) (passes : time ≤ now)
    (loads : Loads history loaded) (installationID : String) :
    ∃ error, concludeLoad installationID token now loaded = .error error := by
  cases loads with
  | found current older =>
    have invalid := retired.invalid passes installationID
    exact ⟨.invalid, by simp [concludeLoad, invalid]⟩
  | absent => exact ⟨.store .notFound, rfl⟩
  | failed => exact ⟨.store .failed, rfl⟩

/-! ## What every server keeps to -/

inductive Change (operation : ι → Operation) (actor : ι) (store : SessionStore Body ι) :
    SessionStore Body ι → Prop where
  | still : Change operation actor store store
  | draws {hash : String} (fresh : store.Fresh hash) :
      Change operation actor store { store with drawn := (actor, hash) :: store.drawn }
  | logsIn {installationID hash : String} {document : Versioned Body}
      (role : operation actor = .login installationID) (own : (actor, hash) ∈ store.drawn)
      (first : hash ∉ logins store.history) (live : liveHash document = some hash)
      (newer : currentRevision store.history < document.revision) :
      Change operation actor store { store with history := document :: store.history }
  | revokes {installationID token : String} {current document : Versioned Body}
      {older : List (Versioned Body)} (role : operation actor = .logout installationID token)
      (stored : store.history = current :: older)
      (live : liveHash current = some (tokenHash token)) (dead : liveHash document = none)
      (newer : currentRevision store.history < document.revision) :
      Change operation actor store { store with history := document :: store.history }

theorem Change.consistent {operation : ι → Operation} {actor : ι}
    {store next : SessionStore Body ι} (consistent : Consistent store)
    (change : Change operation actor store next) : Consistent next := by
  cases change with
  | still => exact consistent
  | draws fresh =>
    exact ⟨consistent.ordered, consistent.distinct,
      List.nodup_cons.mpr ⟨fresh.1, consistent.drawn⟩⟩
  | logsIn role own first live newer =>
    apply consistent.store newer
    intro hash shown
    rw [live] at shown
    exact Option.some.inj shown ▸ first
  | revokes role stored live dead newer =>
    apply consistent.store newer
    intro hash shown
    rw [dead] at shown
    cases shown

theorem Change.relied {operation : ι → Operation} {actor other : ι}
    {store next : SessionStore Body ι} (different : actor ≠ other) (consistent : Consistent store)
    (change : Change operation actor store next) : Relied other store next := by
  cases change with
  | still => exact ⟨Int.le_refl _, List.suffix_refl _, id, fun _ => id⟩
  | draws fresh =>
    exact ⟨Int.le_refl _, List.suffix_refl _, fun member => List.mem_cons_of_mem _ member,
      fun _ => id⟩
  | @logsIn installationID hash document role own first live newer =>
    refine ⟨Int.le_refl _, List.suffix_cons _ _, id, fun {held} member committed => ?_⟩
    rw [logins_cons_some live] at committed
    rcases List.mem_cons.mp committed with rfl | before
    · have same : (other, held) = (actor, held) :=
        List.inj_on_of_nodup_map consistent.drawn member own rfl
      exact absurd (congrArg Prod.fst same).symm different
    · exact before
  | revokes role stored live dead newer =>
    refine ⟨Int.le_refl _, List.suffix_cons _ _, id, fun _ committed => ?_⟩
    rwa [logins_cons_none dead] at committed

def sessionContract (operation : ι → Operation) : Contract (SessionStore Body ι) ι where
  invariant := Consistent
  rely := Relied
  guarantee := Change operation
  rely_refl _ _ := ⟨Int.le_refl _, List.suffix_refl _, id, fun _ => id⟩
  rely_trans before after :=
    ⟨Int.le_trans before.clock after.clock, before.history.trans after.history,
      fun member => after.drawn (before.drawn member),
      fun member committed => before.own member (after.own (before.drawn member) committed)⟩
  guarantee_refl _ _ := .still
  guarantee_invariant := Change.consistent
  guarantee_rely := Change.relied

def Ended (operation : Operation) (outcome : Outcome Body) (store : SessionStore Body ι) : Prop :=
  ∀ installationID token, operation = .logout installationID token →
    outcome = .revoked (.ok ()) → Retired store.clock store.history (tokenHash token)

/-- What a server's program guarantees and establishes, by the contract of the sessions. -/
abbrev Guarded (operation : ι → Operation) (actor : ι) {α : Type}
    (post : α → SessionStore Body ι → Prop) (program : Program (SessionReply Body) α)
    (store : SessionStore Body ι) : Prop :=
  (sessionContract operation).Guards (sessionEnvironment actor) actor post program store

section Programs

variable {operation : ι → Operation} {actor : ι} {store : SessionStore Body ι} {α : Type}
  {post : α → SessionStore Body ι → Prop}

theorem loadSession_guards {installationID token : String} {now : Int}
    {rest : Except SessionError (Versioned Body) → Program (SessionReply Body) α}
    (malformed : operatorToken token = false →
      Guarded operation actor post (rest (.error .invalid)) store)
    (loads : operatorToken token = true → ∀ later, Relied actor store later → Consistent later →
      ∀ loaded, Loads later.history loaded →
        Guarded operation actor post (rest (concludeLoad installationID token now loaded)) later) :
    Guarded operation actor post (loadSession installationID token now >>= rest) store := by
  unfold loadSession
  cases shaped : operatorToken token with
  | false => exact malformed shaped
  | true =>
    rintro later relied consistent loaded _ ⟨rfl, answered⟩
    exact ⟨.still, loads shaped _ relied consistent loaded answered⟩

theorem now_guards {rest : Int → Program (SessionReply Body) α}
    (reads : ∀ later, Relied actor store later → Consistent later →
      Guarded operation actor post (rest later.clock) later) :
    Guarded operation actor post (askSession .now >>= rest) store := by
  rintro later relied consistent _ _ ⟨rfl, rfl⟩
  exact ⟨.still, reads _ relied consistent⟩

theorem load_guards {rest : Except LoadError (Versioned Body) → Program (SessionReply Body) α}
    (loads : ∀ later, Relied actor store later → Consistent later →
      ∀ loaded, Loads later.history loaded →
        Guarded operation actor post (rest loaded) later) :
    Guarded operation actor post (askSession .load >>= rest) store := by
  rintro later relied consistent loaded _ ⟨rfl, answered⟩
  exact ⟨.still, loads _ relied consistent loaded answered⟩

end Programs

/-! ## Logout -/

structure Held (time : Int) (history : List (Versioned Body)) (document : Versioned Body)
    (installationID token : String) : Prop where
  member : document ∈ history
  shaped : operatorToken token = true
  valid : ∃ before ≤ time, validSession installationID document token before = true

section Held

variable {time moment : Int} {history grown : List (Versioned Body)} {document : Versioned Body}
  {installationID token : String}

section HeldTokens

variable (held : Held time history document installationID token)

include held

theorem Held.later
    (passes : time ≤ moment) (grows : history <:+ grown) :
    Held moment grown document installationID token := by
  obtain ⟨before, earlier, valid⟩ := held.valid
  exact ⟨grows.subset held.member, held.shaped, before, Int.le_trans earlier passes, valid⟩

theorem Held.live :
    liveHash document = some (tokenHash token) := by
  obtain ⟨before, -, valid⟩ := held.valid
  exact liveHash_of_valid valid

theorem Held.expired {state : SessionState}
    (decoded : Encoding.decode document.value = some state)
    (invalid : validSession installationID document token time = false) :
    state.expiresAt ≤ time := by
  obtain ⟨before, earlier, valid⟩ := held.valid
  obtain ⟨schema, revision, active, installation, operator, hash, created, -, lifetime⟩ :=
    (validSession_iff decoded).mp valid
  by_contra unexpired
  have still : validSession installationID document token time = true :=
    (validSession_iff decoded).mpr ⟨schema, revision, active, installation, operator, hash,
      Int.le_trans created earlier, Int.not_le.mp unexpired, lifetime⟩
  rw [invalid] at still
  cases still

theorem Held.retired
    (distinct : (logins history).Nodup)
    (invalid : ∀ current older, history = current :: older →
      validSession installationID current token time = false) :
    Retired time history (tokenHash token) := by
  refine ⟨mem_logins held.member held.live, fun current older stored live state decoded => ?_⟩
  have member : current ∈ history := by
    rw [stored]
    exact List.mem_cons_self
  have same := eq_of_liveHash distinct member held.member live held.live
  have rejected := invalid current older stored
  rw [same] at decoded rejected
  exact held.expired decoded rejected

theorem Held.current
    (ordered : Ordered history) (swaps : currentRevision history = document.revision) :
    ∃ older, history = document :: older := by
  have member := held.member
  cases history with
  | nil => cases member
  | cons current older => exact ⟨older, by rw [ordered.eq_current member swaps.symm]⟩

end HeldTokens

end Held

section Logout

variable {operation : ι → Operation} {actor : ι} {store : SessionStore Body ι}
  {document : Versioned Body} {installationID token : String}

def Revoked (token : String) (result : Except StateError Unit) (store : SessionStore Body ι) :
    Prop :=
  result = .ok () → Retired store.clock store.history (tokenHash token)

theorem unavailable_guards :
    Guarded operation actor (Revoked token) (.done (.error .unavailable)) store :=
  Contract.guards_done fun _ _ _ ended => by cases ended

theorem confirmRevoked_guards
    (held : Held store.clock store.history document installationID token) :
    Guarded operation actor (Revoked token) (confirmRevoked installationID token) store := by
  apply now_guards
  intro middle relied _
  have held := held.later relied.clock relied.history
  apply loadSession_guards
  · intro malformed
    rw [held.shaped] at malformed
    cases malformed
  · intro _ later relies consistent loaded loads
    have held := held.later (Int.le_refl _) relies.history
    have ends : (∀ current older, later.history = current :: older →
        validSession installationID current token middle.clock = false) →
        Guarded operation actor (Revoked token) (.done (.ok ())) later := by
      intro invalid
      have retired := (held.retired consistent.distinct invalid).mono relies.clock
      exact Contract.guards_done fun last relied consistent _ =>
        retired.relied relied consistent
    generalize history_eq : later.history = history at loads ends
    cases loads with
    | found current older =>
      cases valid : validSession installationID current token middle.clock with
      | true =>
        simp only [concludeLoad, valid]
        exact unavailable_guards
      | false =>
        simp only [concludeLoad, valid]
        apply ends
        rintro _ _ ⟨⟩
        exact valid
    | absent =>
      apply ends
      rintro _ _ ⟨⟩
    | failed => exact unavailable_guards

theorem revokeSession_guards (role : operation actor = .logout installationID token)
    (held : Held store.clock store.history document installationID token) :
    Guarded operation actor (Revoked token)
      (revokeSession installationID document token) store := by
  obtain ⟨state, decoded, active, hash⟩ := decode_of_liveHash held.live
  unfold revokeSession
  simp only [decoded]
  cases marshalled : (Encoding.marshal { state with revoked := true } : Option Body) with
  | none => exact unavailable_guards
  | some body =>
    apply Contract.guards_ask
    rintro later relied consistent saved _ ⟨history, saves, rfl⟩
    have held := held.later relied.clock relied.history
    have dead : ∀ revision, liveHash (⟨revision, body⟩ : Versioned Body) = none := by
      intro revision
      simp [liveHash, Encoding.decode_marshal marshalled]
    cases saves with
    | @stored revision swaps grows =>
      obtain ⟨older, current⟩ := held.current consistent.ordered swaps
      refine ⟨.revokes role current held.live (dead revision) (swaps ▸ grows), ?_⟩
      have retired : Retired later.clock (⟨revision, body⟩ :: later.history)
          (tokenHash token) := by
        refine ⟨?_, ?_⟩
        · rw [logins_cons_none (dead revision)]
          exact mem_logins held.member held.live
        · rintro _ _ ⟨⟩ live
          rw [dead revision] at live
          cases live
      exact Contract.guards_done fun last relied consistent _ =>
        Retired.relied retired relied consistent
    | @lost revision swaps grows =>
      obtain ⟨older, current⟩ := held.current consistent.ordered swaps
      refine ⟨.revokes role current held.live (dead revision) (swaps ▸ grows), ?_⟩
      exact confirmRevoked_guards (held.later (Int.le_refl _) (List.suffix_cons _ _))
    | refused error => exact ⟨.still, confirmRevoked_guards held⟩

end Logout

/-! ## Login -/

section Login

variable {operation : ι → Operation} {actor : ι} {store : SessionStore Body ι}
  {post : Except StateError String → SessionStore Body ι → Prop}

theorem readback_guards {token : String} {body : Body} {attempts : Nat}
    (ends : ∀ result later, post result later) :
    Guarded operation actor post
      (askSession .load >>= fun readback =>
        if observesToken token readback then return .ok token
        else if SaveError.failed ≠ .conflict then return .error .unavailable
        else commitSession token body attempts) store := by
  apply load_guards
  intro later _ _ loaded _
  cases observesToken token loaded with
  | true | false => exact Contract.guards_done fun _ _ _ => ends _ _

theorem commitSession_guards {installationID token : String} {body : Body}
    (role : operation actor = .login installationID) (ends : ∀ result later, post result later)
    (live : ∀ revision, liveHash (⟨revision, body⟩ : Versioned Body) = some (tokenHash token))
    (attempts : Nat) (drawn : (actor, tokenHash token) ∈ store.drawn)
    (first : tokenHash token ∉ logins store.history) :
    Guarded operation actor post (commitSession token body attempts) store := by
  -- The induction is on the attempts that are left; until a save takes effect, the token stays
  -- drawn and uncommitted.
  induction attempts generalizing store with
  | zero => exact Contract.guards_done fun _ _ _ => ends _ _
  | succ attempts ih =>
    apply load_guards
    intro middle relied _ loaded _
    have drawn := relied.drawn drawn
    have first : tokenHash token ∉ logins middle.history := fun committed =>
      first (relied.own ‹_› committed)
    split
    · exact Contract.guards_done fun _ _ _ => ends _ _
    · apply Contract.guards_ask
      rintro later relied _ saved _ ⟨history, saves, rfl⟩
      have drawn := relied.drawn drawn
      have first : tokenHash token ∉ logins later.history := fun committed =>
        first (relied.own ‹_› committed)
      cases saves with
      | @stored revision swaps grows =>
        refine ⟨.logsIn role drawn first (live revision) (swaps ▸ grows), ?_⟩
        exact Contract.guards_done fun _ _ _ => ends _ _
      | @lost revision swaps grows =>
        refine ⟨.logsIn role drawn first (live revision) (swaps ▸ grows), ?_⟩
        exact readback_guards ends
      | refused error =>
        refine ⟨.still, ?_⟩
        apply load_guards
        intro last relied _ readback _
        cases observesToken token readback with
        | true => exact Contract.guards_done fun _ _ _ => ends _ _
        | false =>
          cases error with
          | failed => exact Contract.guards_done fun _ _ _ => ends _ _
          | conflict =>
            exact ih (relied.drawn drawn) fun committed => first (relied.own drawn committed)

theorem createSession_guards {installationID : String} {now : Int}
    (role : operation actor = .login installationID) (ends : ∀ result later, post result later) :
    Guarded operation actor post (createSession installationID now) store := by
  apply Contract.guards_ask
  intro later _ _ random _ answered
  rcases answered with ⟨rfl, rfl⟩ | ⟨token, rfl, -, fresh, rfl⟩
  · exact ⟨.still, Contract.guards_done fun _ _ _ => ends _ _⟩
  · refine ⟨.draws fresh, ?_⟩
    cases marshalled : (Encoding.marshal (newSession installationID token now) : Option Body) with
    | none =>
      simp only [marshalled]
      exact Contract.guards_done fun _ _ _ => ends _ _
    | some body =>
      simp only [marshalled]
      have live : ∀ revision,
          liveHash (⟨revision, body⟩ : Versioned Body) = some (tokenHash token) := by
        intro revision
        have decoded : Encoding.decode (⟨revision, body⟩ : Versioned Body).value =
            some (newSession installationID token now) := Encoding.decode_marshal marshalled
        exact liveHash_of_decode decoded rfl
      have first : tokenHash token ∉ logins later.history := by
        intro committed
        obtain ⟨document, member, shown⟩ := List.mem_filterMap.mp committed
        obtain ⟨state, decoded, -, same⟩ := decode_of_liveHash shown
        exact fresh.2 document member (by simp [storedHash, decoded, same])
      exact commitSession_guards role ends live 3 List.mem_cons_self first

end Login

/-! ## All servers together -/

section Servers

variable {operation : ι → Operation}

theorem program_guards (actor : ι) (store : SessionStore Body ι) :
    Guarded operation actor (Ended (operation actor)) (operation actor).program store := by
  cases role : operation actor with
  | login installationID =>
    apply now_guards
    intro later _ _
    apply Contract.guards_bind
    apply createSession_guards role
    intro result last
    exact Contract.guards_done fun _ _ _ _ _ logout => by cases logout
  | check installationID token =>
    apply now_guards
    intro later _ _
    apply loadSession_guards
    · intro _
      exact Contract.guards_done fun _ _ _ _ _ logout => by cases logout
    · intro _ last _ _ loaded _
      exact Contract.guards_done fun _ _ _ _ _ logout => by cases logout
  | logout installationID token =>
    apply now_guards
    intro later _ _
    apply loadSession_guards
    · intro _
      exact Contract.guards_done fun _ _ _ _ _ _ ended => by cases ended
    · intro shaped last relied _ loaded loads
      cases concluded : concludeLoad installationID token later.clock loaded with
      | error error => exact Contract.guards_done fun _ _ _ _ _ _ ended => by cases ended
      | ok document =>
        obtain ⟨rfl, valid⟩ := concludeLoad_ok.mp concluded
        have member : document ∈ last.history := by
          generalize last.history = history at loads
          cases loads with
          | found current older => exact List.mem_cons_self
        have held : Held last.clock last.history document installationID token :=
          ⟨member, shaped, later.clock, relied.clock, valid⟩
        apply Contract.guards_bind
        apply (revokeSession_guards role held).mono
        intro result ending revoked
        apply Contract.guards_done
        rintro final relied consistent _ _ ⟨⟩ ⟨⟩
        exact (revoked rfl).relied relied consistent

variable (operation) in
theorem sessions_sound :
    (sessionContract operation).Sound (sessions operation)
      fun actor outcome (store : SessionStore Body ι) =>
        Ended (operation actor) outcome store where
  drift_invariant := by
    rintro state later consistent ⟨clock, -, rfl⟩
    exact ⟨consistent.ordered, consistent.distinct, consistent.drawn⟩
  drift_rely := by
    rintro actor state later - ⟨clock, passes, rfl⟩
    exact ⟨passes, List.suffix_refl _, id, fun _ => id⟩
  program _ := program_guards _ _

theorem retired_lasts (time : Int) (hash : String) :
    (sessionContract operation).Lasts (sessions operation)
      fun store : SessionStore Body ι => time ≤ store.clock ∧ Retired time store.history hash where
  guarantee := by
    rintro actor state next consistent change ⟨passes, retired⟩
    have kept := change.consistent consistent
    cases change with
    | still | draws => exact ⟨passes, retired⟩
    | logsIn | revokes =>
      exact ⟨passes, retired.extend (List.suffix_cons _ _) kept.distinct⟩
  drift := by
    rintro state later - ⟨clock, passes, rfl⟩ ⟨before, retired⟩
    exact ⟨Int.le_trans before passes, retired⟩

def Operation.presented : Operation → Option String
  | login _ => none
  | check _ token | logout _ token => some token

def Outcome.accepted : Outcome Body → Bool
  | created _ | loaded (.error _) => false
  | loaded (.ok _) | revoked _ => true

theorem retired_guards {actor : ι} {token : String}
    (presents : (operation actor).presented = some token) {store : SessionStore Body ι}
    (retired : Retired store.clock store.history (tokenHash token)) :
    Guarded operation actor (fun outcome _ => outcome.accepted = false) (operation actor).program
      store := by
  have refuses : ∀ installationID (rest : Except SessionError (Versioned Body) →
      Program (SessionReply Body) (Outcome Body)), (∀ error later, Guarded operation actor
        (fun outcome _ => outcome.accepted = false) (rest (.error error)) later) →
      Guarded operation actor (fun outcome _ => outcome.accepted = false)
        (askSession .now >>= fun now => loadSession installationID token now >>= rest) store := by
    intro installationID rest ends
    apply now_guards
    intro later relied consistent
    apply loadSession_guards
    · exact fun _ => ends _ _
    · intro _ last relies kept loaded loads
      have still := (retired.relied relied consistent).extend relies.history kept.distinct
      obtain ⟨error, rejected⟩ := still.rejects (Int.le_refl _) loads installationID
      rw [rejected]
      exact ends _ _
  cases role : operation actor with
  | login installationID =>
    rw [role] at presents
    cases presents
  | check installationID presented | logout installationID presented =>
    obtain rfl : presented = token := by simpa [role, Operation.presented] using presents
    exact refuses installationID _ fun _ _ => Contract.guards_done fun _ _ _ => rfl

variable [DecidableEq ι]

variable (operation) in
abbrev sessionMachine : Machine (Pool (SessionReply Body) (SessionStore Body ι) ι (Outcome Body))
    (Option ι) :=
  (sessions operation).machine SessionStore.Begins

variable {pool next : Pool (SessionReply Body) (SessionStore Body ι) ι (Outcome Body)}

variable (operation pool) in
/-- From this pool on a token is not accepted: not by a load of a call that was given a time since
the named one, and not by a call that starts from now on. -/
structure NeverAccepted (since : Int) (token : String) : Prop where
  loads : ∀ later, (sessionMachine operation).Reaches pool later → ∀ installationID now,
    since ≤ now → ¬ Accepts installationID token now later.shared
  calls : ∀ later, (sessionMachine operation).Reaches pool later → ∀ actor,
    pool.thread actor = none → (operation actor).presented = some token →
    ∀ outcome, later.thread actor = some (.done outcome) → outcome.accepted = false

theorem Retired.never {time : Int} {token : String}
    (reachable : (sessionMachine operation).Reachable pool)
    (retired : Retired time pool.shared.history (tokenHash token))
    (passes : time ≤ pool.shared.clock) : NeverAccepted operation pool time token where
  loads := by
    rintro later run installationID now since ⟨-, current, older, stored, valid⟩
    have still : time ≤ later.shared.clock ∧ Retired time later.shared.history (tokenHash token) :=
      (retired_lasts time (tokenHash token)).reaches (sessions_sound operation)
        (fun _ begins => begins.consistent) reachable run ⟨passes, retired⟩
    have invalid := (stored ▸ still.2).invalid since installationID
    rw [valid] at invalid
    cases invalid
  calls := by
    intro later run actor idle presents outcome finished
    have guards : ∀ {store : SessionStore Body ι}, Consistent store →
        time ≤ store.clock ∧ Retired time store.history (tokenHash token) →
        Guarded operation actor (fun outcome _ => outcome.accepted = false)
          (operation actor).program store := by
      rintro store - ⟨passes, retired⟩
      exact retired_guards presents (retired.mono passes)
    have rejected := (retired_lasts time (tokenHash token)).follows (sessions_sound operation)
      (fun _ begins => begins.consistent) guards reachable run idle ⟨passes, retired⟩ finished
    have consistent := (Contract.proved (sessions_sound operation)
      (fun _ begins => begins.consistent) (reachable.reaches run)).invariant
    exact rejected later.shared ((sessionContract operation).rely_refl actor _) consistent

end Servers

end Interleavings

/-! ## A sample run -/

section Sample

attribute [local instance] plainDigest plainEncoding

def sampleToken : String := String.ofList (List.replicate 64 'a')

instance {ι : Type} (store : SessionStore SessionState ι) (hash : String) :
    Decidable (store.Fresh hash) := by
  unfold SessionStore.Fresh
  infer_instance

def sessionHandler {ι : Type} (actor : ι) (store : SessionStore SessionState ι) :
    (call : SessionCall SessionState) →
      SessionReply SessionState call × SessionStore SessionState ι
  | .now => (store.clock, store)
  | .random =>
    if store.Fresh (tokenHash sampleToken) then
      (some sampleToken, { store with drawn := (actor, tokenHash sampleToken) :: store.drawn })
    else (none, store)
  | .load => (answerLoad store.history, store)
  | .save expected body =>
    ((answerSave store.history expected body).1,
      { store with history := (answerSave store.history expected body).2 })

theorem sessionHandler_admitted {ι : Type} (actor : ι) (store : SessionStore SessionState ι)
    (call : SessionCall SessionState) :
    sessionEnvironment actor store call (sessionHandler actor store call).1
      (sessionHandler actor store call).2 := by
  cases call with
  | now => exact ⟨rfl, rfl⟩
  | random =>
    unfold sessionHandler
    split
    · rename_i fresh
      exact .inr ⟨sampleToken, rfl, by decide +kernel, fresh, rfl⟩
    · exact .inl ⟨rfl, rfl⟩
  | load => exact ⟨rfl, loads_answerLoad store.history⟩
  | save expected body =>
    exact ⟨_, saves_answerSave store.history expected body, rfl⟩

def sampleOperation : Bool → Operation
  | false => .login "alpha"
  | true => .logout "alpha" sampleToken

end Sample

end CloudRing.ControlPlane
