import CloudRing.GitOpsOwnership.Discovery

/-!
# What a collection consists of

The requests of a collection fall into attempts, each of which follows the tokens of its own pages
(`Follows`, `Transcript`).
-/

namespace CloudRing.GitOpsOwnership

open Library

/-! ## Sorting -/

section Sorting

variable {α : Type} {key : α → String}

theorem sortBy_perm (key : α → String) (objects : List α) : (sortBy key objects).Perm objects :=
  List.perm_insertionSort _ objects

theorem sortBy_strict {objects : List α} (distinct : (objects.map key).Nodup) :
    (sortBy key objects).Pairwise fun left right => key left < key right := by
  have total : Std.Total fun left right : α => key left ≤ key right :=
    ⟨fun left right => le_total (key left) (key right)⟩
  have trans : IsTrans α fun left right => key left ≤ key right :=
    ⟨fun _ _ _ first second => first.trans second⟩
  have ordered := List.pairwise_insertionSort (fun left right => key left ≤ key right) objects
  have apart : (sortBy key objects).Pairwise fun left right => key left ≠ key right :=
    List.pairwise_map.mp (((sortBy_perm key objects).map key).nodup_iff.mpr distinct)
  exact (ordered.and apart).imp fun both => lt_of_le_of_ne both.1 both.2

end Sorting

/-! ## Transcripts -/

abbrev PageEvent (Raw : Type) := CollectionRequest × PageReply Raw

/-- A page reader that may answer anything. What was asked and answered is recorded, oldest
first. -/
def reading {Raw : Type} :
    Program.Environment (fun _ : CollectionRequest => PageReply Raw) (List (PageEvent Raw)) :=
  fun log request reply next => next = log ++ [(request, reply)]

section Transcripts

variable {Raw α : Type}

def Follows (request : String → CollectionRequest) : String → List (PageEvent Raw) → Prop
  | _, [] => True
  | token, (asked, reply) :: rest =>
    asked = request token ∧
      match reply with
      | .ok ⟨_, some page⟩ => Follows request page.continueToken rest
      | _ => rest = []

def Carries (event : PageEvent Raw) (page : ListPage Raw) : Prop :=
  ∃ size, event.2 = .ok ⟨size, some page⟩

/-- A collection is made of the pages of one attempt: they have one resource version, the last one
has no continue token, and the result is the sorted concatenation of their items, without
duplicates. -/
structure Complete (reads : Raw → α → Prop) (key : α → String) (pages : List (ListPage Raw))
    (result : Collected α) : Prop where
  count : result.pageCount = pages.length
  version : ∀ page ∈ pages, page.resourceVersion = result.resourceVersion
  last : pages.getLast?.map ListPage.continueToken = some ""
  items : ∃ items, List.Forall₂ reads (pages.flatMap ListPage.items) items ∧
    result.objects = sortBy key items
  sorted : result.objects.Pairwise fun left right => key left < key right

def Transcript (request : String → CollectionRequest) (reads : Raw → α → Prop)
    (key : α → String) (log : List (PageEvent Raw)) (result : Except String (Collected α)) :
    Prop :=
  ∃ attempts : List (List (PageEvent Raw)),
    log = attempts.flatten ∧ attempts.length ≤ 4 ∧
    (∀ attempt ∈ attempts, attempt.length ≤ 101 ∧ Follows request "" attempt) ∧
    ∀ collected, result = .ok collected →
      ∃ attempt pages, attempts.getLast? = some attempt ∧ List.Forall₂ Carries attempt pages ∧
        Complete reads key pages collected

end Transcripts

/-! ## One attempt -/

section Attempts

variable {Raw α : Type} {collector : Collector Raw α} {reads : Raw → α → Prop}

structure Attempt.Holds (reads : Raw → α → Prop) (key : α → String)
    (pages : List (ListPage Raw)) (state : Attempt α) : Prop where
  count : state.pageCount = pages.length
  bound : pages.length ≤ maxCollectionPages
  version : ∀ page ∈ pages, page.resourceVersion = state.resourceVersion
  started : state.resourceVersion = "" → pages = []
  items : List.Forall₂ reads (pages.flatMap ListPage.items) state.objects
  seen : ∀ text, text ∈ state.seenObjects ↔ text ∈ state.objects.map key
  distinct : (state.objects.map key).Nodup

theorem Attempt.holds_init (reads : Raw → α → Prop) (key : α → String) :
    Attempt.Holds reads key [] ({} : Attempt α) where
  count := rfl
  bound := Nat.zero_le _
  version := List.forall_mem_nil _
  started := fun _ => rfl
  items := List.Forall₂.nil
  seen := fun _ => Iff.rfl
  distinct := List.nodup_nil

structure ItemsHold (reads : Raw → α → Prop) (key : α → String) (raws : List Raw)
    (state : Attempt α) : Prop where
  items : List.Forall₂ reads raws state.objects
  seen : ∀ text, text ∈ state.seenObjects ↔ text ∈ state.objects.map key
  distinct : (state.objects.map key).Nodup

variable (sound : ∀ raw item, collector.decode raw = .ok item → reads raw item)

include sound

theorem ItemsHold.readItem {raws : List Raw} {raw : Raw} {state next : Attempt α}
    (holds : ItemsHold reads collector.key raws state)
    (read : collector.readItem state raw = .ok next) :
    ItemsHold reads collector.key (raws ++ [raw]) next := by
  obtain ⟨item, decoded, read⟩ := bind_ok.mp read
  obtain ⟨fresh, read⟩ := check_bind.mp read
  obtain ⟨-, read⟩ := check_bind.mp read
  cases read
  have unseen : collector.key item ∉ state.objects.map collector.key := by
    rw [← holds.seen]
    simpa using fresh
  refine ⟨?_, fun text => ?_, ?_⟩
  · exact List.rel_append holds.items
      (List.Forall₂.cons (sound raw item decoded) List.Forall₂.nil)
  · rw [List.mem_cons, holds.seen, List.map_append, List.mem_append, List.map_singleton,
      List.mem_singleton, or_comm]
  · rw [List.map_append, List.map_singleton, ← List.concat_eq_append]
    exact holds.distinct.concat unseen

theorem ItemsHold.readItems {raws more : List Raw} {state next : Attempt α}
    (holds : ItemsHold reads collector.key raws state)
    (read : collector.readItems state more = .ok next) :
    ItemsHold reads collector.key (raws ++ more) next := by
  induction more generalizing raws state with
  | nil =>
    cases read
    rwa [List.append_nil]
  | cons raw rest ih =>
    obtain ⟨middle, step, read⟩ := bind_ok.mp read
    have added := ih (holds.readItem sound step) read
    rwa [List.append_assoc, List.singleton_append] at added

theorem Attempt.Holds.readPage {pages : List (ListPage Raw)} {page : ListPage Raw}
    {state read : Attempt α} (holds : state.Holds reads collector.key pages)
    (version : Pattern.blank page.resourceVersion = false)
    (unchanged : state.resourceVersion = "" ∨ state.resourceVersion = page.resourceVersion)
    (bound : state.pageCount + 1 ≤ maxCollectionPages)
    (items : collector.readItems { state with
      resourceVersion := page.resourceVersion, pageCount := state.pageCount + 1 } page.items =
        .ok read) :
    read.Holds reads collector.key (pages ++ [page]) := by
  obtain ⟨count, kept, -⟩ := collector.readItems_keeps items
  have before : ItemsHold reads collector.key (pages.flatMap ListPage.items) { state with
      resourceVersion := page.resourceVersion, pageCount := state.pageCount + 1 } :=
    ⟨holds.items, holds.seen, holds.distinct⟩
  have after := before.readItems sound items
  refine ⟨?_, ?_, ?_, ?_, ?_, after.seen, after.distinct⟩
  · rw [count, List.length_append, ← holds.count]
    rfl
  · rw [List.length_append, ← holds.count]
    exact bound
  · intro other member
    rw [kept]
    rcases List.mem_append.mp member with earlier | this
    · rcases unchanged with empty | same
      · rw [holds.started empty] at earlier
        exact absurd earlier List.not_mem_nil
      · exact (holds.version other earlier).trans same
    · rw [List.mem_singleton.mp this]
  · intro empty
    rw [kept] at empty
    have none : page.resourceVersion = "" := empty
    rw [none] at version
    cases version
  · rw [List.flatMap_append, List.flatMap_singleton]
    exact after.items

omit sound in
theorem Attempt.Holds.turn {key : α → String} {pages : List (ListPage Raw)} {state : Attempt α}
    (holds : state.Holds reads key pages) (token : String) :
    Attempt.Holds reads key pages { state with
      continueToken := token, seenContinue := token :: state.seenContinue } :=
  ⟨holds.count, holds.bound, holds.version, holds.started, holds.items, holds.seen,
    holds.distinct⟩

def AttemptEnds (collector : Collector Raw α) (reads : Raw → α → Prop) (token : String)
    (pages : List (ListPage Raw)) (events : List (PageEvent Raw)) (ending : Ending α) : Prop :=
  pages.length + events.length ≤ maxCollectionPages + 1 ∧
    Follows collector.request token events ∧
    ∀ result, ending = .collected result →
      ∃ more, List.Forall₂ Carries events more ∧
        Complete reads collector.key (pages ++ more) result

theorem collectPages_spec (log : List (PageEvent Raw)) (pages : List (ListPage Raw))
    (state : Attempt α) (holds : state.Holds reads collector.key pages) :
    (collector.collectPages state).wp reading (fun ending last =>
      ∃ events, last = log ++ events ∧
        AttemptEnds collector reads state.continueToken pages events ending) log := by
  -- The induction follows the page loop: a next page is read only within the page bound.
  induction left : maxCollectionPages - state.pageCount using Nat.strong_induction_on
    generalizing log pages state with
  | _ left ih =>
    have within := holds.bound
    rw [Collector.collectPages_eq]
    rintro reply _ rfl
    cases reply with
    | error code =>
      refine ⟨[(_, .error code)], rfl, by simpa using within, ⟨rfl, rfl⟩, ?_⟩
      intro result ended
      split at ended <;> cases ended
    | ok payload =>
      obtain ⟨size, decoded⟩ := payload
      have single : pages.length + 1 ≤ maxCollectionPages + 1 := by omega
      cases accepted : collector.readPage state ⟨size, decoded⟩ with
      | error message =>
        simp only [accepted]
        refine ⟨[(_, .ok ⟨size, decoded⟩)], rfl, single, ⟨rfl, ?_⟩, fun _ ended => ?_⟩
        · cases decoded with
          | none => rfl
          | some page => trivial
        · cases ended
      | ok step =>
        obtain ⟨page, read, found, version, unchanged, bound, items, turned⟩ :=
          collector.readPage_ok accepted
        have reached := holds.readPage sound version unchanged bound items
        cases found
        rcases collector.turnPage_ok turned with ⟨last, rfl⟩ | ⟨-, rfl⟩
        · simp only [accepted]
          refine ⟨[(_, .ok ⟨size, some page⟩)], rfl, single, ⟨rfl, trivial⟩, fun _ ended => ?_⟩
          cases ended
          refine ⟨[page], List.Forall₂.cons ⟨size, rfl⟩ List.Forall₂.nil, ?_⟩
          exact ⟨reached.count, reached.version, by simp [last],
            ⟨read.objects, reached.items, rfl⟩, sortBy_strict reached.distinct⟩
        · have counted := collector.readPage_more accepted
          simp only [accepted]
          refine Program.wp_mono (ih _ (by omega) _ _ _ (reached.turn _) rfl) ?_
          rintro ending _ ⟨events, rfl, length, follows, complete⟩
          refine ⟨(_, .ok ⟨size, some page⟩) :: events, by simp, ?_, ⟨rfl, follows⟩, ?_⟩
          · rw [List.length_append, List.length_singleton] at length
            rw [List.length_cons]
            omega
          · intro result ended
            obtain ⟨more, carried, whole⟩ := complete result ended
            refine ⟨page :: more, List.Forall₂.cons ⟨size, rfl⟩ carried, ?_⟩
            rwa [List.append_assoc, List.singleton_append] at whole

/-! ## A whole collection -/

theorem collectAttempts_spec (left : Nat) (log : List (PageEvent Raw)) :
    (collector.collectAttempts left).wp reading (fun result last =>
      ∃ attempts : List (List (PageEvent Raw)), last = log ++ attempts.flatten ∧
        attempts.length ≤ left ∧
        (∀ attempt ∈ attempts, attempt.length ≤ 101 ∧ Follows collector.request "" attempt) ∧
        ∀ collected, result = .ok collected →
          ∃ attempt pages, attempts.getLast? = some attempt ∧
            List.Forall₂ Carries attempt pages ∧
            Complete reads collector.key pages collected) log := by
  induction left generalizing log with
  | zero =>
    refine ⟨[], by simp, Nat.le_refl 0, List.forall_mem_nil _, ?_⟩
    intro collected ended
    cases ended
  | succ left ih =>
    refine Program.wp_then (collectPages_spec sound log [] {} (Attempt.holds_init _ _)) ?_
    rintro ending _ ⟨events, rfl, length, follows, complete⟩
    have bound : events.length ≤ 101 := by
      simpa [maxCollectionPages] using length
    have only : ∀ attempt ∈ [events], attempt.length ≤ 101 ∧
        Follows collector.request "" attempt := List.forall_mem_singleton.mpr ⟨bound, follows⟩
    cases ending with
    | failed message =>
      refine ⟨[events], by simp, by simp, only, ?_⟩
      intro collected ended
      cases ended
    | collected result =>
      refine ⟨[events], by simp, by simp, only, ?_⟩
      intro collected ended
      cases ended
      obtain ⟨pages, carried, whole⟩ := complete result rfl
      exact ⟨events, pages, rfl, carried, whole⟩
    | expired =>
      refine Program.wp_mono (ih (log ++ events)) ?_
      rintro result _ ⟨attempts, rfl, count, each, ended⟩
      refine ⟨events :: attempts, by simp, by simpa using count,
        List.forall_mem_cons.mpr ⟨⟨bound, follows⟩, each⟩, fun collected success => ?_⟩
      obtain ⟨attempt, pages, isLast, rest⟩ := ended collected success
      refine ⟨attempt, pages, ?_, rest⟩
      rw [List.getLast?_cons, isLast]
      rfl

theorem collect_spec (log : List (PageEvent Raw)) :
    collector.collect.wp reading (fun result last =>
      ∃ own, last = log ++ own ∧
        Transcript collector.request reads collector.key own result) log := by
  refine Program.wp_mono (collectAttempts_spec sound _ log) ?_
  rintro result _ ⟨attempts, rfl, count, each, ended⟩
  exact ⟨attempts.flatten, rfl, attempts, rfl, count, each, ended⟩

end Attempts

/-! ## Families -/

@[simp] theorem wpExit_checked {Raw α : Type} (result : Except String α)
    (goes : α → List (PageEvent Raw) → Prop) (leaves : String → List (PageEvent Raw) → Prop)
    (log : List (PageEvent Raw)) :
    Program.wpExit reading (checked result) goes leaves log ↔
      match result with
      | .ok value => goes value log
      | .error message => leaves message log := by
  cases result <;> rfl

structure ScopePart where
  namespaceName : String
  log : List (PageEvent ResourceRef)
  result : Except String (Collected ResourceRef)

theorem addObjects_ok {seen later : List String} {objects : List ResourceRef}
    (added : addObjects seen objects = .ok later) (distinct : seen.Nodup) :
    later.Nodup ∧ later.Perm (seen ++ objects.map refKey) := by
  induction objects generalizing seen with
  | nil =>
    cases added
    exact ⟨distinct, by simp⟩
  | cons ref rest ih =>
    rw [addObjects] at added
    obtain ⟨fresh, added⟩ := check_bind.mp added
    have unseen : refKey ref ∉ seen := by simpa using fresh
    obtain ⟨nodup, perm⟩ := ih added (List.nodup_cons.mpr ⟨unseen, distinct⟩)
    refine ⟨nodup, perm.trans ?_⟩
    rw [List.map_cons, List.cons_append]
    exact List.perm_middle.symm

/-- What the variables of `CollectFamily` say about the scopes that were collected. -/
structure FamilyState.Holds (state : FamilyState) (parts : List ScopePart) : Prop where
  collected : parts.map ScopePart.result = state.scopes.map fun scope => .ok scope.collected
  seen : state.seenObjects.Perm
    ((state.scopes.flatMap fun scope => scope.collected.objects).map refKey)
  distinct : state.seenObjects.Nodup

theorem FamilyState.Holds.addScope {state next : FamilyState} {scope : CollectedScope}
    {parts : List ScopePart} {part : ScopePart} (holds : state.Holds parts)
    (ended : part.result = .ok scope.collected) (added : addScope state scope = .ok next) :
    next.Holds (parts ++ [part]) := by
  rw [GitOpsOwnership.addScope] at added
  obtain ⟨-, added⟩ := check_bind.mp added
  obtain ⟨seen, objects, added⟩ := bind_ok.mp added
  cases added
  obtain ⟨distinct, perm⟩ := addObjects_ok objects holds.distinct
  refine ⟨?_, ?_, distinct⟩
  · rw [List.map_append, List.map_append, holds.collected, List.map_singleton,
      List.map_singleton, ended]
  · rw [List.flatMap_append, List.flatMap_singleton, List.map_append]
    exact perm.trans (holds.seen.append_right _)

section Families

variable [Runtime] {family : ResourceFamily}

structure InScope (family : ResourceFamily) (namespaceName : String) (ref : ResourceRef) :
    Prop where
  belongs : refInFamilyScope ref family = true
  place : family.namespaced = true → ref.namespaceName = namespaceName
  valid : validateRef ref = .ok ()

theorem checkScopeItem_ok {namespaceName : String} {raw ref : ResourceRef}
    (accepted : checkScopeItem family namespaceName raw = .ok ref) :
    ref = raw ∧ InScope family namespaceName ref := by
  simp only [checkScopeItem, check_bind] at accepted
  obtain ⟨scope, valid, accepted⟩ := accepted
  cases accepted
  rw [ensure_ok] at scope valid
  simp only [Bool.and_eq_true, Bool.or_eq_true, Bool.not_eq_true', decide_eq_true_eq] at scope
  refine ⟨rfl, scope.1, fun namespaced => ?_, isOk_iff.mp valid⟩
  rcases scope.2 with other | same
  · rw [namespaced] at other
    cases other
  · exact same

def ScopePart.Sound (family : ResourceFamily) (part : ScopePart) : Prop :=
  Transcript (collectionRequest family.apiVersion family.resource part.namespaceName false)
    (fun raw ref => ref = raw ∧ InScope family part.namespaceName ref) refKey part.log part.result

def ScopeParts (family : ResourceFamily) (namespaces : List String)
    (log last : List (PageEvent ResourceRef)) : Prop :=
  ∃ parts : List ScopePart, last = log ++ parts.flatMap ScopePart.log ∧
    (∀ part ∈ parts, part.Sound family) ∧ parts.map ScopePart.namespaceName <+: namespaces

theorem collectScope_spec (namespaceName : String) (log : List (PageEvent ResourceRef)) :
    Program.wpExit reading (collectScope family namespaceName)
      (fun scope last => ∃ part : ScopePart, part.namespaceName = namespaceName ∧
        part.Sound family ∧ last = log ++ part.log ∧ part.result = .ok scope.collected)
      (fun _ last => ScopeParts family [namespaceName] log last) log := by
  have sound : ∀ raw ref, (scopeCollector family namespaceName).decode raw = .ok ref →
      ref = raw ∧ InScope family namespaceName ref := fun raw ref => checkScopeItem_ok
  refine Program.wp_then (collect_spec sound log) ?_
  rintro result _ ⟨own, rfl, transcript⟩
  cases result with
  | error message =>
    exact ⟨[⟨namespaceName, own, .error message⟩], by simp,
      List.forall_mem_singleton.mpr transcript, by simp⟩
  | ok collected => exact ⟨⟨namespaceName, own, .ok collected⟩, rfl, transcript, rfl, rfl⟩

theorem ScopeParts.cons {namespaces : List String} {log last : List (PageEvent ResourceRef)}
    {part : ScopePart} (sound : part.Sound family)
    (rest : ScopeParts family namespaces (log ++ part.log) last) :
    ScopeParts family (part.namespaceName :: namespaces) log last := by
  obtain ⟨parts, rfl, each, names⟩ := rest
  refine ⟨part :: parts, by simp, List.forall_mem_cons.mpr ⟨sound, each⟩, ?_⟩
  rw [List.map_cons, List.prefix_cons_inj]
  exact names

theorem ScopeParts.nil (namespaces : List String) (log : List (PageEvent ResourceRef)) :
    ScopeParts family namespaces log log :=
  ⟨[], by simp, List.forall_mem_nil _, List.nil_prefix⟩

theorem collectScopes_spec (namespaces : List String) (state : FamilyState)
    (parts : List ScopePart) (log : List (PageEvent ResourceRef)) (holds : state.Holds parts) :
    Program.wpExit reading (collectScopes family namespaces state)
      (fun ended last => ∃ more : List ScopePart,
        last = log ++ more.flatMap ScopePart.log ∧ (∀ part ∈ more, part.Sound family) ∧
        more.map ScopePart.namespaceName = namespaces ∧ ended.Holds (parts ++ more))
      (fun _ last => ScopeParts family namespaces log last) log := by
  induction namespaces generalizing state parts log with
  | nil =>
    exact ⟨[], by simp, List.forall_mem_nil _, rfl, by rwa [List.append_nil]⟩
  | cons namespaceName rest ih =>
    rw [collectScopes, Program.wpExit_bind, wpExit_checked]
    cases ensure "closed-world collection namespaces must be unique"
        (namespaceName ∉ state.seenNamespace : Bool) with
    | error message => exact ScopeParts.nil _ log
    | ok unique =>
      refine (Program.wpExit_bind _ _ _).mpr
        (Program.wpExit_mono (collectScope_spec namespaceName log) ?_ ?_)
      · rintro scope _ ⟨part, rfl, sound, rfl, ended⟩
        rw [Program.wpExit_bind, wpExit_checked]
        cases added : addScope { state with
            seenNamespace := part.namespaceName :: state.seenNamespace } scope with
        | error message => exact ScopeParts.cons sound (ScopeParts.nil rest _)
        | ok next =>
          have begun : FamilyState.Holds { state with
              seenNamespace := part.namespaceName :: state.seenNamespace } parts :=
            ⟨holds.collected, holds.seen, holds.distinct⟩
          refine Program.wpExit_mono
            (ih next (parts ++ [part]) (log ++ part.log) (begun.addScope ended added)) ?_ ?_
          · rintro last _ ⟨more, rfl, each, names, reached⟩
            refine ⟨part :: more, by simp, List.forall_mem_cons.mpr ⟨sound, each⟩,
              by rw [List.map_cons, names], ?_⟩
            rwa [List.append_assoc, List.singleton_append] at reached
          · intro message last left
            exact ScopeParts.cons sound left
      · rintro message last ⟨own, rfl, each, names⟩
        exact ⟨own, rfl, each, names.trans (by simp)⟩

theorem collectFamily_spec (family : ResourceFamily) (log : List (PageEvent ResourceRef)) :
    Program.wpExit reading (collectFamily family)
      (fun collection last => ∃ (parts : List ScopePart) (scopes : List (Collected ResourceRef)),
        last = log ++ parts.flatMap ScopePart.log ∧ (∀ part ∈ parts, part.Sound family) ∧
        parts.map ScopePart.namespaceName = familyNamespaces family ∧
        parts.map ScopePart.result = scopes.map .ok ∧
        collection.objects = sortBy refKey (scopes.flatMap Collected.objects) ∧
        collection.objects.Pairwise fun left right => refKey left < refKey right)
      (fun _ last => ScopeParts family (familyNamespaces family) log last) log := by
  rw [collectFamily, Program.wpExit_bind, wpExit_checked]
  cases ensure "closed-world collection requires a sourced family with discovery.mode=closed-world"
      (family.sourceState = "sourced" && family.discovery.mode = discoveryModeClosedWorld) with
  | error message => exact ScopeParts.nil _ log
  | ok sourced =>
    refine (Program.wpExit_bind _ _ _).mpr ((wpExit_checked _ _ _ _).mpr ?_)
    cases ensure "namespaced closed-world collection requires at least one namespace"
        (!family.namespaced || !family.discovery.namespaces.isEmpty) with
    | error message => exact ScopeParts.nil _ log
    | ok placed =>
      have empty : FamilyState.Holds {} [] := ⟨rfl, List.Perm.refl _, List.nodup_nil⟩
      refine Program.wpExit_then (collectScopes_spec (familyNamespaces family) {} [] log empty) ?_
      rintro ended _ ⟨parts, rfl, each, names, holds⟩
      refine ⟨parts, ended.scopes.map CollectedScope.collected, rfl, each, names, ?_, ?_, ?_⟩
      · rw [List.map_map]
        exact holds.collected
      · rw [List.flatMap_map]
      · exact sortBy_strict (holds.seen.nodup_iff.mp holds.distinct)

end Families

def answering {Raw : Type} (reader : List (PageEvent Raw) → CollectionRequest → PageReply Raw)
    (log : List (PageEvent Raw)) (request : CollectionRequest) :
    PageReply Raw × List (PageEvent Raw) :=
  (reader log request, log ++ [(request, reader log request)])

theorem pageProgram_ends {Raw α : Type} (program : PageProgram Raw α)
    (reader : List (PageEvent Raw) → CollectionRequest → PageReply Raw) :
    ∃ result log, Program.Run (Program.answers (answering reader)) [] program result log := by
  have admitted : ∀ log request, Program.answers (answering reader) log request
      (answering reader log request).1 (answering reader log request).2 := fun _ _ => rfl
  exact ⟨_, _, Program.run_runWith admitted program []⟩

/-- For every page reader, both collectors end. A family is collected in at most four attempts of
at most 101 requests for each of its namespaces, and all Kustomizations in as many. A result is,
for every scope, the sorted concatenation of the items of all pages of the last attempt: its pages
carry one resource version, its last page has no continue token, every item is in scope, and no
object occurs twice. -/
theorem collections_complete [Runtime] :
    (∀ (family : ResourceFamily)
      (reader : List (PageEvent ResourceRef) → CollectionRequest → PageReply ResourceRef),
      ∃ result log, Program.Run (Program.answers (answering reader)) []
        (collectFamily family).run result log) ∧
    (∀ (family : ResourceFamily) (log : List (PageEvent ResourceRef))
      (result : Except String FamilyCollection),
      Program.Run reading [] (collectFamily family).run result log →
      ∃ parts : List ScopePart, log = parts.flatMap ScopePart.log ∧
        (∀ part ∈ parts, part.Sound family) ∧
        parts.map ScopePart.namespaceName <+: familyNamespaces family ∧
        ∀ collection, result = .ok collection →
          parts.map ScopePart.namespaceName = familyNamespaces family ∧
          ∃ scopes : List (Collected ResourceRef), parts.map ScopePart.result = scopes.map .ok ∧
            collection.objects = sortBy refKey (scopes.flatMap Collected.objects) ∧
            collection.objects.Pairwise fun left right => refKey left < refKey right) ∧
    (∀ reader : List (PageEvent (Option RawKustomization)) → CollectionRequest →
        PageReply (Option RawKustomization),
      ∃ result log, Program.Run (Program.answers (answering reader)) []
        collectKustomizations.run result log) ∧
    (∀ (log : List (PageEvent (Option RawKustomization)))
      (result : Except String KustomizationCollection),
      Program.Run reading [] collectKustomizations.run result log →
      ∃ outcome : Except String (Collected KustomizationSnapshot),
        Transcript
          (collectionRequest fluxKustomizationVersion fluxKustomizationResource "" true)
          (fun raw root => decodeKustomization raw = .ok root) kustomizationKey log outcome ∧
        ∀ collection, result = .ok collection →
          ∃ collected, outcome = .ok collected ∧
            collection.kustomizations = collected.objects) := by
  refine ⟨fun family reader => pageProgram_ends _ reader, ?_,
    fun reader => pageProgram_ends _ reader, ?_⟩
  · intro family log result run
    have reached := Program.wp_run (collectFamily_spec family []) run
    cases result with
    | error message =>
      obtain ⟨parts, whole, each, names⟩ := reached
      refine ⟨parts, whole, each, names, fun collection success => ?_⟩
      cases success
    | ok collection =>
      obtain ⟨parts, scopes, whole, each, names, results, objects, sorted⟩ := reached
      refine ⟨parts, whole, each, names ▸ List.prefix_rfl, fun other success => ?_⟩
      cases success
      exact ⟨names, scopes, results, objects, sorted⟩
  · intro log result run
    have holds : collectKustomizations.run.wp reading (fun result last =>
        ∃ outcome : Except String (Collected KustomizationSnapshot),
          Transcript
            (collectionRequest fluxKustomizationVersion fluxKustomizationResource "" true)
            (fun raw root => decodeKustomization raw = .ok root) kustomizationKey last outcome ∧
          ∀ collection, result = .ok collection →
            ∃ collected, outcome = .ok collected ∧
              collection.kustomizations = collected.objects) [] := by
      have sound : ∀ raw root, kustomizationCollector.decode raw = .ok root →
          decodeKustomization raw = .ok root := fun raw root accepted => accepted
      refine Program.wp_then (collect_spec sound []) ?_
      rintro outcome _ ⟨own, rfl, transcript⟩
      refine ⟨outcome, transcript, fun collection success => ?_⟩
      cases outcome with
      | error message => cases success
      | ok collected =>
        cases success
        exact ⟨collected, rfl, rfl⟩
    exact Program.wp_run holds run

/-! ## A collection that is restarted -/

section Sample

abbrev plainRuntime : Runtime := ⟨Char.toLower, fun _ _ => rfl, id, id⟩

attribute [local instance] plainRuntime

def sampleFamily : ResourceFamily where
  id := "settings"
  apiVersion := "v1"
  kind := "ConfigMap"
  resource := "configmaps"
  namespaced := true
  labelSelector := ""
  discovery := ⟨"closed-world", ["apps"], []⟩
  minimumCount := 2
  critical := true
  sourceState := "sourced"
  expectedOwner := ⟨"flux-system", "apps"⟩
  expectedObjects := []
  missingSourceBlocker := ""

def sampleRef (name : String) : ResourceRef := ⟨"v1", "ConfigMap", "apps", name⟩

def samplePage (token name : String) : PageReply ResourceRef :=
  .ok ⟨2, some ⟨"v1", "ConfigMapList", "7", token, [sampleRef name]⟩⟩

def sampleRequest (token : String) : CollectionRequest :=
  collectionRequest "v1" "configmaps" "apps" false token

def sampleReader (log : List (PageEvent ResourceRef)) (_ : CollectionRequest) :
    PageReply ResourceRef :=
  match log.length with
  | 0 => samplePage "more" "lost"
  | 1 => .error 410
  | 2 => samplePage "next" "b"
  | _ => samplePage "" "a"

def expiredLog : List (PageEvent ResourceRef) :=
  [(sampleRequest "", samplePage "more" "lost"), (sampleRequest "more", .error 410)]

def completeLog : List (PageEvent ResourceRef) :=
  [(sampleRequest "", samplePage "next" "b"), (sampleRequest "next", samplePage "" "a")]

def sampleCollected : Collected ResourceRef := ⟨"7", 2, [sampleRef "a", sampleRef "b"]⟩

def sampleCollection : FamilyCollection where
  complete := true
  resourceVersionSHA256 :=
    collectionResourceVersionDigest sampleFamily [⟨"apps", sampleCollected⟩]
  pageCount := 2
  itemCount := 2
  objects := sampleCollected.objects

theorem sampleScope_run :
    (scopeCollector sampleFamily "apps").collect.runWith (answering sampleReader) [] =
      (.ok sampleCollected, expiredLog ++ completeLog) := by
  have first : ((scopeCollector sampleFamily "apps").collectPages {}).runWith
      (answering sampleReader) [] = (.expired, expiredLog) := by
    rw [Collector.runWith_collectPages]
    exact Collector.runWith_collectPages _ _ _ _
  have second : ((scopeCollector sampleFamily "apps").collectPages {}).runWith
      (answering sampleReader) expiredLog =
        (.collected sampleCollected, expiredLog ++ completeLog) := by
    rw [Collector.runWith_collectPages]
    exact Collector.runWith_collectPages _ _ _ _
  simp only [Collector.collect, Collector.collectAttempts, maxCollectionRestarts,
    Program.runWith_bind, first, second]
  rfl

theorem sampleFamily_run :
    (collectFamily sampleFamily).run.runWith (answering sampleReader) [] =
      (.ok sampleCollection, expiredLog ++ completeLog) := by
  have scope : (collectScope sampleFamily "apps").run.runWith (answering sampleReader) [] =
      (.ok ⟨"apps", sampleCollected⟩, expiredLog ++ completeLog) := by
    have mapped : (collectScope sampleFamily "apps").run =
        (scopeCollector sampleFamily "apps").collect >>= fun result =>
          .done (result.map fun collected => ⟨"apps", collected⟩) := rfl
    rw [mapped, Program.runWith_bind, sampleScope_run]
    rfl
  have scopes : (collectScopes sampleFamily ["apps"] {}).run.runWith (answering sampleReader) [] =
      (.ok ⟨["apps"], [⟨"apps", sampleCollected⟩], 2, 2,
        [refKey (sampleRef "b"), refKey (sampleRef "a")]⟩, expiredLog ++ completeLog) :=
    (Program.runWith_onward rfl).trans ((Program.runWith_onward scope).trans
      ((Program.runWith_onward rfl).trans rfl))
  exact (Program.runWith_onward rfl).trans ((Program.runWith_onward rfl).trans
    ((Program.runWith_onward scopes).trans rfl))

/-- The family of two objects, collected after an attempt that expired. -/
theorem collections_complete_sample :
    Program.Run reading [] (collectFamily sampleFamily).run (.ok sampleCollection)
      (expiredLog ++ completeLog) ∧
    ∃ parts : List ScopePart, expiredLog ++ completeLog = parts.flatMap ScopePart.log ∧
      (∀ part ∈ parts, part.Sound sampleFamily) ∧
      parts.map ScopePart.namespaceName = ["apps"] := by
  have recorded : ∀ log request, reading log request (answering sampleReader log request).1
      (answering sampleReader log request).2 := fun _ _ => rfl
  have run := Program.run_runWith recorded (collectFamily sampleFamily).run []
  rw [sampleFamily_run] at run
  obtain ⟨parts, whole, sound, -, success⟩ := collections_complete.2.1 sampleFamily _ _ run
  exact ⟨run, parts, whole, sound, (success sampleCollection rfl).1⟩

end Sample

end CloudRing.GitOpsOwnership
