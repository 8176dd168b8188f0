import CloudRing.PrivateArtifact.WriteNew

/-!
# A destination is one writer's whole data

`Sound` says which call the file under the destination belongs to and which files are written to the
end.
-/

namespace CloudRing.PrivateArtifact

open Library (Machine Directory)

def Phase.Owns : Phase → Prop
  | .linked | .unlinked | .retracting _ | .cleaning (.ok _) _ | .returned (.ok _) _ => True
  | _ => False

def Phase.MayOwn : Phase → Prop
  | .cleaning (.error _) .failed | .returned (.error _) .failed | .crashed => True
  | phase => phase.Owns

def Phase.Complete : Phase → Prop
  | .written | .synced | .closed => True
  | _ => False

structure Sound {Call : Type} (data : Call → List UInt8) (state : State Call) : Prop where
  temporary : ∀ call file, state.directory.entry (.temporary call) = some file →
    file = .created call
  visible : ∀ call, state.directory.entry .destination = some (.created call) →
    state.directory.content (.created call) = data call ∧ (state.phase call).MayOwn
  owned : ∀ call, (state.phase call).Owns →
    state.directory.entry .destination = some (.created call)
  complete : ∀ call, (state.phase call).Complete →
    state.directory.content (.created call) = data call

attribute [local simp] Phase.MayOwn Phase.Owns Phase.Complete

section Steps

variable {Call : Type} [DecidableEq Call] {path : String} {data : Call → List UInt8}
  {state next : State Call} {call actor : Call}

@[simp] theorem advance_directory (phase : Phase) :
    (state.advance call phase).directory = state.directory := rfl

@[simp] theorem advance_phase (phase : Phase) (other : Call) :
    (state.advance call phase).phase other =
      if other = call then phase else state.phase other := rfl

omit [DecidableEq Call] in
@[simp] theorem change_directory (directory : Directory (Name Call) (File Call)) :
    (state.change directory).directory = directory := rfl

omit [DecidableEq Call] in
@[simp] theorem change_phase (directory : Directory (Name Call) (File Call)) :
    (state.change directory).phase = state.phase := rfl

theorem Sound.advance (sound : Sound data state) {phase : Phase}
    (may : (state.phase call).MayOwn → phase.MayOwn) (owns : phase.Owns → (state.phase call).Owns)
    (complete : phase.Complete → (state.phase call).Complete) :
    Sound data (state.advance call phase) where
  temporary := sound.temporary
  visible other there := by
    obtain ⟨whole, owner⟩ := sound.visible other there
    refine ⟨whole, ?_⟩
    rw [advance_phase]
    split
    · rename_i same
      rw [same] at owner
      exact may owner
    · exact owner
  owned other holds := by
    rw [advance_phase] at holds
    split at holds
    · rename_i same
      rw [same]
      exact sound.owned call (owns holds)
    · exact sound.owned other holds
  complete other ready := by
    rw [advance_phase] at ready
    split at ready
    · rename_i same
      rw [same]
      exact sound.complete call (complete ready)
    · exact sound.complete other ready

theorem Sound.dropTemporary (sound : Sound data state) (call : Call) :
    Sound data (state.change (state.directory.assign (.temporary call) none)) where
  temporary other file found := by
    simp only [change_directory, Directory.assign_entry] at found
    split at found
    · contradiction
    · exact sound.temporary other file found
  visible other there := sound.visible other (by simpa using there)
  owned other holds := by simpa using sound.owned other holds
  complete := sound.complete

theorem Sound.write (sound : Sound data state) (early : ¬(state.phase call).MayOwn)
    (unfinished : ¬(state.phase call).Complete) (bytes : List UInt8) :
    Sound data (state.change (state.directory.write (.created call) bytes)) where
  temporary := sound.temporary
  visible other there := by
    obtain ⟨whole, owner⟩ := sound.visible other there
    have different : File.created other ≠ File.created call := by
      intro same
      rw [File.created.injEq] at same
      rw [same] at owner
      exact early owner
    refine ⟨?_, owner⟩
    simp only [change_directory, Directory.write_content, if_neg different]
    exact whole
  owned := sound.owned
  complete other ready := by
    have different : File.created other ≠ File.created call := by
      intro same
      rw [File.created.injEq] at same
      simp only [change_phase, same] at ready
      exact unfinished ready
    simp only [change_directory, Directory.write_content, if_neg different]
    exact sound.complete other ready

theorem Sound.create (sound : Sound data state) {made : Directory (Name Call) (File Call)}
    (here : state.phase call = .absent)
    (created : state.directory.create (.temporary call) (.created call) = some made) :
    Sound data ((state.change made).advance call .created) := by
  obtain ⟨-, rfl⟩ := Directory.create_eq_some created
  have named : Sound data
      (state.change (state.directory.assign (.temporary call) (some (.created call)))) := by
    constructor
    · intro other file found
      simp only [change_directory, Directory.assign_entry, Name.temporary.injEq] at found
      split at found
      · rename_i same
        rw [same]
        exact (Option.some.inj found).symm
      · exact sound.temporary other file found
    · intro other there
      exact sound.visible other (by simpa using there)
    · intro other holds
      simpa using sound.owned other holds
    · exact sound.complete
  have emptied := @Sound.write _ _ data _ call named
    (by simp [here]) (by simp [here]) []
  exact emptied.advance (by simp [here]) (by simp)
    (by simp)

theorem Sound.finish (sound : Sound data state) (here : state.phase call = .created) :
    Sound data ((state.change (state.directory.write (.created call) (data call))).advance call
      .written) := by
  have written := @Sound.write _ _ data state call sound
    (by simp [here]) (by simp [here]) (data call)
  constructor
  · exact written.temporary
  · intro other there
    obtain ⟨whole, owner⟩ := written.visible other there
    refine ⟨whole, ?_⟩
    rw [advance_phase]
    split
    · rename_i same
      simp only [change_phase, same, here] at owner
      exact owner.elim
    · exact owner
  · intro other holds
    rw [advance_phase] at holds
    split at holds
    · exact holds.elim
    · exact written.owned other holds
  · intro other ready
    by_cases same : other = call
    · simp [same]
    · rw [advance_phase, if_neg same] at ready
      exact written.complete other ready

theorem Sound.link (sound : Sound data state) {made : Directory (Name Call) (File Call)}
    (here : state.phase call = .closed)
    (linked : state.directory.link (.temporary call) .destination = some made) :
    Sound data ((state.change made).advance call .linked) := by
  obtain ⟨file, source, free, rfl⟩ := Directory.link_eq_some linked
  obtain rfl := sound.temporary call file source
  have whole := sound.complete call (by simp [here])
  constructor
  · intro other file found
    exact sound.temporary other file (by simpa using found)
  · intro other there
    simp only [advance_directory, change_directory, Directory.assign_entry, if_pos,
      Option.some.injEq, File.created.injEq] at there
    subst there
    exact ⟨whole, by simp⟩
  · intro other holds
    by_cases same : other = call
    · simp [same]
    · rw [advance_phase, if_neg same] at holds
      have taken := sound.owned other holds
      rw [free] at taken
      contradiction
  · intro other ready
    by_cases same : other = call
    · rw [same]
      exact whole
    · rw [advance_phase, if_neg same] at ready
      exact sound.complete other ready

theorem Sound.retract (sound : Sound data state) {failure : Failure}
    (here : state.phase call = .retracting failure) :
    Sound data ((state.change (state.directory.assign .destination none)).advance call
      (.cleaning (.error failure) .succeeded)) := by
  have mine := sound.owned call (by simp [here])
  constructor
  · intro other file found
    exact sound.temporary other file (by simpa using found)
  · intro other there
    simp at there
  · intro other holds
    by_cases same : other = call
    · simp [same] at holds
    · rw [advance_phase, if_neg same] at holds
      have theirs := sound.owned other holds
      rw [mine, Option.some.injEq, File.created.injEq] at theirs
      exact absurd theirs.symm same
  · intro other ready
    by_cases same : other = call
    · simp [same] at ready
    · rw [advance_phase, if_neg same] at ready
      exact sound.complete other ready

theorem Sound.step (sound : Sound data state) (taken : WriteStep path data actor state next) :
    Sound data next := by
  cases taken with
  | create here made => exact sound.create here made
  | writePart count here mine =>
    obtain rfl := sound.temporary _ _ mine
    exact sound.write (by simp [here])
      (by simp [here]) _
  | write here mine =>
    obtain rfl := sound.temporary _ _ mine
    exact sound.finish here
  | link here made => exact sound.link here made
  | removeTemporary here =>
    exact (sound.dropTemporary actor).advance (by simp [here])
      (by simp [here]) (by simp)
  | retract here => exact sound.retract here
  | @clean result removal here =>
    apply (sound.dropTemporary actor).advance
    · cases result <;> cases removal <;> simp [here]
    · cases result <;> simp [here]
    · simp
  | @cleanFails result removal here =>
    apply sound.advance
    · cases result <;> cases removal <;> simp [here]
    · cases result <;> simp [here]
    · simp
  | crash running =>
    exact sound.advance (by simp) (by simp) (by simp)
  | _ =>
    rename_i here
    exact sound.advance (by simp [*]) (by simp [*])
      (by simp [*])

theorem writeMachine_sound (reachable : (writeMachine path data).Reachable state) :
    Sound data state := by
  apply Machine.invariant ?_ (fun _ _ _ sound taken => sound.step taken) reachable
  intro start initial
  obtain ⟨unnamed, foreign, called⟩ := initial
  constructor
  · intro call file found
    rw [unnamed] at found
    contradiction
  · intro call there
    have other := foreign _ there
    contradiction
  · intro call holds
    rw [called] at holds
    exact holds.elim
  · intro call ready
    rw [called] at ready
    exact ready.elim

theorem WriteStep.destination (sound : Sound data state)
    (taken : WriteStep path data actor state next) :
    next.directory.entry .destination = state.directory.entry .destination ∨
      (state.directory.entry .destination = none ∧
        next.directory.entry .destination = some (.created actor)) ∨
      (state.directory.entry .destination = some (.created actor) ∧
        next.directory.entry .destination = none) := by
  cases taken with
  | create here made =>
    obtain ⟨-, rfl⟩ := Directory.create_eq_some made
    left
    simp
  | link here made =>
    obtain ⟨file, source, free, rfl⟩ := Directory.link_eq_some made
    obtain rfl := sound.temporary _ _ source
    right
    left
    exact ⟨free, by simp⟩
  | retract here =>
    right
    right
    exact ⟨sound.owned actor (by simp [here]), by simp⟩
  | _ =>
    left
    simp

theorem WriteStep.existing (sound : Sound data state)
    (taken : WriteStep path data actor state next) :
    next.directory.content .existing = state.directory.content .existing := by
  cases taken with
  | create here made =>
    obtain ⟨-, rfl⟩ := Directory.create_eq_some made
    simp
  | writePart count here mine | write here mine =>
    obtain rfl := sound.temporary _ _ mine
    simp
  | link here made =>
    obtain ⟨file, source, free, rfl⟩ := Directory.link_eq_some made
    simp
  | _ => simp

theorem WriteStep.returned {result : Except Failure Unit} {removal : Removal}
    (taken : WriteStep path data actor state next)
    (done : state.phase call = .returned result removal) :
    next.phase call = .returned result removal := by
  by_cases same : call = actor
  · subst same
    cases taken with
    | crash running => exact absurd done (running result removal)
    | _ => simp_all
  · cases taken <;> simp [same, done]

end Steps

section Runs

variable {Call : Type} [DecidableEq Call] {path : String} {data : Call → List UInt8}
  {start state last : State Call} {call : Call}

theorem existing_kept (initial : (writeMachine path data).initial start)
    (run : (writeMachine path data).Reaches start state) {old : File Call}
    (there : start.directory.entry .destination = some old) :
    state.directory.entry .destination = some old ∧
      state.directory.content old = start.directory.content old := by
  obtain rfl := initial.2.1 old there
  apply Machine.stable (fun now => now.directory.entry .destination = some .existing ∧
      now.directory.content .existing = start.directory.content .existing) ?_
    ⟨start, initial, Relation.ReflTransGen.refl⟩ run ⟨there, rfl⟩
  intro actor middle next reached holds taken
  have sound := writeMachine_sound reached
  refine ⟨?_, (WriteStep.existing sound taken).trans holds.2⟩
  obtain kept | appeared | removed := WriteStep.destination sound taken
  · rw [kept]
    exact holds.1
  · rw [appeared.1] at holds
    exact absurd holds.1 (by simp)
  · rw [removed.1] at holds
    exact absurd holds.1 (by simp)

theorem created_only (initial : (writeMachine path data).initial start)
    (run : (writeMachine path data).Reaches start state)
    (absent : start.directory.entry .destination = none) :
    state.directory.entry .destination ≠ some .existing := by
  apply Machine.stable (fun now => now.directory.entry .destination ≠ some .existing) ?_
    ⟨start, initial, Relation.ReflTransGen.refl⟩ run (by simp [absent])
  intro actor middle next reached other taken
  obtain kept | appeared | removed := WriteStep.destination (writeMachine_sound reached) taken
  · rw [kept]
    exact other
  · simp [appeared.2]
  · simp [removed.2]

theorem returned_run {result : Except Failure Unit} {removal : Removal}
    (run : (writeMachine path data).Reaches state last)
    (done : state.phase call = .returned result removal) :
    last.phase call = .returned result removal := by
  induction run with
  | refl => exact done
  | tail _ taken ih =>
    obtain ⟨actor, taken⟩ := taken
    exact WriteStep.returned taken ih

end Runs

def oneByte : Unit → List UInt8 := fun _ => [7]

def beforeWrite : State Unit := ⟨⟨fun _ => none, fun _ => []⟩, fun _ => .called⟩

end CloudRing.PrivateArtifact
