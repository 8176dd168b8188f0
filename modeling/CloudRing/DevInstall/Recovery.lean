import CloudRing.DevInstall.State

/-!
# Recovery of the ownership journal

What `OpenState` finds after a process was killed somewhere inside `Save`.
-/

namespace CloudRing.DevInstall

open Library

/-! ## The file system -/

structure Directory (Byte : Type) where
  owner : Option StateOwner
  (json next : Option (List Byte))
  others : List String
  deriving DecidableEq

namespace Directory

variable {Byte : Type}

def file (directory : Directory Byte) : JournalFile → Option (List Byte)
  | .json => directory.json
  | .next => directory.next

def write (directory : Directory Byte) (bytes : Option (List Byte)) : JournalFile → Directory Byte
  | .json => { directory with json := bytes }
  | .next => { directory with next := bytes }

def entries (directory : Directory Byte) : List String :=
  (if directory.owner.isSome then [".owner.json"] else []) ++
    (if directory.json.isSome then ["state.json"] else []) ++
    (if directory.next.isSome then ["state.next"] else []) ++ directory.others

end Directory

def reliable {Byte : Type} (now : Int) (directory : Directory Byte) :
    (call : FileCall Byte) → FileReply Byte call × Directory Byte
  | .isPresent => (true, directory)
  | .mkdir => (false, directory)
  | .readOwner => (directory.owner, directory)
  | .writeOwner owner => (true, { directory with owner := some owner })
  | .lock => (true, { directory with
      others := if ".lock" ∈ directory.others then directory.others
        else ".lock" :: directory.others })
  | .randomHex => (none, directory)
  | .newCredentials _ _ => (none, directory)
  | .now => (now, directory)
  | .read file => (directory.file file, directory)
  | .create file =>
    match directory.file file with
    | none => (true, directory.write (some []) file)
    | some _ => (false, directory)
  | .append file byte =>
    match directory.file file with
    | none => (false, directory)
    | some bytes => (true, directory.write (some (bytes ++ [byte])) file)
  | .sync _ => (true, directory)
  | .rename =>
    match directory.next with
    | none => (false, directory)
    | some bytes => (true, { directory with json := some bytes, next := none })
  | .removeNext => (directory.next.isSome, { directory with next := none })
  | .syncDirectory => (true, directory)
  | .entries => (directory.entries, directory)

/-! ## The programs on it -/

section Recovery

variable {Byte : Type} {now : Int} {directory : Directory Byte} {payload : List Byte}

theorem writeAll_run {bytes : List Byte} (payload : List Byte)
    (started : directory.next = some bytes) :
    (writeAll .next payload).runWith (reliable now) directory =
      (true, { directory with next := some (bytes ++ payload) }) := by
  induction payload generalizing directory bytes with
  | nil => simp [writeAll, ← started]
  | cons byte payload ih =>
    have rest := @ih { directory with next := some (bytes ++ [byte]) } _ rfl
    simp [writeAll, askFile, reliable, Directory.file, Directory.write, started, rest]

theorem writeExclusive_run (payload : List Byte) (absent : directory.next = none) :
    (writeExclusive .next payload).runWith (reliable now) directory =
      (.ok (), { directory with next := some payload }) := by
  have written : (writeAll .next payload).runWith (reliable now)
      { directory with next := some [] } =
        (true, { directory with next := some ([] ++ payload) }) := writeAll_run payload rfl
  rw [List.nil_append] at written
  simp only [writeExclusive, askFile, Program.runWith_bind, Program.runWith_request, reliable,
    Directory.file, absent, Directory.write, Bool.not_true, Bool.false_eq_true, if_false, written,
    Program.runWith_pure, Bool.or_self]

theorem commitState_run (written : directory.next = some payload) :
    (commitState : Program (FileReply Byte) _).runWith (reliable now) directory =
      (.ok (), { directory with json := some payload, next := none }) := by
  simp [commitState, askFile, reliable, written]

theorem guardOwner_run {owner : StateOwner} (owned : directory.owner = some owner) :
    (guardOwner owner).runWith (reliable now) directory = (.ok (), directory) := by
  simp [guardOwner, askFile, reliable, owned]

theorem writeAll_along {property : Directory Byte → Prop} {bytes : List Byte} (payload : List Byte)
    (started : directory.next = some bytes)
    (holds : ∀ part, part <+: payload →
      property { directory with next := some (bytes ++ part) }) :
    Program.Along (Program.answers (reliable now)) property (writeAll .next payload)
      directory := by
  induction payload generalizing directory bytes with
  | nil =>
    have start := holds [] (List.prefix_refl [])
    simp only [List.append_nil, ← started] at start
    exact start
  | cons byte payload ih =>
    have start := holds [] (List.nil_prefix)
    simp only [List.append_nil, ← started] at start
    apply Program.along_request start
    simp only [reliable, Directory.file, started, Directory.write, if_true]
    apply ih rfl
    intro part begins
    have next := holds (byte :: part) (List.cons_prefix_cons.mpr ⟨rfl, begins⟩)
    simpa using next

theorem writeExclusive_along {payload : List Byte} {property : Directory Byte → Prop}
    (absent : directory.next = none) (unchanged : property directory)
    (holds : ∀ part, part <+: payload → property { directory with next := some part }) :
    Program.Along (Program.answers (reliable now)) property (writeExclusive .next payload)
      directory := by
  apply Program.along_request unchanged
  simp only [reliable, Directory.file, absent, Directory.write, Bool.not_true]
  apply Program.along_bind
  · apply writeAll_along payload rfl
    simpa using holds
  · rw [writeAll_run payload rfl]
    have whole := holds payload (List.prefix_refl payload)
    exact Program.along_request whole whole

theorem checkInventory_run (others : ∀ name ∈ directory.others, name ∈ stateFiles) :
    (checkInventory : Program (FileReply Byte) _).runWith (reliable now) directory =
      (.ok (), directory) := by
  have known : directory.entries.all (· ∈ stateFiles) = true := by
    rw [List.all_eq_true]
    intro name member
    simp only [Directory.entries, List.mem_append] at member
    rcases member with ((owned | journal) | pending) | other
    · split at owned <;> simp_all [stateFiles]
    · split at journal <;> simp_all [stateFiles]
    · split at pending <;> simp_all [stateFiles]
    · exact decide_eq_true (others name other)
  simp only [checkInventory, askFile, Program.runWith_bind, Program.runWith_request, reliable,
    known, if_true, Program.runWith_pure]

variable [StateCodec Byte]

structure Readable [Profiles] (profile : Profile) (owner : StateOwner) (state : State)
    (directory : Directory Byte) : Prop where
  accepted : Profiles.validate profile = true
  owned : directory.owner = some owner
  schema : owner.apiVersion = stateSchema
  identity : owner.installationID = profile.installationID
  nonce : hexDigest owner.ownerNonce = true
  journal : concludeRead directory.json = .ok state
  valid : validateState owner state profile = .ok ()
  others : ∀ name ∈ directory.others, name ∈ stateFiles

structure Committed [Profiles] (profile : Profile) (owner : StateOwner) (state : State)
    (directory : Directory Byte) : Prop extends Readable profile owner state directory where
  pending : directory.next ≠ none →
    ∃ pending, concludeRead directory.next = .ok pending ∧ recognizes ⟨owner, state⟩ pending = true

def Torn (state : State) (directory : Directory Byte) : Prop :=
  ∃ payload part, encodeState state = some payload ∧ part <+: payload ∧ part ≠ payload ∧
    directory.next = some part

section Runs

theorem discard_absent (store : StateStore) (absent : directory.next = none) :
    (discardInterruptedWrite store).runWith (reliable now) directory = (.ok (), directory) := by
  simp [discardInterruptedWrite, readState, askFile, reliable, Directory.file, absent,
    concludeRead]

variable {store : StateStore}

theorem discard_recognised {pending : State} (complete : concludeRead directory.next = .ok pending)
    (recognised : recognizes store pending = true) :
    (discardInterruptedWrite store).runWith (reliable now) directory =
      (.ok (), { directory with next := none }) := by
  have written : directory.next.isSome = true := by
    cases found : directory.next with
    | none => simp [found, concludeRead] at complete
    | some bytes => rfl
  simp [discardInterruptedWrite, readState, askFile, reliable, Directory.file, complete,
    recognised, written]

theorem discard_run (pending : directory.next ≠ none →
      ∃ pending, concludeRead directory.next = .ok pending ∧ recognizes store pending = true) :
    (discardInterruptedWrite store).runWith (reliable now) directory =
      (.ok (), { directory with next := none }) := by
  by_cases absent : directory.next = none
  · rw [discard_absent store absent, ← absent]
  · obtain ⟨state, complete, recognised⟩ := pending absent
    exact discard_recognised complete recognised

theorem discard_invalid (store : StateStore)
    (invalid : concludeRead directory.next = .error .invalid) :
    (discardInterruptedWrite store).runWith (reliable now) directory =
      (.error .interrupted, directory) := by
  simp [discardInterruptedWrite, readState, askFile, reliable, Directory.file, invalid]

theorem concludeRead_encodeState {state : State}
    (encoded : encodeState state = some payload) : concludeRead (some payload) = .ok state := by
  unfold encodeState at encoded
  cases marshalled : (StateCodec.marshal state : Option (List Byte)) with
  | none => simp [marshalled] at encoded
  | some bytes =>
    simp only [marshalled] at encoded
    split at encoded
    · cases encoded
    · rename_i short
      cases encoded
      simp [concludeRead, short, StateCodec.decode_marshal marshalled]

theorem concludeRead_part {state : State} {part : List Byte}
    (encoded : encodeState state = some payload) (begins : part <+: payload)
    (proper : part ≠ payload) : concludeRead (some part) = .error .invalid := by
  unfold encodeState at encoded
  cases marshalled : (StateCodec.marshal state : Option (List Byte)) with
  | none => simp [marshalled] at encoded
  | some bytes =>
    simp only [marshalled] at encoded
    split at encoded
    · cases encoded
    · cases encoded
      have undecoded := StateCodec.decode_part marshalled begins proper
      simp [concludeRead, undecoded]

theorem save_run (owned : directory.owner = some store.owner) (absent : directory.next = none)
    (encoded : encodeState (store.state.saved now) = some payload) :
    (save store).runWith (reliable now) directory =
      ((.ok (), { store with state := store.state.saved now }),
        { directory with json := some payload, next := none }) := by
  have committed : (commitState : Program (FileReply Byte) _).runWith (reliable now)
      { directory with next := some payload } =
        (.ok (), { directory with json := some payload, next := none }) := commitState_run rfl
  simp only [save, askFile, Program.runWith_bind, guardOwner_run owned,
    discard_absent store absent, Program.runWith_request, reliable, writeExclusiveJSON, encoded,
    writeExclusive_run payload absent, committed, Program.runWith_pure, reduceCtorEq, if_false]

end Runs

/-! ## Crashes -/

/-- What a save that was killed may leave: the old journal, with a beginning of the new state
pending, or the new journal. -/
structure Crashed (directory : Directory Byte) (encoded : Option (List Byte))
    (crashed : Directory Byte) : Prop where
  owner : crashed.owner = directory.owner
  others : crashed.others = directory.others
  journal : (crashed.json = directory.json ∧ (crashed.next = directory.next ∨
      crashed.next = none ∨ ∃ payload part, encoded = some payload ∧ part <+: payload ∧
        crashed.next = some part)) ∨
    ∃ payload, encoded = some payload ∧ crashed.json = some payload ∧ crashed.next = none

theorem discard_along {store : StateStore} {property : Directory Byte → Prop}
    (unchanged : property directory) (cleared : property { directory with next := none }) :
    Program.Along (Program.answers (reliable now)) property (discardInterruptedWrite store)
      directory := by
  have reads : Program.Along (Program.answers (reliable now)) property (readState .next)
      directory := Program.along_request unchanged unchanged
  apply Program.along_bind reads
  have content : (readState .next).runWith (reliable now) directory =
      (concludeRead directory.next, directory) := rfl
  rw [content]
  split
  · exact unchanged
  · exact unchanged
  · split
    · exact unchanged
    · exact Program.along_request unchanged cleared

theorem save_along {store : StateStore} (owned : directory.owner = some store.owner)
    (pending : directory.next ≠ none →
      ∃ pending, concludeRead directory.next = .ok pending ∧ recognizes store pending = true) :
    Program.Along (Program.answers (reliable now))
      (Crashed directory (encodeState (store.state.saved now))) (save store) directory := by
  have start : Crashed directory (encodeState (store.state.saved now)) directory :=
    ⟨rfl, rfl, .inl ⟨rfl, .inl rfl⟩⟩
  have cleared : Crashed directory (encodeState (store.state.saved now))
      { directory with next := none } := ⟨rfl, rfl, .inl ⟨rfl, .inr (.inl rfl)⟩⟩
  have guards : Program.Along (Program.answers (reliable now))
      (Crashed directory (encodeState (store.state.saved now))) (guardOwner store.owner)
      directory := Program.along_request start start
  unfold save
  apply Program.along_bind guards
  rw [guardOwner_run owned]
  -- The pending write of an earlier save is removed before the new one is created.
  apply Program.along_bind (discard_along start cleared)
  rw [discard_run pending]
  apply Program.along_request cleared
  cases encoded : (encodeState (store.state.saved now) : Option (List Byte)) with
  | none =>
    rw [encoded] at cleared
    simp only [reliable, writeExclusiveJSON, encoded, pure_bind]
    exact cleared
  | some payload =>
    rw [encoded] at cleared
    simp only [reliable, writeExclusiveJSON, encoded]
    have whole : Crashed directory (some payload) { directory with next := some payload } :=
      ⟨rfl, rfl, .inl ⟨rfl, .inr (.inr ⟨payload, payload, rfl, List.prefix_refl _, rfl⟩)⟩⟩
    have renamed : Crashed directory (some payload)
        { directory with json := some payload, next := none } :=
      ⟨rfl, rfl, .inr ⟨payload, rfl, rfl, rfl⟩⟩
    apply Program.along_bind
    · apply writeExclusive_along rfl cleared
      intro part begins
      exact ⟨rfl, rfl, .inl ⟨rfl, .inr (.inr ⟨payload, part, rfl, begins, rfl⟩)⟩⟩
    · have commits : Program.Along (Program.answers (reliable now))
          (Crashed directory (some payload)) commitState { directory with next := some payload } :=
        Program.along_request whole (Program.along_request renamed renamed)
      rw [writeExclusive_run payload rfl]
      apply Program.along_bind commits
      rw [commitState_run rfl]
      exact renamed

/-! ## Recovery -/

section Opening

variable [Profiles] {profile : Profile} {owner : StateOwner} {state : State} {now : Int}
  {directory : Directory Byte}

def Directory.locked {Byte : Type} (directory : Directory Byte) : Directory Byte :=
  { directory with
    others := if ".lock" ∈ directory.others then directory.others
      else ".lock" :: directory.others }

theorem recoverState_run (readable : Readable profile owner state directory) :
    (recoverState profile).runWith (reliable now) directory =
      (((discardInterruptedWrite ⟨owner, state⟩).runWith (reliable now) directory.locked).1.map
          fun _ => ⟨owner, state⟩,
        ((discardInterruptedWrite ⟨owner, state⟩).runWith (reliable now) directory.locked).2) := by
  have read : (readJournal owner profile).runWith (reliable now) directory.locked =
      (.ok state, directory.locked) := by
    have content : (readState .json).runWith (reliable now) directory.locked =
        (concludeRead directory.json, directory.locked) := rfl
    simp only [readJournal, Program.runWith_bind, content, readable.journal, Program.runWith_pure]
  have locks : reliable now directory .lock = (true, directory.locked) := rfl
  have owns : reliable now directory .readOwner = (some owner, directory) := by
    rw [reliable, readable.owned]
  simp only [recoverState, askFile, Program.runWith_bind, Program.runWith_request, owns,
    readable.schema, readable.identity, readable.nonce, ne_eq, not_true_eq_false, decide_false,
    Bool.not_true, Bool.or_self, Bool.false_eq_true, if_false, locks, read, readable.valid,
    Program.runWith_pure]

omit [StateCodec Byte] [Profiles] in
theorem locked_others (others : ∀ name ∈ directory.others, name ∈ stateFiles) :
    ∀ name ∈ directory.locked.others, name ∈ stateFiles := by
  intro name member
  simp only [Directory.locked] at member
  split at member
  · exact others name member
  · rcases List.mem_cons.mp member with rfl | other
    · decide
    · exact others name other

theorem openState_run (create : Bool) (committed : Committed profile owner state directory) :
    (openState profile create).runWith (reliable now) directory =
      (.ok ⟨owner, state⟩, { directory.locked with next := none }) := by
  have discarded : (discardInterruptedWrite ⟨owner, state⟩).runWith (reliable now)
      directory.locked = (.ok (), { directory.locked with next := none }) :=
    discard_run committed.pending
  have present : reliable now directory .isPresent = (true, directory) := rfl
  have checked : (checkInventory : Program (FileReply Byte) _).runWith (reliable now)
      { directory.locked with next := none } =
        (.ok (), { directory.locked with next := none }) :=
    checkInventory_run (locked_others committed.others)
  simp only [openState, committed.accepted, Bool.not_true, Bool.false_eq_true, if_false, askFile,
    Program.runWith_bind, Program.runWith_request, present, if_true,
    recoverState_run committed.toReadable, discarded, Except.map, checkedStore, checked,
    Program.runWith_pure]

theorem openState_torn (create : Bool) (readable : Readable profile owner state directory)
    (invalid : concludeRead directory.next = .error .invalid) :
    (openState profile create).runWith (reliable now) directory =
      (.error .interrupted, directory.locked) := by
  have refused : (discardInterruptedWrite ⟨owner, state⟩).runWith (reliable now)
      directory.locked = (.error .interrupted, directory.locked) := discard_invalid _ invalid
  have present : reliable now directory .isPresent = (true, directory) := rfl
  simp only [openState, readable.accepted, Bool.not_true, Bool.false_eq_true, if_false, askFile,
    Program.runWith_bind, Program.runWith_request, present, if_true, recoverState_run readable,
    refused, Except.map, checkedStore, Program.runWith_pure]

/-- `OpenState` succeeds with one of two states, and every following `Save` of a state that is
encoded within the bound succeeds. -/
def Recovers (profile : Profile) (state next : State) (directory : Directory Byte) : Prop :=
  ∀ create now, ∃ store after,
    (openState profile create).runWith (reliable now) directory = (.ok store, after) ∧
    (store.state = state ∨ store.state = next) ∧
    ∀ following later, (encodeState (following.saved later) : Option (List Byte)) ≠ none →
      ((save { store with state := following }).runWith (reliable later) after).1.1 = .ok ()

theorem Committed.recovers (committed : Committed profile owner state directory) {old next : State}
    (one : state = old ∨ state = next) : Recovers profile old next directory := by
  intro create now
  refine ⟨⟨owner, state⟩, { directory.locked with next := none }, openState_run create committed,
    one, ?_⟩
  intro following later fits
  obtain ⟨payload, encoded⟩ := Option.ne_none_iff_exists'.mp fits
  rw [save_run committed.owned rfl encoded]

omit [StateCodec Byte] in
theorem validateState_identity (valid : validateState owner state profile = .ok ()) :
    state.apiVersion = stateSchema ∧ state.installationID = profile.installationID ∧
      state.ownerNonce = owner.ownerNonce ∧
      state.profileSHA256 = Profiles.fingerprint profile := by
  unfold validateState at valid
  split at valid
  · cases valid
  · rename_i holds
    simp only [not_or, ne_eq, not_not] at holds
    exact ⟨holds.1, holds.2.1, holds.2.2.1, holds.2.2.2.1⟩

/-- A process that saves the next state of a committed journal is killed at any point. `OpenState`
then yields the old or the new state, and every following `Save` succeeds, exactly when the pending
write was not cut off. -/
theorem save_recovers_iff {next : State} {crashed : Directory Byte}
    (committed : Committed profile owner state directory)
    (follows : next.sequence = state.sequence)
    (accepted : validateState owner (next.saved now) profile = .ok ())
    (crash : Program.Cut (Program.answers (reliable now)) directory
      (save ⟨owner, next⟩ : Program (FileReply Byte) _) crashed) :
    Recovers profile state (next.saved now) crashed ↔ ¬ Torn (next.saved now) crashed := by
  obtain ⟨-, -, -, print⟩ := validateState_identity committed.valid
  obtain ⟨schema, identity, nonce, same⟩ := validateState_identity accepted
  have fingerprint : next.profileSHA256 = state.profileSHA256 := same.trans print.symm
  have recognises : ∀ pending,
      recognizes ⟨owner, next⟩ pending = recognizes ⟨owner, state⟩ pending := by
    intro pending
    simp only [recognizes, fingerprint, follows]
  have pending : directory.next ≠ none → ∃ pending, concludeRead directory.next = .ok pending ∧
      recognizes ⟨owner, next⟩ pending = true := by
    intro written
    obtain ⟨pending, complete, recognised⟩ := committed.pending written
    exact ⟨pending, complete, (recognises pending).trans recognised⟩
  have left := (save_along committed.owned pending).cut crash
  have readable : ∀ {found}, concludeRead crashed.json = .ok found →
      validateState owner found profile = .ok () → Readable profile owner found crashed := by
    intro found journal valid
    exact ⟨committed.accepted, left.owner.trans committed.owned, committed.schema,
      committed.identity, committed.nonce, journal, valid, left.others ▸ committed.others⟩
  constructor
  · rintro recovers ⟨payload, part, encoded, begins, proper, written⟩
    rcases left.journal with ⟨journal, -⟩ | ⟨_, -, -, absent⟩
    · have old := readable (journal ▸ committed.journal) committed.valid
      have invalid : concludeRead crashed.next = .error .invalid := by
        rw [written]
        exact concludeRead_part encoded begins proper
      obtain ⟨store, after, opened, -⟩ := recovers false now
      rw [openState_torn false old invalid] at opened
      cases opened
    · rw [absent] at written
      cases written
  · intro whole
    rcases left.journal with ⟨journal, pending⟩ | ⟨payload, encoded, journal, absent⟩
    · have old := readable (journal ▸ committed.journal) committed.valid
      have recognised : crashed.next ≠ none → ∃ pending, concludeRead crashed.next = .ok pending ∧
          recognizes ⟨owner, state⟩ pending = true := by
        intro written
        rcases pending with unchanged | absent | ⟨payload, part, encoded, begins, cut⟩
        · rw [unchanged] at written ⊢
          exact committed.pending written
        · exact absurd absent written
        · have complete : part = payload := by
            by_contra proper
            exact whole ⟨payload, part, encoded, begins, proper, cut⟩
          refine ⟨next.saved now, ?_, ?_⟩
          · rw [cut, complete]
            exact concludeRead_encodeState encoded
          · have counted : (next.saved now).sequence = state.sequence + 1 := by
              rw [← follows]
              rfl
            simp [recognizes, nonce, identity, committed.identity, schema, same, print, counted]
      exact Committed.recovers ⟨old, recognised⟩ (.inl rfl)
    · have new := readable (journal ▸ concludeRead_encodeState encoded) accepted
      exact Committed.recovers ⟨new, fun written => absurd absent written⟩ (.inr rfl)

end Opening

end Recovery

/-! ## Samples -/

section Sample

abbrev markedCodec : StateCodec (Option State) where
  marshal state := some [some state, none]
  decode
    | [some state, none] => some state
    | _ => none
  decode_marshal := by
    rintro state _ ⟨⟩
    rfl
  decode_part := by
    rintro state _ part ⟨⟩ begins proper
    match part, begins with
    | [], _ => rfl
    | [none], _ => rfl
    | [some _], _ => rfl
    | first :: second :: rest, begins =>
      have short : rest = [] := by
        have bound := begins.length_le
        simp only [List.length_cons, List.length_nil] at bound
        exact List.length_eq_zero_iff.mp (by omega)
      subst short
      exact absurd (begins.eq_of_length rfl) proper

abbrev plainProfiles : Profiles where
  validate _ := true
  fingerprint profile := profile.installationID

attribute [local instance] markedCodec plainProfiles

def sampleDigest : String := String.ofList (List.replicate 64 '0')

def sampleProfile : Profile := ⟨"alpha", "cloudring-dev-alpha", "guest", "longhorn", "low", ""⟩

def sampleOwner : StateOwner := ⟨stateSchema, "alpha", sampleDigest⟩

def sampleState : State :=
  { preparedState sampleProfile sampleDigest
      ⟨sampleDigest, sampleDigest, sampleDigest, sampleDigest, ""⟩ 1 with sequence := 1 }

def sampleDirectory : Directory (Option State) :=
  ⟨some sampleOwner, some [some sampleState, none], none, [".lock"]⟩

theorem sampleDirectory_committed :
    Committed sampleProfile sampleOwner sampleState sampleDirectory where
  accepted := rfl
  owned := rfl
  schema := rfl
  identity := rfl
  nonce := by decide +kernel
  journal := rfl
  valid := by decide +kernel
  others := by decide
  pending := fun written => absurd rfl written

def sampleNext : State := { sampleState with phase := "creating" }

theorem sampleNext_accepted :
    validateState sampleOwner (sampleNext.saved 2) sampleProfile = .ok () := by
  decide +kernel

def sampleTorn : Directory (Option State) :=
  { sampleDirectory with next := some [some (sampleNext.saved 2)] }

/-- A save is killed before the end of the next state was written, and `OpenState` refuses the
directory that it leaves. -/
theorem openState_refuses_torn :
    Committed sampleProfile sampleOwner sampleState sampleDirectory ∧
      validateState sampleOwner (sampleNext.saved 2) sampleProfile = .ok () ∧
      Program.Cut (Program.answers (reliable 2)) sampleDirectory
        (save ⟨sampleOwner, sampleNext⟩ : Program (FileReply (Option State)) _) sampleTorn ∧
      ((openState sampleProfile false).runWith (reliable 3) sampleTorn).1 =
        .error .interrupted ∧
      ¬ Recovers sampleProfile sampleState (sampleNext.saved 2) sampleTorn := by
  have readable : Readable sampleProfile sampleOwner sampleState sampleTorn :=
    { sampleDirectory_committed.toReadable with }
  have refused : ((openState sampleProfile false).runWith (reliable 3) sampleTorn).1 =
      .error .interrupted := by rw [openState_torn false readable rfl]
  have killed : Program.Cut (Program.answers (reliable 2)) sampleDirectory
      (save ⟨sampleOwner, sampleNext⟩ : Program (FileReply (Option State)) _) sampleTorn :=
    .ask (some sampleOwner) rfl (.ask none rfl (.ask 2 rfl (.ask true rfl (.ask true rfl
      (.stop _ _)))))
  refine ⟨sampleDirectory_committed, sampleNext_accepted, killed, refused, fun recovers => ?_⟩
  obtain ⟨store, after, opened, -⟩ := recovers false 3
  rw [opened] at refused
  cases refused

/-- A save that is killed before the rename leaves a directory that recovers. -/
theorem save_recovers_sample :
    Recovers sampleProfile sampleState (sampleNext.saved 2)
      { sampleDirectory with next := some [some (sampleNext.saved 2), none] } := by
  have follows : sampleNext.sequence = sampleState.sequence := rfl
  have killed : Program.Cut (Program.answers (reliable 2)) sampleDirectory
      (save ⟨sampleOwner, sampleNext⟩ : Program (FileReply (Option State)) _)
      { sampleDirectory with next := some [some (sampleNext.saved 2), none] } :=
    .ask (some sampleOwner) rfl (.ask none rfl (.ask 2 rfl (.ask true rfl (.ask true rfl
      (.ask true rfl (.stop _ _))))))
  apply (save_recovers_iff sampleDirectory_committed follows sampleNext_accepted killed).mpr
  rintro ⟨payload, part, encoded, begins, proper, written⟩
  cases encoded
  cases written
  exact proper rfl

end Sample

end CloudRing.DevInstall
