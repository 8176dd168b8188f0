import CloudRing.Library.History
import CloudRing.ScratchNamespace.Procedures

/-!
# Ownership of the scratch namespace

What holds of every sequence of `Create` and `Cleanup` calls for one binding, each of which may be
killed at any point.
-/

namespace CloudRing.ScratchNamespace

open Library Library.Program

/-! ## The world -/

inductive Act where
  | fenced (fence : CreateFence)
  | recorded (record : CreatedRecord)
  | completed (record : CleanupRecord)
  | intended (record : CreatedRecord)
  | drew (nonce : String)
  | got (output : Output)
  | made (nonce uid : String)
  | asked (uid resourceVersion : String)
  | clocked (time : Int)
  | slept (duration : Int) (whole : Bool)
  deriving DecidableEq

def fenceOf : List Act → Option CreateFence
  | [] => none
  | .fenced fence :: _ => some fence
  | _ :: older => fenceOf older

def createdOf : List Act → Option CreatedRecord
  | [] => none
  | .recorded record :: _ => some record
  | _ :: older => createdOf older

def completedOf : List Act → Option CleanupRecord
  | [] => none
  | .completed record :: _ => some record
  | _ :: older => completedOf older

def NamespaceObject.nonce (object : NamespaceObject) : String :=
  object.annotations.get nonceAnnotation

def Truthful (trace : List Act) (output : Output) : Prop :=
  ∀ found, output = .object found → .drew found.nonce ∈ trace → .made found.nonce found.uid ∈ trace

def Writes {α : Type} (stored : Option α) (value : α) (act : Act) (trace : List Act)
    (written : Bool) (next : List Act) : Prop :=
  (stored = none ∧ next = act :: trace) ∨
    (next = trace ∧ (written = true → stored = some value))

def effect (trace : List Act) : (call : Call) → Reply call → List Act → Prop
  | .readFence, found, next => next = trace ∧ ∀ fence, found = .ok fence → fence = fenceOf trace
  | .readCreated, found, next =>
    next = trace ∧ ∀ record, found = .ok record → record = createdOf trace
  | .readCompleted, found, next =>
    next = trace ∧ ∀ record, found = .ok record → record = completedOf trace
  | .writeFence fence, written, next =>
    Writes (fenceOf trace) fence (.fenced fence) trace written next
  | .writeCreated record, written, next =>
    Writes (createdOf trace) record (.recorded record) trace written next
  | .writeCompleted record, written, next =>
    Writes (completedOf trace) record (.completed record) trace written next
  | .writeIntent record, written, next =>
    next = .intended record :: trace ∨ (written = false ∧ next = trace)
  | .nonce, drawn, next =>
    (drawn = none ∧ next = trace) ∨ ∃ nonce, drawn = some nonce ∧ next = .drew nonce :: trace
  | .get, output, next => next = .got output :: trace ∧ Truthful trace output
  | .dryRun _, _, next => next = trace
  | .create manifest, output, next =>
    (next = trace ∨ ∃ uid, next = .made (manifest.annotations.get nonceAnnotation) uid :: trace) ∧
      Truthful next output
  | .delete uid resourceVersion, _, next => next = .asked uid resourceVersion :: trace
  | .now, time, next => next = .clocked time :: trace
  | .sleep duration, whole, next => next = .slept duration whole :: trace

def world : Environment Reply (List Act) :=
  fun trace call reply next => effect trace call reply next

theorem world_recorder : Recorder world where
  grows := by
    intro trace call reply next done
    cases call with
    | readFence | readCreated | readCompleted => exact done.1 ▸ List.suffix_refl _
    | writeFence | writeCreated | writeCompleted =>
      rcases done with ⟨-, rfl⟩ | ⟨rfl, -⟩
      · exact List.suffix_cons _ _
      · exact List.suffix_refl _
    | writeIntent record =>
      rcases done with rfl | ⟨-, rfl⟩
      · exact List.suffix_cons _ _
      · exact List.suffix_refl _
    | nonce =>
      rcases done with ⟨-, rfl⟩ | ⟨nonce, -, rfl⟩
      · exact List.suffix_refl _
      · exact List.suffix_cons _ _
    | get => exact done.1 ▸ List.suffix_cons _ _
    | dryRun manifest => exact done ▸ List.suffix_refl _
    | create manifest =>
      rcases done.1 with rfl | ⟨uid, rfl⟩
      · exact List.suffix_refl _
      · exact List.suffix_cons _ _
    | delete | now | sleep => exact done ▸ List.suffix_cons _ _
  answers := by
    intro trace call
    cases call with
    | readFence | readCreated | readCompleted => exact ⟨.error "", trace, rfl, nofun⟩
    | writeFence | writeCreated | writeCompleted => exact ⟨false, trace, .inr ⟨rfl, nofun⟩⟩
    | writeIntent record => exact ⟨false, trace, .inr ⟨rfl, rfl⟩⟩
    | nonce => exact ⟨none, trace, .inl ⟨rfl, rfl⟩⟩
    | get => exact ⟨Output.failed, _, rfl, nofun⟩
    | dryRun manifest => exact ⟨false, trace, rfl⟩
    | create manifest => exact ⟨Output.failed, trace, .inl rfl, nofun⟩
    | delete | sleep => exact ⟨false, _, rfl⟩
    | now => exact ⟨(0 : Int), _, rfl⟩

/-! ## Proper histories -/

/-- The namespace was read as absent twice, and the quiet window was slept and observed in
between. -/
def Quiet (trace : List Act) : Prop :=
  ∃ newer older first second, trace = newer ++ .clocked second :: .got .empty ::
      .slept quietWindow true :: .clocked first :: .got .empty :: older ∧
    first + quietWindow ≤ second

theorem Quiet.later {trace last : List Act} (quiet : Quiet trace) (grows : trace <:+ last) :
    Quiet last := by
  obtain ⟨newer, older, first, second, rfl, apart⟩ := quiet
  obtain ⟨newest, rfl⟩ := grows
  exact ⟨newest ++ newer, older, first, second, by simp, apart⟩

def Permits (older : List Act) : Act → Prop
  | .fenced fence => fenceOf older = none ∧ .drew fence.nonce ∈ older
  | .recorded _ => createdOf older = none
  | .completed _ => completedOf older = none ∧ Quiet older
  | .asked uid resourceVersion =>
    completedOf older = none ∧ ∃ fence found, fenceOf older = some fence ∧
      .got (.object found) ∈ older ∧ owned found fence = true ∧ found.uid = uid ∧
      found.resourceVersion = resourceVersion ∧ .made fence.nonce uid ∈ older
  | _ => True

theorem owned_nonce {object : NamespaceObject} {fence : CreateFence}
    (owns : owned object fence = true) : object.nonce = fence.nonce := by
  simp only [owned, Bool.and_eq_true, decide_eq_true_eq] at owns
  exact owns.1.2

theorem fenceOf_drawn {trace : List Act} {fence : CreateFence} (proper : Proper Permits trace)
    (durable : fenceOf trace = some fence) : .drew fence.nonce ∈ trace := by
  induction trace with
  | nil => cases durable
  | cons act older ih =>
    cases act with
    | fenced found =>
      cases durable
      exact List.mem_cons_of_mem _ proper.1.2
    | _ => exact List.mem_cons_of_mem _ (ih proper.2 durable)

theorem createdOf_recorded {trace : List Act} {record : CreatedRecord}
    (proper : Proper Permits trace) (member : .recorded record ∈ trace) :
    createdOf trace = some record := by
  induction trace with
  | nil => cases member
  | cons act older ih =>
    rcases List.mem_cons.mp member with rfl | earlier
    · rfl
    · have durable := ih proper.2 earlier
      cases act with
      | recorded found =>
        have absent : createdOf older = none := proper.1
        rw [durable] at absent
        cases absent
      | _ => exact durable

theorem completedOf_quiet {trace : List Act} {record : CleanupRecord}
    (proper : Proper Permits trace) (durable : completedOf trace = some record) : Quiet trace := by
  induction trace with
  | nil => cases durable
  | cons act older ih =>
    cases act with
    | completed found => exact proper.1.2.later (List.suffix_cons _ _)
    | _ => exact (ih proper.2 durable).later (List.suffix_cons _ _)

theorem completedOf_later {trace last : List Act} {record : CleanupRecord}
    (durable : completedOf trace = some record) (grows : trace <:+ last) :
    completedOf last ≠ none := by
  obtain ⟨newer, rfl⟩ := grows
  induction newer with
  | nil => simp [durable]
  | cons act newer ih =>
    cases act with
    | completed found => simp [completedOf]
    | _ => exact ih

/-! ## Specifications -/

def Spec {α : Type} (procedure : Step α) (goes : α → List Act → Prop) (trace : List Act) : Prop :=
  wpExit world procedure goes (fun _ last => Proper Permits last) trace

section Rules

variable {α β : Type} {trace : List Act} {goes : β → List Act → Prop}

theorem spec_pure {value : β} (holds : goes value trace) :
    Spec (pure value : Step β) goes trace := holds

theorem spec_fail {message : String} (proper : Proper Permits trace) :
    Spec (fail message : Step β) goes trace := by
  rw [Spec, fail, wpExit_leave, wp_pure]
  exact proper

theorem spec_ask {call : Call} {rest : Reply call → Step β}
    (answered : ∀ reply next, effect trace call reply next → Spec (rest reply) goes next) :
    Spec (ask call >>= rest) goes trace := by
  rw [Spec, ask, wpExit_bind, wpExit_lift]
  exact answered

theorem spec_demand {holds : Bool} {message : String} {rest : Unit → Step β}
    (proper : Proper Permits trace) (follows : holds = true → Spec (rest ()) goes trace) :
    Spec (demand holds message >>= rest) goes trace :=
  wpExit_unless (fun _ => proper) follows

theorem spec_check {holds : Bool} {message : String} {goes : Unit → List Act → Prop}
    (proper : Proper Permits trace) (follows : holds = true → goes () trace) :
    Spec (demand holds message) goes trace :=
  (wpExit_require holds _).mpr ⟨follows, fun _ => proper⟩

theorem spec_bind {procedure : Step α} {rest : α → Step β} {middle : α → List Act → Prop}
    (first : Spec procedure middle trace)
    (second : ∀ value last, middle value last → Spec (rest value) goes last) :
    Spec (procedure >>= rest) goes trace :=
  wpExit_then first second

theorem spec_mono {procedure : Step β} {stronger : β → List Act → Prop}
    (holds : Spec procedure stronger trace)
    (implies : ∀ value last, stronger value last → goes value last) :
    Spec procedure goes trace :=
  wpExit_mono holds implies fun _ _ proper => proper

end Rules

section Procedures

variable {binding : Binding} {trace : List Act}

structure Found (trace : List Act) (found : Except String (Option NamespaceObject))
    (output : Output) : Prop where
  truthful : Truthful trace output
  absent : found = .ok none → output = .empty
  present : ∀ object, found = .ok (some object) → output = .object object

theorem get_spec :
    Spec (get binding) (fun found last => ∃ output, last = .got output :: trace ∧
      Found trace found output) trace := by
  apply spec_ask
  rintro output next ⟨rfl, truthful⟩
  cases output with
  | failed | garbage => exact spec_pure ⟨_, rfl, truthful, nofun, nofun⟩
  | empty => exact spec_pure ⟨_, rfl, truthful, fun _ => rfl, nofun⟩
  | object found =>
    dsimp only
    split
    · exact spec_pure ⟨_, rfl, truthful, nofun, nofun⟩
    · refine spec_pure ⟨_, rfl, truthful, nofun, fun object same => ?_⟩
      cases same
      rfl

variable {fence : CreateFence} {identity : Identity} {labels : Labels}
  {recorded : Option CreatedRecord}

theorem newFence_spec (proper : Proper Permits trace) :
    Spec (newFence binding labels) (fun fence last => Proper Permits last ∧
      fenceOf last = some fence ∧ completedOf last = completedOf trace) trace := by
  apply spec_bind get_spec
  rintro found _ ⟨output, rfl, -⟩
  have read : Proper Permits (.got output :: trace) := ⟨trivial, proper⟩
  match found with
  | .error _ | .ok (some _) => exact spec_fail read
  | .ok none =>
    apply spec_ask
    rintro drawn next (⟨rfl, rfl⟩ | ⟨nonce, rfl, rfl⟩)
    · exact spec_fail read
    · have drew : Proper Permits (.drew nonce :: .got output :: trace) := ⟨trivial, read⟩
      apply spec_ask
      rintro written next (⟨absent, rfl⟩ | ⟨rfl, stored⟩)
      · have fenced : Proper Permits (.fenced ⟨schema, binding, nonce, labels⟩ ::
            .drew nonce :: .got output :: trace) := ⟨⟨absent, List.mem_cons_self⟩, drew⟩
        apply spec_demand fenced
        intro _
        exact spec_pure ⟨fenced, rfl, rfl⟩
      · apply spec_demand drew
        intro holds
        exact spec_pure ⟨drew, stored holds, rfl⟩

theorem readCreated_spec (proper : Proper Permits trace) :
    Spec (readCreated binding) (fun record last => last = trace ∧ record = createdOf trace)
      trace := by
  apply spec_ask
  rintro found next ⟨rfl, same⟩
  match found with
  | .error _ => exact spec_fail proper
  | .ok none => exact spec_pure ⟨rfl, same none rfl⟩
  | .ok (some record) =>
    apply spec_demand proper
    intro _
    exact spec_pure ⟨rfl, same (some record) rfl⟩

theorem readCompleted_spec [Runtime] (proper : Proper Permits trace) :
    Spec (readCompleted binding) (fun record last => last = trace ∧ record = completedOf trace)
      trace := by
  apply spec_ask
  rintro found next ⟨rfl, same⟩
  match found with
  | .error _ => exact spec_fail proper
  | .ok none => exact spec_pure ⟨rfl, same none rfl⟩
  | .ok (some record) =>
    apply spec_demand proper
    intro _
    exact spec_pure ⟨rfl, same (some record) rfl⟩

theorem submitCreate_spec (proper : Proper Permits trace) :
    Spec (submitCreate binding fence) (fun _ last => Proper Permits last) trace := by
  have resolves : ∀ {trace}, Proper Permits trace →
      Spec (submitCreate.resolveCreate binding) (fun _ last => Proper Permits last) trace := by
    intro trace proper
    apply spec_bind get_spec
    rintro found _ ⟨output, rfl, -⟩
    have read : Proper Permits (.got output :: trace) := ⟨trivial, proper⟩
    match found with
    | .error _ | .ok none => exact spec_fail read
    | .ok (some _) => exact spec_pure read
  apply spec_ask
  rintro accepted next rfl
  apply spec_demand proper
  intro _
  apply spec_ask
  rintro output next ⟨created, -⟩
  have made : Proper Permits next := by
    rcases created with rfl | ⟨uid, rfl⟩
    · exact proper
    · exact ⟨trivial, proper⟩
  cases output with
  | object found =>
    dsimp only
    split
    · exact spec_pure made
    · exact resolves made
  | failed | empty | garbage => exact resolves made

theorem obtainFence_spec (proper : Proper Permits trace) :
    Spec (obtainFence binding labels) (fun _ last => Proper Permits last ∧
      completedOf last = completedOf trace) trace := by
  apply spec_ask
  rintro found next ⟨rfl, -⟩
  match found with
  | .error _ => exact spec_fail proper
  | .ok (some fence) => exact spec_pure ⟨proper, rfl⟩
  | .ok none =>
    apply spec_mono (newFence_spec proper)
    rintro fence last ⟨kept, -, same⟩
    exact ⟨kept, same⟩

theorem ensureNamespace_spec (proper : Proper Permits trace) :
    Spec (ensureNamespace binding fence recorded) (fun _ last => Proper Permits last) trace := by
  apply spec_bind get_spec
  rintro found _ ⟨output, rfl, -⟩
  have read : Proper Permits (.got output :: trace) := ⟨trivial, proper⟩
  match found with
  | .error _ => exact spec_fail read
  | .ok (some _) => exact spec_pure read
  | .ok none =>
    apply spec_demand read
    intro _
    exact submitCreate_spec read

theorem recordIdentity_spec (proper : Proper Permits trace) :
    Spec (recordIdentity binding recorded identity) (fun _ last => Proper Permits last) trace := by
  cases recorded with
  | some record =>
    apply spec_demand proper
    intro _
    exact spec_pure proper
  | none =>
    apply spec_ask
    intro written next stored
    have kept : Proper Permits next := by
      rcases stored with ⟨absent, rfl⟩ | ⟨rfl, -⟩
      · exact ⟨absent, proper⟩
      · exact proper
    apply spec_demand kept
    intro _
    exact spec_pure kept

/-- `Create` leaves a proper history, and does not succeed after a completed cleanup. -/
theorem create_spec (proper : Proper Permits trace) :
    Spec (create binding labels) (fun _ last => Proper Permits last ∧ completedOf trace = none)
      trace := by
  apply spec_demand proper
  intro _
  apply spec_bind (obtainFence_spec proper)
  rintro fence middle ⟨kept, same⟩
  apply spec_demand kept
  intro _
  apply spec_ask
  rintro completed next ⟨rfl, read⟩
  apply spec_demand kept
  intro absent
  have open' : completedOf trace = none := by
    rw [← same]
    match completed, absent with
    | .ok none, _ => exact (read none rfl).symm
  apply spec_bind (readCreated_spec kept)
  rintro recorded _ ⟨rfl, -⟩
  apply spec_bind (ensureNamespace_spec kept)
  intro object last ensured
  apply spec_demand ensured
  intro _
  apply spec_mono (recordIdentity_spec ensured)
  exact fun _ _ final => ⟨final, open'⟩

theorem submitDelete_spec {object : NamespaceObject}
    (proper : Proper Permits trace) (running : completedOf trace = none)
    (durable : fenceOf trace = some fence) (read : .got (.object object) ∈ trace)
    (owns : owned object fence = true) (made : .made fence.nonce object.uid ∈ trace) :
    Spec (submitDelete binding fence (objectIdentity object)) (fun _ last => Proper Permits last)
      trace := by
  apply spec_ask
  intro intended next written
  have kept : Proper Permits next ∧ Permits next (.asked object.uid object.resourceVersion) := by
    rcases written with rfl | ⟨-, rfl⟩
    · exact ⟨⟨trivial, proper⟩, running, fence, object, durable, List.mem_cons_of_mem _ read, owns,
        rfl, rfl, List.mem_cons_of_mem _ made⟩
    · exact ⟨proper, running, fence, object, durable, read, owns, rfl, rfl, made⟩
  apply spec_demand kept.1
  intro _
  apply spec_ask
  rintro deleted _ rfl
  have sent : Proper Permits (.asked object.uid object.resourceVersion :: next) :=
    ⟨kept.2, kept.1⟩
  cases deleted with
  | true => exact spec_pure sent
  | false =>
    apply spec_bind get_spec
    rintro found _ ⟨output, rfl, -⟩
    have read : Proper Permits
        (.got output :: .asked object.uid object.resourceVersion :: next) := ⟨trivial, sent⟩
    match found with
    | .ok none => exact spec_pure read
    | .ok (some current) => exact spec_check read fun _ => read
    | .error _ => exact spec_fail read

theorem awaitDeletion_spec {deadline : Int} (reads : Nat) (proper : Proper Permits trace) :
    Spec (awaitDeletion binding fence identity deadline reads)
      (fun _ last => Proper Permits last) trace := by
  induction reads generalizing trace with
  | zero => exact spec_fail proper
  | succ reads ih =>
    apply spec_bind get_spec
    rintro found _ ⟨output, rfl, -⟩
    have read : Proper Permits (.got output :: trace) := ⟨trivial, proper⟩
    match found with
    | .error _ => exact spec_fail read
    | .ok none => exact spec_pure read
    | .ok (some current) =>
      apply spec_demand read
      intro _
      apply spec_ask
      rintro now _ rfl
      have clocked : Proper Permits (.clocked now :: .got output :: trace) := ⟨trivial, read⟩
      apply spec_demand clocked
      intro _
      apply spec_ask
      rintro slept _ rfl
      have woke : Proper Permits (.slept (2 * 1000000000) slept :: .clocked now ::
          .got output :: trace) := ⟨trivial, clocked⟩
      apply spec_demand woke
      intro _
      exact ih woke

theorem recordMissing_spec (proper : Proper Permits trace) :
    Spec (recordMissing binding recorded identity) (fun _ last => Proper Permits last ∧
      (last = trace ∨ ∃ record, last = .recorded record :: trace)) trace := by
  cases recorded with
  | some record => exact spec_pure ⟨proper, .inl rfl⟩
  | none =>
    apply spec_ask
    rintro written next (⟨absent, rfl⟩ | ⟨rfl, -⟩)
    · have recorded : Proper Permits (.recorded ⟨binding, identity⟩ :: trace) := ⟨absent, proper⟩
      exact spec_check recorded fun _ => ⟨recorded, .inr ⟨_, rfl⟩⟩
    · exact spec_check proper fun _ => ⟨proper, .inl rfl⟩

theorem removeNamespace_spec
    {object : NamespaceObject} {reads : Nat} (proper : Proper Permits trace)
    (running : completedOf trace = none) (durable : fenceOf trace = some fence)
    (read : .got (.object object) ∈ trace)
    (made : owned object fence = true → .made fence.nonce object.uid ∈ trace) :
    Spec (removeNamespace binding fence recorded object reads)
      (fun _ last => Proper Permits last) trace := by
  apply spec_demand proper
  intro holds
  have owns : owned object fence = true := (Bool.and_eq_true_iff.mp holds).1
  apply spec_bind (recordMissing_spec proper)
  rintro _ next ⟨kept, grown⟩
  have deletes : Spec (requestDeletion binding fence object) (fun _ last => Proper Permits last)
      next := by
    unfold requestDeletion
    split
    · exact spec_pure kept
    · rcases grown with rfl | ⟨record, rfl⟩
      · exact submitDelete_spec kept running durable read owns (made owns)
      · exact submitDelete_spec kept running durable (List.mem_cons_of_mem _ read) owns
          (List.mem_cons_of_mem _ (made owns))
  apply spec_bind deletes
  intro _ later sent
  apply spec_ask
  rintro now _ rfl
  exact awaitDeletion_spec reads ⟨trivial, sent⟩

/-! ## Sweeps -/

theorem fenceOf_fenced {trace : List Act} {fence : CreateFence}
    (durable : fenceOf trace = some fence) : .fenced fence ∈ trace := by
  induction trace with
  | nil => cases durable
  | cons act older ih =>
    cases act with
    | fenced found =>
      cases durable
      exact List.mem_cons_self
    | _ => exact List.mem_cons_of_mem _ (ih durable)

section Sweeps

variable [Runtime]

theorem sweep_spec (proper : Proper Permits trace) :
    Spec (sweep binding) (fun swept last => Proper Permits last ∧ ∃ time,
      last = .clocked time :: .got .empty :: trace ∧ swept.observedAt = Runtime.format time)
      trace := by
  apply spec_bind get_spec
  rintro found _ ⟨output, rfl, read⟩
  have kept : Proper Permits (.got output :: trace) := ⟨trivial, proper⟩
  match found, read with
  | .error _, _ | .ok (some _), _ => exact spec_fail kept
  | .ok none, read =>
    apply spec_ask
    rintro now _ rfl
    exact spec_pure ⟨⟨trivial, kept⟩, now, by rw [read.absent rfl], rfl⟩

theorem validReceipt_quiet {started completed : String} {seconds : Int} {one two : Sweep}
    {first second : Int}
    (valid : validReceipt ⟨started, completed, true, seconds, [one, two]⟩ = true)
    (before : one.observedAt = Runtime.format first)
    (after : two.observedAt = Runtime.format second) : first + quietWindow ≤ second := by
  simp only [validReceipt, Bool.and_eq_true] at valid
  have compared := valid.2
  split at compared
  · rename_i start stop early late _ _ reads shows
    rw [before] at reads
    rw [after] at shows
    have same := Runtime.parse_format reads
    have equal := Runtime.parse_format shows
    simp only [Bool.and_eq_true, decide_eq_true_eq, ge_iff_le] at compared
    have apart : quietWindow ≤ late - early := compared.1.1.1.2
    omega
  · cases compared

theorem proveAbsence_spec {started : Int} (proper : Proper Permits trace) :
    Spec (proveAbsence binding started) (fun _ last => Proper Permits last ∧ Quiet last)
      trace := by
  apply spec_bind (sweep_spec proper)
  rintro one _ ⟨kept, first, rfl, before⟩
  apply spec_ask
  rintro slept _ rfl
  have woke : Proper Permits (.slept quietWindow slept :: .clocked first :: .got .empty :: trace) :=
    ⟨trivial, kept⟩
  apply spec_demand woke
  intro whole
  cases whole
  apply spec_bind (sweep_spec woke)
  rintro two _ ⟨swept, second, rfl, after⟩
  apply spec_ask
  rintro completed _ rfl
  have clocked : Proper Permits (.clocked completed :: .clocked second :: .got .empty ::
      .slept quietWindow true :: .clocked first :: .got .empty :: trace) := ⟨trivial, swept⟩
  apply spec_demand clocked
  intro valid
  have quiet : Quiet (.clocked completed :: .clocked second :: .got .empty ::
      .slept quietWindow true :: .clocked first :: .got .empty :: trace) :=
    ⟨[.clocked completed], trace, first, second, rfl, validReceipt_quiet valid before after⟩
  apply spec_ask
  intro written next stored
  have last : Proper Permits next ∧ Quiet next := by
    rcases stored with ⟨absent, rfl⟩ | ⟨rfl, -⟩
    · exact ⟨⟨⟨absent, quiet⟩, clocked⟩, quiet.later (List.suffix_cons _ _)⟩
    · exact ⟨clocked, quiet⟩
  apply spec_demand last.1
  intro _
  exact spec_pure last

/-- `Cleanup` leaves a proper history, and returns a receipt only when the history is quiet. -/
theorem cleanup_spec {labels : Labels} {reads : Nat} (proper : Proper Permits trace) :
    Spec (cleanup binding labels reads) (fun _ last => Proper Permits last ∧ Quiet last)
      trace := by
  apply spec_demand proper
  intro _
  apply spec_ask
  intro loaded next answered
  obtain ⟨unchanged, same⟩ : next = trace ∧ ∀ fence, loaded = .ok fence → fence = fenceOf trace :=
    answered
  subst unchanged
  match loaded, same with
  | .error _, _ | .ok none, _ => exact spec_fail proper
  | .ok (some fence), same =>
    have durable : fenceOf next = some fence := (same _ rfl).symm
    apply spec_demand proper
    intro _
    apply spec_bind (readCreated_spec proper)
    rintro recorded middle ⟨unchanged, -⟩
    subst unchanged
    apply spec_bind (readCompleted_spec proper)
    rintro completed last ⟨unchanged, current⟩
    subst unchanged
    apply spec_ask
    rintro started _ rfl
    apply spec_bind get_spec
    rintro found _ ⟨output, rfl, read⟩
    have kept : Proper Permits (.got output :: .clocked started :: last) :=
      ⟨trivial, trivial, proper⟩
    match found, completed, current, read with
    | .error _, _, _, _ => exact spec_fail kept
    | .ok present, some record, current, _ =>
      have quiet := completedOf_quiet proper current.symm
      apply spec_demand kept
      intro _
      exact spec_pure ⟨kept, quiet.later ⟨[_, _], rfl⟩⟩
    | .ok none, none, _, _ => exact proveAbsence_spec kept
    | .ok (some object), none, current, read =>
      have shown : output = .object object := read.present object rfl
      have made : owned object fence = true →
          .made fence.nonce object.uid ∈ .got output :: .clocked started :: last := by
        intro owns
        have bears : object.nonce = fence.nonce := owned_nonce owns
        have drawn := fenceOf_drawn proper durable
        have truthful := read.truthful object shown
          (bears ▸ List.mem_cons_of_mem _ drawn)
        rw [bears] at truthful
        exact List.mem_cons_of_mem _ truthful
      have member : .got (.object object) ∈ .got output :: .clocked started :: last := by
        rw [shown]
        exact List.mem_cons_self
      apply spec_bind (removeNamespace_spec kept current.symm durable member made)
      intro _ later removed
      exact proveAbsence_spec removed

/-! ## All calls -/

/-- The histories of a binding: calls of `Create` and `Cleanup` follow one another, with any
labels, and each of them may be killed at any point or return. -/
inductive Reachable (binding : Binding) : List Act → Prop where
  | start : Reachable binding []
  | create {trace last : List Act} (labels : Labels) (before : Reachable binding trace)
      (called : Cut world trace (ScratchNamespace.create binding labels).run last) :
      Reachable binding last
  | cleanup {trace last : List Act} (labels : Labels) (reads : Nat)
      (before : Reachable binding trace)
      (called : Cut world trace (ScratchNamespace.cleanup binding labels reads).run last) :
      Reachable binding last

theorem Reachable.proper (reachable : Reachable binding trace) : Proper Permits trace := by
  induction reachable with
  | start => trivial
  | create labels _ called ih =>
    exact world_recorder.cut (spec_mono (create_spec ih) fun _ _ kept => kept.1) called
  | cleanup labels reads _ called ih =>
    exact world_recorder.cut (spec_mono (cleanup_spec ih) fun _ _ kept => kept.1) called

structure Safe (trace : List Act) : Prop where
  deletes : ∀ newer uid resourceVersion older,
    trace = newer ++ .asked uid resourceVersion :: older →
    ∃ fence found, .fenced fence ∈ older ∧ .got (.object found) ∈ older ∧
      found.nonce = fence.nonce ∧ found.uid = uid ∧ found.resourceVersion = resourceVersion ∧
      .made fence.nonce uid ∈ older
  created : ∀ first second, .recorded first ∈ trace → .recorded second ∈ trace →
    first.identity.uid = second.identity.uid
  ended : ∀ newer record older, trace = newer ++ .completed record :: older →
    ∀ uid resourceVersion, .asked uid resourceVersion ∉ newer

omit [Runtime] in
theorem safe_of_proper (proper : Proper Permits trace) : Safe trace where
  deletes := by
    intro newer uid resourceVersion older split
    obtain ⟨-, fence, found, durable, read, owns, same, version, made⟩ := proper.allowed split
    exact ⟨fence, found, fenceOf_fenced durable, read, owned_nonce owns, same, version, made⟩
  created := by
    intro first second one other
    have durable := createdOf_recorded proper one
    rw [createdOf_recorded proper other] at durable
    cases durable
    rfl
  ended := by
    intro newer record older split uid resourceVersion member
    obtain ⟨after, before, rfl⟩ := List.append_of_mem member
    have allowed : Permits (before ++ .completed record :: older) (.asked uid resourceVersion) :=
      proper.allowed (by rw [split, List.append_assoc, List.cons_append])
    have durable : completedOf (.completed record :: older) = some record := rfl
    exact completedOf_later durable ⟨before, rfl⟩ allowed.1

/-- Every history of `Create` and `Cleanup` calls for one binding, killed or not: a deletion is
sent only after a durable fence and for a namespace that was made with its nonce; one namespace is
recorded as created; a receipt is returned only after two reads of absence with the quiet window
between them; and after a completed cleanup no deletion is sent and `Create` does not succeed. -/
theorem scratch_safe (reachable : Reachable binding trace) :
    Safe trace ∧
    (∀ labels reads receipt last,
      Run world trace (cleanup binding labels reads).run (.ok receipt) last → Quiet last) ∧
    (∀ labels identity last record, .completed record ∈ trace →
      ¬ Run world trace (create binding labels).run (.ok identity) last) := by
  have proper := reachable.proper
  refine ⟨safe_of_proper proper, ?_, ?_⟩
  · intro labels reads receipt last run
    exact (wp_run (cleanup_spec proper) run).2
  · intro labels identity last record completed run
    have running : completedOf trace = none := (wp_run (create_spec proper) run).2
    obtain ⟨newer, older, rfl⟩ := List.append_of_mem completed
    have durable : completedOf (.completed record :: older) = some record := rfl
    exact completedOf_later durable ⟨newer, rfl⟩ running

end Sweeps

end Procedures

/-! ## A sample run -/

section Sample

def sampleTimes : List (Int × String) :=
  [(0, "a"), (30000000000, "b"), (60000000000, "c"), (90000000000, "d"), (120000000000, "e")]

abbrev sampleRuntime : Runtime where
  sha256 bytes := bytes
  format time := (sampleTimes.lookup time).getD "z"
  parse text := (sampleTimes.map Prod.swap).lookup text
  parse_format := by
    intro time parsed shown
    by_cases listed : time ∈ sampleTimes.map Prod.fst
    · revert parsed
      revert time
      decide +kernel
    · have missing : sampleTimes.lookup time = none := by
        rw [List.lookup_eq_none_iff]
        intro entry member
        have other : time ≠ entry.1 := fun same =>
          listed (same ▸ List.mem_map_of_mem member)
        simpa using other
      rw [missing] at shown
      cases shown

attribute [local instance] sampleRuntime

def sampleBinding : Binding := ⟨"drill", "scratch", String.ofList (List.replicate 64 '0')⟩

def sampleNonce : String := String.ofList (List.replicate 64 '1')

def sampleObject : NamespaceObject where
  apiVersion := "v1"
  kind := "Namespace"
  name := "scratch"
  uid := "one"
  resourceVersion := "1"
  deletionTimestamp := none
  labels := [(operationLabel, "drill")]
  annotations := [( nonceAnnotation, sampleNonce), ( scopeAnnotation, sampleBinding.scopeSHA256)]

def sampleOutput (trace : List Act) : Output :=
  if .made sampleNonce "one" ∈ trace ∧ .asked "one" "1" ∉ trace then .object sampleObject
  else .empty

def sampleWrite {α : Type} (stored : Option α) (act : Act) (trace : List Act) : Bool × List Act :=
  match stored with
  | none => (true, act :: trace)
  | some _ => (false, trace)

theorem sampleWrite_writes {α : Type} (stored : Option α) (value : α) (act : Act)
    (trace : List Act) :
    Writes stored value act trace (sampleWrite stored act trace).1
      (sampleWrite stored act trace).2 := by
  cases stored with
  | none => exact .inl ⟨rfl, rfl⟩
  | some found => exact .inr ⟨rfl, nofun⟩

def sampleCreate (manifest : Manifest) (trace : List Act) : Output × List Act :=
  if manifest.annotations.get nonceAnnotation = sampleNonce then
    (.object sampleObject, .made sampleNonce "one" :: trace)
  else (.failed, trace)

def sampleAnswer (trace : List Act) : (call : Call) → Reply call × List Act
  | .readFence => (.ok (fenceOf trace), trace)
  | .readCreated => (.ok (createdOf trace), trace)
  | .readCompleted => (.ok (completedOf trace), trace)
  | .writeFence fence => sampleWrite (fenceOf trace) (.fenced fence) trace
  | .writeCreated record => sampleWrite (createdOf trace) (.recorded record) trace
  | .writeCompleted record => sampleWrite (completedOf trace) (.completed record) trace
  | .writeIntent record => (true, .intended record :: trace)
  | .nonce => (some sampleNonce, .drew sampleNonce :: trace)
  | .get => (sampleOutput trace, .got (sampleOutput trace) :: trace)
  | .dryRun _ => (true, trace)
  | .create manifest => sampleCreate manifest trace
  | .delete uid resourceVersion => (true, .asked uid resourceVersion :: trace)
  | .now =>
    let time : Int := 30000000000 * (trace.countP fun act => act matches .clocked _)
    (time, .clocked time :: trace)
  | .sleep duration => (true, .slept duration true :: trace)

theorem sampleAnswer_admitted (trace : List Act) (call : Call) :
    world trace call (sampleAnswer trace call).1 (sampleAnswer trace call).2 := by
  cases call with
  | readFence | readCreated | readCompleted => exact ⟨rfl, fun _ same => (Except.ok.inj same).symm⟩
  | writeFence fence => exact sampleWrite_writes (fenceOf trace) fence _ trace
  | writeCreated record => exact sampleWrite_writes (createdOf trace) record _ trace
  | writeCompleted record => exact sampleWrite_writes (completedOf trace) record _ trace
  | writeIntent record => exact .inl rfl
  | nonce => exact .inr ⟨sampleNonce, rfl, rfl⟩
  | get =>
    refine ⟨rfl, fun found shown drawn => ?_⟩
    simp only [sampleAnswer, sampleOutput] at shown
    split at shown
    · rename_i present
      cases shown
      exact present.1
    · cases shown
  | dryRun | delete | now | sleep => rfl
  | create manifest =>
    have made : effect trace (.create manifest) (sampleCreate manifest trace).1
        (sampleCreate manifest trace).2 := by
      unfold sampleCreate
      split
      · rename_i same
        refine ⟨.inr ⟨"one", by rw [same]⟩, fun found shown drawn => ?_⟩
        cases shown
        exact List.mem_cons_self
      · exact ⟨.inl rfl, nofun⟩
    exact made

def sampleTrace : List Act :=
  ((cleanup sampleBinding [] 1).run.runWith sampleAnswer
    ((create sampleBinding []).run.runWith sampleAnswer []).2).2

/-- A namespace is created, deleted and swept, and the history is safe. -/
theorem scratch_safe_sample :
    Reachable sampleBinding sampleTrace ∧ .asked "one" "1" ∈ sampleTrace ∧
      completedOf sampleTrace ≠ none ∧ Safe sampleTrace := by
  have created : Reachable sampleBinding
      ((create sampleBinding []).run.runWith sampleAnswer []).2 :=
    .create [] .start (run_runWith sampleAnswer_admitted _ _).cut
  have cleaned : Reachable sampleBinding sampleTrace :=
    .cleanup [] 1 created (run_runWith sampleAnswer_admitted _ _).cut
  exact ⟨cleaned, by decide +kernel, by decide +kernel, (scratch_safe cleaned).1⟩

end Sample

end CloudRing.ScratchNamespace
