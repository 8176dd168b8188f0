import CloudRing.RestoreProof.Validate

/-!
# An accepted receipt certifies no deletion of a source

The two inventories of a receipt are never compared directly.
-/

namespace CloudRing.RestoreProof

open Library

/-! ## The inventories -/

def sourceKinds : List String := ["persistentvolumeclaims", "persistentvolumes"]

def targetKinds : List String :=
  ["persistentvolumeclaims", "persistentvolumes", "datadownloads.velero.io", "configmaps"]

structure SoundContext (context : VolumeRestoreContext) : Prop where
  mapping : ∃ source target, context.namespaceMapping = [(source, target)] ∧ source ≠ target ∧
    target ≠ ""
  sources : (context.cleanup.sourceResources.map SourceResource.resource).Perm sourceKinds
  targets : (context.cleanup.targetResources.map TargetResource.resource).Perm targetKinds
  places : ∀ target ∈ context.cleanup.targetResources,
    target.resource ≠ "persistentvolumes" → target.namespaceName ≠ ""

theorem validName_ne_empty {value : String} (valid : validName value = true) : value ≠ "" := by
  simp only [validName, Bool.and_eq_true] at valid
  exact Pattern.bracketed_ne_empty valid.2

variable {kinds : List String} {last : InventoryState} {resources : List TargetResource}

theorem inventory_perm {β : Type} {kind : β → String} {items : List β}
    {step : InventoryState → β → Except String InventoryState}
    (takes : ∀ state item next, step state item = .ok next →
      kind item ∈ state.expected ∧ next.expected = state.expected.erase (kind item))
    (passed : items.foldlM step { expected := kinds } = .ok last) :
    (items.map kind ++ last.expected).Perm kinds := by
  refine foldlM_ok (fun done (state : InventoryState) =>
    (done.map kind ++ state.expected).Perm kinds) ?_ passed (List.Perm.refl kinds)
  intro done item state next holds taken
  obtain ⟨member, left⟩ := takes state item next taken
  rw [List.map_append, List.map_singleton, left, List.append_assoc, List.singleton_append]
  exact (List.Perm.append_left _ (List.perm_cons_erase member).symm).trans holds

theorem checkSources_ok {baseline : SourceResource} {resources : List SourceResource}
    (passed : resources.foldlM (checkSource baseline) { expected := kinds } = .ok last) :
    (resources.map SourceResource.resource ++ last.expected).Perm kinds := by
  refine inventory_perm (fun state resource next taken => ?_) passed
  obtain ⟨checked, taken⟩ := check_bind.mp taken
  simp only [ensure_ok, Bool.and_eq_true, decide_eq_true_eq] at checked
  cases taken
  exact ⟨checked.1.1.1.1.1.1.1.1.1.1, rfl⟩

theorem checkTargets_ok (passed : resources.foldlM checkTarget { expected := kinds } = .ok last) :
    (resources.map TargetResource.resource ++ last.expected).Perm kinds := by
  refine inventory_perm (fun state resource next taken => ?_) passed
  obtain ⟨checked, taken⟩ := check_bind.mp taken
  simp only [ensure_ok, Bool.and_eq_true, decide_eq_true_eq] at checked
  cases taken
  exact ⟨checked.1.1.1.1.1.1.1.1, rfl⟩

theorem checkTargets_places {state : InventoryState}
    (passed : resources.foldlM checkTarget state = .ok last) :
    ∀ target ∈ resources, target.resource ≠ "persistentvolumes" → target.namespaceName ≠ "" := by
  refine foldlM_each ?_ passed
  intro state resource next taken isOther
  obtain ⟨checked, -⟩ := check_bind.mp taken
  simp only [ensure_ok, Bool.and_eq_true, decide_eq_true_eq] at checked
  have placed := checked.1.1.1.1.1.2
  simp only [ne_eq, isOther, not_false_eq_true, decide_true, Bool.true_and, Bool.not_not] at placed
  exact validName_ne_empty placed

section Inventories

variable {context : VolumeRestoreContext}

theorem SoundContext.source_unique (sound : SoundContext context) {source other : SourceResource}
    (member : source ∈ context.cleanup.sourceResources)
    (member' : other ∈ context.cleanup.sourceResources) (same : source.resource = other.resource) :
    source = other :=
  List.inj_on_of_nodup_map (sound.sources.nodup_iff.mpr (by decide)) member member' same

theorem SoundContext.target_unique (sound : SoundContext context) {target other : TargetResource}
    (member : target ∈ context.cleanup.targetResources)
    (member' : other ∈ context.cleanup.targetResources) (same : target.resource = other.resource) :
    target = other :=
  List.inj_on_of_nodup_map (sound.targets.nodup_iff.mpr (by decide)) member member' same

theorem SoundContext.mapped_ne (sound : SoundContext context) {source : String}
    (found : context.mapped source ≠ "") : context.mapped source ≠ source := by
  obtain ⟨from', to', whole, differ, -⟩ := sound.mapping
  rw [VolumeRestoreContext.mapped, whole] at found ⊢
  by_cases same : source = from'
  · rw [same]
    simpa using differ.symm
  · have other : (source == from') = false := by simpa using same
    simp [List.lookup_cons, other] at found

end Inventories

theorem containsTarget_some {target : TargetResource}
    (contained : containsTarget resources (some target) = true) : target ∈ resources := by
  simpa [containsTarget] using contained

theorem containsSource_some {resources : List SourceResource} {source : SourceResource}
    (contained : containsSource resources (some source) = true) : source ∈ resources := by
  simpa [containsSource] using contained

section Context

variable [Platform]

variable {backend : BackendArtifactLineage} {context : VolumeRestoreContext} {probe : DataProbe}
  {source : SourceResource}

theorem validateContext_ok (passed : validateContext context = .ok ()) : SoundContext context := by
  simp only [validateContext, bind_ok] at passed
  obtain ⟨_, parent, _, -, _, mapping, _, -, sources, checkedSources, _, bound, targets,
    checkedTargets, _, complete, -⟩ := passed
  simp only [ensure_ok, Bool.and_eq_true, List.isEmpty_iff] at bound complete
  refine ⟨?_, ?_, ?_, checkTargets_places checkedTargets⟩
  · obtain ⟨single, -⟩ := check_bind.mp parent
    simp only [ensure_ok, Bool.and_eq_true, decide_eq_true_eq] at single
    obtain ⟨⟨source, target⟩, whole⟩ := List.length_eq_one_iff.mp single.1.1.1.2
    have pair := forEach_ok.mp mapping (source, target) (by rw [whole]; exact List.mem_cons_self)
    simp only [ensure_ok, Bool.and_eq_true, decide_eq_true_eq] at pair
    exact ⟨source, target, whole, pair.2, validName_ne_empty pair.1.2⟩
  · have kinds := checkSources_ok checkedSources
    rwa [bound.2, List.append_nil] at kinds
  · have kinds := checkTargets_ok checkedTargets
    rwa [complete, List.append_nil] at kinds

/-! ## The claims -/

structure SoundProbe (context : VolumeRestoreContext) (probe : DataProbe) : Prop where
  claims : ∃ source ∈ context.cleanup.sourceResources,
    ∃ target ∈ context.cleanup.targetResources,
      source.resource = "persistentvolumeclaims" ∧ target.resource = "persistentvolumeclaims" ∧
      context.mapped source.namespaceName = target.namespaceName ∧
      source.uidSHA256 ≠ target.uidSHA256
  volume : ∀ target, probe.targetPV = some target → target.resource = "persistentvolumes"

theorem validateProbe_ok
    (passed : validateProbe context probe = .ok ()) : SoundProbe context probe := by
  simp only [validateProbe, check_bind] at passed
  obtain ⟨-, linked, -⟩ := passed
  simp only [ensure_ok, Bool.and_eq_true, Option.any_eq_true, decide_eq_true_eq, ne_eq,
    decide_not, Bool.not_eq_true', decide_eq_false_iff_not, and_assoc] at linked
  obtain ⟨containsS, containsT, -, source, isSource, target, isTarget, volume, isVolume,
    isClaim, isClaim', isPV, -, -, mapped, -, differ, -⟩ := linked
  rw [isSource] at containsS
  rw [isTarget] at containsT
  refine ⟨⟨source, containsSource_some containsS, target, containsTarget_some containsT, isClaim,
    isClaim', mapped, differ⟩, ?_⟩
  intro other found
  rw [isVolume] at found
  cases found
  exact isPV

theorem validateProbes_some {probes : List DataProbe}
    {state : ProbeState} (passed : validateProbes context probes = .ok state) :
    probes ≠ [] ∧ ∀ probe ∈ probes, SoundProbe context probe := by
  simp only [validateProbes, bind_ok] at passed
  obtain ⟨_, counted, last, looped, -⟩ := passed
  simp only [ensure_ok, Bool.and_eq_true, decide_eq_true_eq] at counted
  refine ⟨?_, foldlM_each (fun state probe next taken =>
    validateProbe_ok (check_bind.mp taken).1) looped⟩
  rintro rfl
  exact counted.1.1.1 counted.1.1.2.symm

/-! ## The volumes and their artifacts -/

structure SoundBackend (context : VolumeRestoreContext) (backend : BackendArtifactLineage) :
    Prop where
  volumes : ∃ source ∈ context.cleanup.sourceResources,
    ∃ target ∈ context.cleanup.targetResources,
      backend.sourcePV = some source ∧ backend.targetPV = some target ∧
      source.resource = "persistentvolumes" ∧ source.name ≠ target.name ∧
      source.uidSHA256 ≠ target.uidSHA256
  handles : backend.sourceArtifactHandleSHA256 ≠ backend.artifactHandleSHA256
  absent : backend.absenceObservations.length = 2

theorem checkLineage_ok
    (passed : checkLineage context backend = .ok ()) : SoundBackend context backend := by
  simp only [checkLineage, ensure_ok, Bool.and_eq_true, Option.any_eq_true, decide_eq_true_eq,
    ne_eq, decide_not, Bool.not_eq_true', decide_eq_false_iff_not, and_assoc] at passed
  obtain ⟨-, -, -, -, -, -, -, -, containsT, -, containsS, ⟨source, isSource, isPV, -, target,
    isTarget, names, identities⟩, -, handles, -, absent, -⟩ := passed
  rw [isSource] at containsS
  rw [isTarget] at containsT
  exact ⟨⟨source, containsSource_some containsS, target, containsTarget_some containsT, isSource,
    isTarget, isPV, names, identities⟩, handles, absent⟩

theorem checkAbsences_ok {presence : ProviderObservation} {state last : AbsenceState}
    {observations : List ProviderObservation}
    (passed : observations.foldlM (checkAbsence context backend presence) state = .ok last) :
    ∀ observation ∈ observations, instant observation.observedAt ≤ last.previous := by
  refine foldlM_ok (fun done state => ∀ observation ∈ done,
    instant observation.observedAt ≤ state.previous) ?_ passed (List.forall_mem_nil _)
  intro done item state next holds taken observation member
  obtain ⟨checked, taken⟩ := check_bind.mp taken
  simp only [ensure_ok, Bool.and_eq_true, decide_eq_true_eq] at checked
  cases taken
  rcases List.mem_append.mp member with earlier | this
  · exact (holds observation earlier).trans checked.1.1.1.2.le
  · rw [List.mem_singleton.mp this]

def SourceContinues (backend : BackendArtifactLineage) : Prop :=
  ∃ observation, backend.sourcePresenceObservation = some observation ∧
    observation.status = "present" ∧
    observation.artifactHandleSHA256 = backend.sourceArtifactHandleSHA256 ∧
    ∀ absence ∈ backend.absenceObservations,
      instant absence.observedAt < instant observation.observedAt

theorem validateBackend_ok (passed : validateBackend context backend = .ok ()) :
    SoundBackend context backend ∧ SourceContinues backend := by
  simp only [validateBackend, bind_ok, require_ok] at passed
  obtain ⟨_, lineage, _, -, presence, -, _, -, last, looped, observation, found, passed⟩ := passed
  simp only [ensure_ok, Bool.and_eq_true, decide_eq_true_eq, validProviderObservation] at passed
  refine ⟨checkLineage_ok lineage, observation, found, ?_, ?_, ?_⟩
  · exact passed.1.1.1.1.1.2.1.1.1.1.1.1.1
  · exact passed.1.1.1.1.1.2.1.1.1.1.1.1.2
  · intro absence member
    exact (checkAbsences_ok looped absence member).trans_lt passed.1.1.1.2

theorem validateBackends_ok {probes : List DataProbe} {backends : List BackendArtifactLineage}
    (passed : validateBackends context probes backends = .ok ()) :
    backends.length = probes.length ∧
      ∀ backend ∈ backends, SoundBackend context backend ∧ SourceContinues backend ∧
        ∃ probe ∈ probes, backend.targetPV = probe.targetPV := by
  simp only [validateBackends, bind_ok] at passed
  obtain ⟨_, counted, last, looped, -⟩ := passed
  refine ⟨by simpa using counted, foldlM_each ?_ looped⟩
  intro state backend next taken
  simp only [checkBackend, check_bind] at taken
  obtain ⟨linked, valid, -⟩ := taken
  obtain ⟨sound, continues⟩ := validateBackend_ok valid
  refine ⟨sound, continues, ?_⟩
  simp only [ensure_ok, Bool.and_eq_true] at linked
  cases found : List.lookup (targetIdentity backend.derivedFrom)
      (probes.map fun probe => (targetIdentity probe.targetPV, probe)).reverse with
  | none =>
    rw [found] at linked
    cases linked.1.1
  | some probe =>
    simp only [found, Option.any_some, Bool.and_eq_true, decide_eq_true_eq] at linked
    obtain ⟨other, member, same⟩ :=
      List.mem_map.mp (List.mem_reverse.mp (mem_of_lookup found))
    obtain ⟨-, rfl⟩ := Prod.mk.inj same
    exact ⟨other, member, linked.1.1.1.2⟩

/-! ## The receipt -/

structure SparesSources (receipt : VolumeReceipt) : Prop where
  sources : (receipt.context.cleanup.sourceResources.map SourceResource.resource).Perm sourceKinds
  targets : (receipt.context.cleanup.targetResources.map TargetResource.resource).Perm targetKinds
  disjoint : ∀ target ∈ receipt.context.cleanup.targetResources,
    ∀ source ∈ receipt.context.cleanup.sourceResources,
      ¬(target.resource = source.resource ∧ target.namespaceName = source.namespaceName ∧
        target.name = source.name)
  identities : ∀ target ∈ receipt.context.cleanup.targetResources,
    ∀ source ∈ receipt.context.cleanup.sourceResources,
      target.resource = source.resource → target.uidSHA256 ≠ source.uidSHA256
  artifacts : receipt.lineage.backendArtifacts ≠ []
  handles : ∀ backend ∈ receipt.lineage.backendArtifacts,
    backend.artifactHandleSHA256 ≠ backend.sourceArtifactHandleSHA256
  continues : ∀ backend ∈ receipt.lineage.backendArtifacts,
    backend.absenceObservations.length = 2 ∧ SourceContinues backend

/-- Two objects of one kind, one from each inventory, have different unique identifiers, and are
in different namespaces or have different names. -/
def Apart (target : TargetResource) (source : SourceResource) : Prop :=
  target.uidSHA256 ≠ source.uidSHA256 ∧
    (target.namespaceName ≠ source.namespaceName ∨ target.name ≠ source.name)

omit [Platform] in
theorem SoundProbe.claims_apart (sound : SoundContext context) (linked : SoundProbe context probe)
    {target : TargetResource}
    (isTarget : target ∈ context.cleanup.targetResources)
    (isSource : source ∈ context.cleanup.sourceResources)
    (claim : target.resource = "persistentvolumeclaims")
    (same : target.resource = source.resource) : Apart target source := by
  obtain ⟨source', member, target', member', claim', claim'', mapped, differ⟩ := linked.claims
  have equalSource := sound.source_unique isSource member (by rw [← same, claim, claim'])
  have equalTarget := sound.target_unique isTarget member' (by rw [claim, claim''])
  subst equalSource equalTarget
  refine ⟨differ.symm, .inl ?_⟩
  have placed : context.mapped source.namespaceName ≠ "" := by
    rw [mapped]
    exact sound.places target isTarget (by rw [claim]; decide)
  rw [← mapped]
  exact sound.mapped_ne placed

omit [Platform] in
theorem SoundBackend.volumes_apart (sound : SoundContext context)
    (probed : SoundProbe context probe) (linked : SoundBackend context backend)
    (restored : backend.targetPV = probe.targetPV)
    {target : TargetResource}
    (isTarget : target ∈ context.cleanup.targetResources)
    (isSource : source ∈ context.cleanup.sourceResources)
    (volume : target.resource = "persistentvolumes")
    (same : target.resource = source.resource) : Apart target source := by
  obtain ⟨source', member, target', member', -, found, volume', names, differ⟩ := linked.volumes
  have volume'' := probed.volume target' (restored.symm.trans found)
  have equalSource := sound.source_unique isSource member (by rw [← same, volume, volume'])
  have equalTarget := sound.target_unique isTarget member' (by rw [volume, volume''])
  subst equalSource equalTarget
  exact ⟨differ.symm, .inr names.symm⟩

omit [Platform] in
theorem SoundContext.source_kind (sound : SoundContext context)
    (member : source ∈ context.cleanup.sourceResources) :
    source.resource = "persistentvolumeclaims" ∨ source.resource = "persistentvolumes" := by
  have kind := sound.sources.mem_iff.mp (List.mem_map_of_mem member)
  simpa [sourceKinds] using kind

theorem validateLineage_ok {lineage : DataLineage}
    (passed : validateCSIDataMoverVolumeLineage context lineage = .ok ()) :
    SoundContext context ∧
      (∀ target ∈ context.cleanup.targetResources, ∀ source ∈ context.cleanup.sourceResources,
        target.resource = source.resource → Apart target source) ∧
      lineage.backendArtifacts ≠ [] ∧
      ∀ backend ∈ lineage.backendArtifacts, SoundBackend context backend ∧
        SourceContinues backend := by
  simp only [validateCSIDataMoverVolumeLineage, bind_ok] at passed
  obtain ⟨_, checked, _, -, state, probed, _, -, _, -, _, backed, -⟩ := passed
  have sound := validateContext_ok checked
  obtain ⟨some, probes⟩ := validateProbes_some probed
  obtain ⟨counted, backends⟩ := validateBackends_ok backed
  have artifacts : lineage.backendArtifacts ≠ [] := by
    rw [← List.length_pos_iff] at some ⊢
    omega
  refine ⟨sound, ?_, artifacts, fun backend member =>
    ⟨(backends backend member).1, (backends backend member).2.1⟩⟩
  intro target isTarget source isSource same
  rcases sound.source_kind isSource with claim | volume
  · obtain ⟨probe, member⟩ := List.exists_mem_of_ne_nil _ some
    exact (probes probe member).claims_apart sound isTarget isSource (same.trans claim) same
  · obtain ⟨backend, member⟩ := List.exists_mem_of_ne_nil _ artifacts
    obtain ⟨linked, -, probe, isProbe, restored⟩ := backends backend member
    exact linked.volumes_apart sound (probes probe isProbe) restored isTarget isSource
      (same.trans volume) same

/-- An accepted receipt never certifies the deletion of a source object. -/
theorem accepted_sparesSources {receipt : VolumeReceipt}
    (accepted : validateCSIDataMoverVolumeReceipt receipt = .ok ()) : SparesSources receipt := by
  simp only [validateCSIDataMoverVolumeReceipt, check_bind] at accepted
  obtain ⟨-, -, -, lineage, -⟩ := accepted
  obtain ⟨sound, apart, artifacts, backends⟩ := validateLineage_ok lineage
  refine ⟨sound.sources, sound.targets, ?_, ?_, artifacts, ?_, ?_⟩
  · rintro target isTarget source isSource ⟨kind, place, name⟩
    rcases (apart target isTarget source isSource kind).2 with otherPlace | otherName
    · exact otherPlace place
    · exact otherName name
  · intro target isTarget source isSource kind
    exact (apart target isTarget source isSource kind).1
  · intro backend member
    exact (backends backend member).1.handles.symm
  · intro backend member
    exact ⟨(backends backend member).1.absent, (backends backend member).2⟩

end Context

/-! ## A receipt that is accepted -/

section Sample

def sampleDigest (char : Char) : String := String.ofList (List.replicate 64 char)

abbrev tickPlatform : Platform where
  parseTime text := text.toList.head?.map fun char => char.toNat * (10 * Instant.second)
  formatTime time := String.singleton (Char.ofNat (time / (10 * Instant.second)).toNat)
  parseDuration _ := some Instant.minute
  sha256 _ := sampleDigest '0'
  veleroRuntimeEvidenceSHA256 _ := sampleDigest '0'
  sourceBaselineEvidenceSHA256 _ := sampleDigest '0'
  probeSetSHA256 _ := sampleDigest '0'
  aggregateDataSHA256 _ := sampleDigest '0'
  dataDownloadEvidenceSHA256 _ := sampleDigest '0'
  backendLineageSHA256 _ _ := sampleDigest '0'
  providerAbsenceQuerySHA256 _ := sampleDigest '0'
  providerSourceContinuityQuerySHA256 _ := sampleDigest '0'
  providerObservationSHA256 _ request _ _ _ := request
  backendEvidenceSHA256 _ := sampleDigest '0'
  providerAbsenceSetSHA256 _ := sampleDigest '0'
  dataLineageEvidenceSHA256 _ := sampleDigest '0'
  dataUploadEvidenceSHA256 _ := sampleDigest '0'
  dataUploadResultEvidenceSHA256 _ := sampleDigest '0'
  receiptSHA256 _ := sampleDigest '0'

attribute [local instance] tickPlatform

def sampleSource (resource namespaceName name : String) : SourceResource :=
  ⟨resource, namespaceName, name, sampleDigest '0', sampleDigest '0', sampleDigest '0',
    sampleDigest '0', sampleDigest '0'⟩

def sampleTarget (resource namespaceName name : String) : TargetResource :=
  ⟨resource, namespaceName, name, sampleDigest '1', sampleDigest '1', sampleDigest '1'⟩

def sourceClaim : SourceResource := sampleSource "persistentvolumeclaims" "shop" "data"

def sourceVolume : SourceResource := sampleSource "persistentvolumes" "" "pv-one"

def targetClaim : TargetResource := sampleTarget "persistentvolumeclaims" "restored" "data"

def targetVolume : TargetResource := sampleTarget "persistentvolumes" "" "pv-two"

def targetDownload : TargetResource := sampleTarget "datadownloads.velero.io" "velero" "download"

def targetResult : TargetResource := sampleTarget "configmaps" "velero" "upload-result"

def sampleContext : VolumeRestoreContext :=
  ⟨"velero", "restore", sampleDigest '0', sampleDigest '0', "backup", sampleDigest '0',
    sampleDigest '0', "default", "b", [("shop", "restored")], "c", "d", "1m", "", "", "",
    ⟨baselineSchemaVersion, "b", sourceClaim, "ref", sampleDigest '0'⟩, ⟨"e", "e", "f", "i",
    [targetResult, targetDownload, targetClaim, targetVolume], [targetResult], [sourceClaim,
    sourceVolume]⟩⟩

def sampleProbe : DataProbe :=
  ⟨"verified", "probe", "v1", sampleDigest '0', sampleDigest '0', coreV1PVCGVR, some sourceClaim,
    coreV1PVCGVR, some targetClaim, some targetVolume, "pv-one", "pv-two", "sha256",
    sampleDigest '0', sampleDigest '0', 1, "d", "e", 10000, "ref", sampleDigest '0'⟩

def sampleHelper : AsyncHelper :=
  ⟨dataDownloadGVR, some targetDownload, sampleDigest '0', sampleDigest '0', "restore",
    sampleDigest '0', "Completed", "c", "d", 1, 1, sampleDigest '0', some targetClaim,
    some sourceClaim, some ⟨"data", "", "restored", some targetVolume, "default", "velero",
    sampleDigest '0', "shop", "", false, "1m", "linux", 1, sampleDigest '0', some targetResult,
    sampleDigest '0', sampleDigest '0', sampleDigest '0'⟩, "ref", sampleDigest '0'⟩

def sampleObservation (status handle observedAt request : String) : ProviderObservation :=
  ⟨status, handle, observedAt, request, sampleDigest '0', sampleDigest '0', request, "ref",
    sampleDigest '0'⟩

def sampleBackend : BackendArtifactLineage :=
  ⟨"deleted-and-absent", "provider", "v1", sampleDigest '1', "persistent-volume", some targetVolume,
    some targetClaim, some targetVolume, some sourceVolume, sampleDigest '0', sampleDigest '0', "f",
    some (sampleObservation "present" (sampleDigest '1') "e" (sampleDigest '0')),
    [sampleObservation "absent" (sampleDigest '1') "g" (sampleDigest '1'),
    sampleObservation "absent" (sampleDigest '1') "h" (sampleDigest '2')],
    some (sampleObservation "present" (sampleDigest '0') "i" (sampleDigest '3')), "ref",
    sampleDigest '0'⟩

def sampleUpload : DataUploadProof :=
  ⟨dataUploadGVR, "velero", "upload", sampleDigest '0', sampleDigest '0', sampleDigest '0',
    "backup", sampleDigest '0', sampleDigest '0', coreV1PVCGVR, some sourceClaim, "CSI",
    sampleDigest '0', sampleDigest '0', "", "driver", "default", "velero", "", sampleDigest '0',
    "1m", "Completed", "", "a", "b", sampleDigest '0', "linux", "", 1, 1, sampleDigest '0', "i",
    "ref", sampleDigest '0'⟩

def sampleUploadResult : DataUploadResultProof :=
  ⟨"generated-consumed-velero-cleaned", coreV1CMGVR, some targetResult, sampleDigest '0', "upload",
    sampleDigest '0', sampleDigest '0', sampleDigest '0', sampleDigest '0', "shop.data",
    "DataUpload", some sourceClaim, "default", "velero", sampleDigest '0', "shop", 1, "linux", "",
    sampleDigest '0', "e", "e", "ref", sampleDigest '0'⟩

def sampleReceipt : VolumeReceipt :=
  ⟨receiptSchemaVersion, scopeSingleVolumeDataPath, supportedVeleroVersion,
    ⟨veleroV1ServerStatusRequestGVR,
    some (sampleTarget "serverstatusrequests.velero.io" "velero" "status"), supportedVeleroVersion,
    "Processed", "e", "e", "ref", sampleDigest '0'⟩, "i", sampleContext, ⟨"verified",
    methodCSIDataMover, [sampleProbe], sampleDigest '0', sampleDigest '0', 1, [sampleHelper],
    [sampleBackend], sampleDigest '0', "ref", sampleDigest '0'⟩, sampleUpload, sampleUploadResult,
    sampleDigest '0'⟩

/-- The receipt of one volume is accepted, and spares its sources. -/
theorem accepted_sparesSources_sample :
    validateCSIDataMoverVolumeReceipt sampleReceipt = .ok () ∧ SparesSources sampleReceipt := by
  have context : validateContext sampleContext = .ok () := isOk_iff.mp (by decide +kernel)
  have lineage : validateCSIDataMoverVolumeLineage sampleContext sampleReceipt.lineage = .ok () :=
    check_bind.mpr ⟨context, isOk_iff.mp (by decide +kernel)⟩
  have accepted : validateCSIDataMoverVolumeReceipt sampleReceipt = .ok () := by
    unfold validateCSIDataMoverVolumeReceipt
    simp only [check_bind]
    refine ⟨?_, context, ?_, lineage, ?_, ?_, ?_⟩ <;> exact isOk_iff.mp (by decide +kernel)
  exact ⟨accepted, accepted_sparesSources accepted⟩

end Sample

end CloudRing.RestoreProof
