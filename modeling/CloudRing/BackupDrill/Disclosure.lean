import CloudRing.BackupDrill.Runs
import CloudRing.Library.Json.Leaves
import Mathlib.Data.List.Infix

/-!
# What an adapter may disclose

The adapter is passed values of the operator's environment.
-/

namespace CloudRing.BackupDrill

open Library

/-- A variable that is passed to the adapter, as `PinAdapterWithEnvironmentNames` accepts it. -/
structure Variable where
  (name value : String)
  plain : '=' ∉ name.toList
  given : value ≠ ""

def Variable.entry (given : Variable) : List Char := given.name.toList ++ '=' :: given.value.toList

/-- What `strings.Cut` leaves after the first equals sign. -/
def cut (entry : List Char) : List Char := (entry.dropWhile (· ≠ '=')).drop 1

def encodedString (value : List Char) : List UInt8 :=
  Utf8.encode (value.flatMap Json.goStyle.escape)

def containsEnvironmentValue (environment : List Variable) (output : List UInt8) : Bool :=
  environment.any fun given =>
    Utf8.encode (cut given.entry) <:+: output || encodedString (cut given.entry) <:+: output

def forbiddenMaterial : List String :=
  ["\"password\"", "\"token\"", "\"secret\"", "\"authorization\"", "\"cookie\"",
    "-----begin private key-----", "-----begin rsa private key-----"]

/-- What the adapter's process leaves to `invoke`. -/
structure Outputs where
  (stdout stderr : List UInt8)
  toLower : List UInt8 → List UInt8
  decode : List UInt8 → Option AdapterResponse

def containsSecretLookingMaterial (toLower : List UInt8 → List UInt8) (value : List UInt8) : Bool :=
  forbiddenMaterial.any fun forbidden => Utf8.ofString forbidden <:+: toLower value

/-- The part of `invoke` after the adapter was run, unless the run failed. -/
def conclude [Runtime] (environment : List Variable) (request : AdapterRequest) :
    Option Outputs → Invocation
  | none => ⟨none, .error "backup drill adapter execution failed"⟩
  | some outputs =>
    let emitted : Invocation :=
      ⟨none, .error "backup drill adapter emitted forbidden credential-like material"⟩
    if containsEnvironmentValue environment outputs.stdout ||
        containsEnvironmentValue environment outputs.stderr ||
        containsSecretLookingMaterial outputs.toLower outputs.stdout ||
        containsSecretLookingMaterial outputs.toLower outputs.stderr then emitted
    else match outputs.decode outputs.stdout with
      | none => ⟨none, .error "backup drill adapter response is invalid JSON"⟩
      | some response =>
        if containsEnvironmentValue environment (Json.goStyle.bytes response.json) then emitted
        else ⟨some response, validateAdapterResponse request response⟩

def Evidence.strings (value : Evidence) : List String := [value.ref, value.sha256]

def TargetResult.strings (value : TargetResult) : List String :=
  [value.kind, value.sourceChecksumSHA256, value.restoredChecksumSHA256, value.evidenceRef,
    value.evidenceSHA256]

def RestoreObservation.strings (value : RestoreObservation) : List String :=
  [value.restoreName, value.restoreScopeSHA256, value.sourceNamespace, value.destinationNamespace,
    value.destinationScopeSHA256, value.evidenceRef, value.evidenceSHA256]

def AdapterResponse.strings (response : AdapterResponse) : List String :=
  [response.schemaVersion, response.protocolVersion, response.operationID, response.step,
    response.requestSHA256, response.adapterExecutableSHA256, response.status] ++
    response.evidence.strings ++ response.restoreObservations.flatMap RestoreObservation.strings ++
    response.targets.flatMap TargetResult.strings ++
    response.isolationEvidence.elim [] Evidence.strings ++
    response.cleanupEvidence.elim [] Evidence.strings ++
    [response.objectLockDeleteDenialReceiptSHA256, response.aggregateProofArtifactSHA256,
      response.aggregateProofPathToken, response.responseSHA256]

theorem cut_entry (given : Variable) : cut given.entry = given.value.toList := by
  have skipped : ∀ name : List Char, '=' ∉ name → ∀ rest,
      ((name ++ '=' :: rest).dropWhile (· ≠ '=')) = '=' :: rest := by
    intro name plain rest
    induction name with
    | nil => simp
    | cons first name ih =>
      rw [List.mem_cons, not_or] at plain
      rw [List.cons_append, List.dropWhile_cons_of_pos (by simpa using Ne.symm plain.1)]
      exact ih plain.2
  rw [cut, Variable.entry, skipped _ given.plain]
  rfl

theorem encodedString_inside {part whole : List Char} (inside : part <:+: whole) :
    encodedString part <:+: encodedString whole := by
  obtain ⟨before, after, rfl⟩ := inside
  exact ⟨encodedString before, encodedString after, by simp [encodedString, Utf8.encode]⟩

section Leaves

variable {text : String}

theorem leaves_textMembers (members : List (String × String)) :
    Json.leavesMembers (textMembers members) = members.map Prod.snd := by
  rw [Json.leavesMembers_eq, textMembers, List.flatMap_map]
  exact List.flatMap_pure_eq_map _ members

theorem mem_leaves_optionalText (nonempty : text ≠ "") (key value : String) :
    text ∈ Json.leavesMembers (optionalText key value) ↔ text = value := by
  unfold optionalText
  split
  · rename_i empty
    simp [Json.leavesMembers, empty, nonempty]
  · simp [Json.leavesMembers, Json.leaves]

theorem leaves_optionalList (key : String) (items : List Json) :
    Json.leavesMembers (optionalList key items) = items.flatMap Json.leaves := by
  unfold optionalList
  split
  · rename_i empty
    rw [empty]
    rfl
  · rw [Json.leavesMembers, Json.leavesMembers, List.append_nil, Json.leaves, Json.leavesItems_eq]

theorem leaves_optionalEvidence (key : String) (evidence : Option Evidence) :
    Json.leavesMembers (evidence.elim [] fun evidence => [(key, evidence.json)]) =
      evidence.elim [] Evidence.strings := by
  cases evidence <;> rfl

theorem strings_leaves {response : AdapterResponse} (nonempty : text ≠ "")
    (listed : text ∈ response.strings) : text ∈ Json.leaves response.json := by
  have evidence : Json.leaves response.evidence.json = response.evidence.strings := rfl
  have observations :
      (response.restoreObservations.map RestoreObservation.json).flatMap Json.leaves =
      response.restoreObservations.flatMap RestoreObservation.strings := by
    rw [List.flatMap_map]
    rfl
  have targets : (response.targets.map TargetResult.json).flatMap Json.leaves =
      response.targets.flatMap TargetResult.strings := by
    rw [List.flatMap_map]
    rfl
  simp only [AdapterResponse.json, Json.leaves, Json.leavesMembers_append, leaves_textMembers,
    leaves_optionalList, leaves_optionalEvidence, observations, targets, List.mem_append,
    mem_leaves_optionalText nonempty, Json.leavesMembers, evidence]
  simp only [AdapterResponse.strings, List.mem_append] at listed
  simp only [List.map_cons, List.map_nil, List.mem_cons, List.not_mem_nil, or_false, false_or,
    or_assoc] at listed ⊢
  exact listed

end Leaves

section Disclosure

variable [Runtime]

theorem conclude_cases (environment : List Variable) (request : AdapterRequest)
    (outputs : Option Outputs) :
    (∃ message, conclude environment request outputs = ⟨none, .error message⟩) ∨
      ∃ response, conclude environment request outputs =
          ⟨some response, validateAdapterResponse request response⟩ ∧
        containsEnvironmentValue environment (Json.goStyle.bytes response.json) = false := by
  cases outputs with
  | none => exact .inl ⟨_, rfl⟩
  | some outputs =>
    unfold conclude
    dsimp only
    split
    · exact .inl ⟨_, rfl⟩
    split
    · exact .inl ⟨_, rfl⟩
    split
    · exact .inl ⟨_, rfl⟩
    · rename_i clean
      exact .inr ⟨_, rfl, Bool.eq_false_iff.mpr clean⟩

theorem conclude_answered (environment : List Variable) (request : AdapterRequest)
    (outputs : Option Outputs) :
    ∃ reply, (answered request reply).response = (conclude environment request outputs).response ∧
      (answered request reply).outcome.isOk =
        (conclude environment request outputs).outcome.isOk := by
  rcases conclude_cases environment request outputs with ⟨message, same⟩ | ⟨response, same, -⟩
  · rw [same]
    exact ⟨none, rfl, rfl⟩
  · rw [same]
    exact ⟨some response, rfl, rfl⟩

/-- No string of a response that `invoke` returns, with or without an error, or that a rollback then
records in the journal, contains a value that was passed to the adapter. -/
theorem conclude_hides (environment : List Variable) (request : AdapterRequest)
    (outputs : Option Outputs) {response : AdapterResponse}
    (kept : (conclude environment request outputs).response = some response ∨
      recordedResponse request (conclude environment request outputs).response = some response) :
    ∀ text ∈ response.strings, ∀ given ∈ environment,
      ¬given.value.toList <:+: text.toList := by
  have returned : (conclude environment request outputs).response = some response := by
    rcases kept with returned | recorded
    · exact returned
    · exact (Option.filter_eq_some_iff.mp recorded).1
  have clean : containsEnvironmentValue environment (Json.goStyle.bytes response.json) = false := by
    rcases conclude_cases environment request outputs with ⟨message, same⟩ | ⟨found, same, clean⟩
    · rw [same] at returned
      cases returned
    · rw [same] at returned
      obtain rfl := Option.some.inj returned
      exact clean
  intro text listed given member inside
  have nonempty : text ≠ "" := by
    rintro rfl
    have nothing := List.eq_nil_of_infix_nil inside
    exact given.given (String.toList_eq_nil_iff.mp nothing)
  obtain ⟨before, after, rendered⟩ :=
    Json.render_leaf Json.goStyle response.json (strings_leaves nonempty listed)
  have found : encodedString (cut given.entry) <:+: Json.goStyle.bytes response.json := by
    rw [cut_entry]
    refine (encodedString_inside inside).trans ⟨Utf8.encode before, Utf8.encode after, ?_⟩
    rw [encodedString, Json.Style.bytes, ← rendered]
    simp [Utf8.encode]
  rw [containsEnvironmentValue, List.any_eq_false] at clean
  exact clean given member (by simp [found])

end Disclosure

def shortResponse : AdapterResponse where
  schemaVersion := adapterResponseVersion
  protocolVersion := adapterProtocolVersion
  operationID := ""
  step := "preflight"
  requestSHA256 := ""
  adapterExecutableSHA256 := ""
  status := "completed"
  mutated := false
  evidence := ⟨"a<b", ""⟩
  restoreObservations := []
  targets := []
  isolationEvidence := none
  cleanupEvidence := none
  objectLockDeleteDenialReceiptSHA256 := ""
  aggregateProofArtifactSHA256 := ""
  aggregateProofPathToken := ""
  responseSHA256 := ""

theorem conclude_hides_short :
    let given : Variable := ⟨"KEY", "b<a", by decide, by decide⟩
    let outputs : Outputs := ⟨[], [], id, fun _ => some shortResponse⟩
    let request :=
      @newAdapterRequest plainRuntime (samplePlan "one") .empty "preflight" "preflight" ""
    (@conclude plainRuntime [given] request (some outputs)).response = some shortResponse ∧
      ∀ text ∈ shortResponse.strings, ¬"b<a".toList <:+: text.toList := by
  intro given outputs request
  have returned : (@conclude plainRuntime [given] request (some outputs)).response =
      some shortResponse := by
    have clean : containsEnvironmentValue [given] (Json.goStyle.bytes shortResponse.json) =
        false := by
      decide +kernel
    have silent : containsEnvironmentValue [given] [] = false := by decide +kernel
    have plain : containsSecretLookingMaterial id [] = false := by decide +kernel
    simp [conclude, outputs, silent, plain, clean]
  refine ⟨returned, fun text listed => ?_⟩
  exact @conclude_hides plainRuntime [given] request (some outputs) shortResponse
    (.inl returned) text listed given (List.mem_singleton_self given)

end CloudRing.BackupDrill
