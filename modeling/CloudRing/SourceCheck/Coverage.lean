import CloudRing.SourceCheck.PrePush
import Mathlib.Data.List.Dedup

/-!
# What a push publishes is scanned

Collecting inputs only ever adds some.
-/

namespace CloudRing.SourceCheck

open Library (Ancestor Utf8.ofString Utf8.encode Utf8.decode Pattern.isLowerOrDigit
  Pattern.isSpace ensure bind_ok check_bind ensure_ok foldlM_ok exists_origin)

section Records

def Word (word : String) : Prop :=
  word ≠ "" ∧ ∀ char ∈ word.toList, Pattern.isLowerOrDigit char = true

theorem code_range {char : Char} (word : Pattern.isLowerOrDigit char = true) :
    0x61 ≤ char.toNat ∧ char.toNat ≤ 0x7A ∨ 0x30 ≤ char.toNat ∧ char.toNat ≤ 0x39 := by
  simp only [Pattern.isLowerOrDigit, Library.Pattern.isLower, Bool.or_eq_true, Bool.and_eq_true,
    decide_eq_true_eq] at word
  exact word

theorem isSpace_word {char : Char} (word : Pattern.isLowerOrDigit char = true) :
    Pattern.isSpace char = false := by
  have range := code_range word
  simp only [Pattern.isSpace, List.mem_cons, List.not_mem_nil, or_false, Bool.or_eq_false_iff,
    decide_eq_false_iff_not, Bool.and_eq_false_iff]
  omega

theorem toLower_word {char : Char} (word : Pattern.isLowerOrDigit char = true) :
    char.toLower = char := by
  have range := code_range word
  have small : ¬ (char.val ≥ 'A'.val ∧ char.val ≤ 'Z'.val) := by
    intro ⟨low, high⟩
    have above : 0x41 ≤ char.toNat := low
    have below : char.toNat ≤ 0x5A := high
    omega
  exact dif_neg small

theorem lower_word {word : String} (plain : Word word) : lower word = word := by
  have same : word.toList.map Char.toLower = word.toList := by
    conv_rhs => rw [← List.map_id word.toList]
    exact List.map_congr_left fun char listed => toLower_word (plain.2 char listed)
  rw [lower, same, String.ofList_toList]

theorem encode_no_tab {text : List Char}
    (plain : ∀ char ∈ text, Pattern.isLowerOrDigit char = true ∨ char = ' ') :
    9 ∉ Utf8.encode text := by
  intro listed
  obtain ⟨char, member, byte⟩ := List.mem_flatMap.mp listed
  have range : 0x20 ≤ char.toNat ∧ char.toNat < 0x80 := by
    obtain word | rfl := plain char member
    · have range := code_range word
      omega
    · decide
  rw [Library.Utf8.encodeRune_ascii range.2, List.mem_singleton] at byte
  have codes := congrArg UInt8.toNat byte
  rw [UInt8.toNat_ofNat'] at codes
  change 9 = char.toNat % 256 at codes
  omega

theorem splitOnP_word {word : String} (plain : Word word) :
    (word.toList.splitOnP Pattern.isSpace).filter (· ≠ []) = [word.toList] := by
  rw [List.splitOnP_eq_singleton fun char listed => isSpace_word (plain.2 char listed)]
  have some_char : word.toList ≠ [] := fun none => plain.1 (String.toList_eq_nil_iff.mp none)
  simp [some_char]

theorem fields_words {first second third : String} (one : Word first) (two : Word second)
    (three : Word third) :
    fields (Utf8.ofString (first ++ " " ++ second ++ " " ++ third)) =
      [first, second, third] := by
  have text : (first ++ " " ++ second ++ " " ++ third).toList =
      first.toList ++ ' ' :: (second.toList ++ ' ' :: third.toList) := by
    simp
  rw [fields, Utf8.ofString, Library.Utf8.decode_encode, text,
    List.splitOnP_append_cons _ _ (by decide), List.splitOnP_append_cons _ _ (by decide),
    List.filter_append, List.filter_append, splitOnP_word one, splitOnP_word two,
    splitOnP_word three]
  simp

theorem readRecord_record {entry read : TreeEntry} (printable : entry.Printable)
    (accepted : readRecord entry.record = .ok read) : read = entry := by
  obtain ⟨one, two, three⟩ : Word entry.mode ∧ Word entry.objectType ∧ Word entry.oid := by
    simpa [TreeEntry.Printable, Word] using printable
  have plain : ∀ byte ∈ Utf8.ofString (entry.mode ++ " " ++ entry.objectType ++ " " ++ entry.oid),
      decide (byte ≠ 9) = true := by
    intro byte listed
    apply decide_eq_true
    rintro rfl
    refine encode_no_tab ?_ listed
    intro char member
    simp only [String.toList_append, List.mem_append] at member
    obtain (((here | here) | here) | here) | here := member
    · exact .inl (one.2 char here)
    · exact .inr (by simpa using here)
    · exact .inl (two.2 char here)
    · exact .inr (by simpa using here)
    · exact .inl (three.2 char here)
  have header : entry.record.takeWhile (· ≠ 9) =
      Utf8.ofString (entry.mode ++ " " ++ entry.objectType ++ " " ++ entry.oid) := by
    rw [TreeEntry.record, List.takeWhile_append_of_pos plain]
    simp
  have rest : entry.record.dropWhile (· ≠ 9) = 9 :: entry.path := by
    rw [TreeEntry.record, List.dropWhile_append_of_pos plain]
    simp
  rw [readRecord, header, rest, fields_words one two three] at accepted
  dsimp only at accepted
  split at accepted
  · cases accepted
    rw [lower_word three]
  · cases accepted

end Records

section Loops

theorem foldlM_gathers {σ β : Type} {step : σ → β → Except String σ} (holds : β → σ → Prop)
    (made : ∀ state item next, step state item = .ok next → holds item next)
    (kept : ∀ state item next other, step state item = .ok next → holds other state →
      holds other next)
    {items : List β} {state last : σ} (passed : items.foldlM step state = .ok last) :
    ∀ item ∈ items, holds item last := by
  refine foldlM_ok (fun done state => ∀ item ∈ done, holds item state) ?_ passed (by simp)
  intro done item state next each taken other listed
  rw [List.mem_append, List.mem_singleton] at listed
  obtain earlier | rfl := listed
  · exact kept state item next other taken (each other earlier)
  · exact made state other next taken

theorem foldlM_keeps {σ β : Type} {step : σ → β → Except String σ} (holds : σ → Prop)
    (kept : ∀ state item next, step state item = .ok next → holds state → holds next)
    {items : List β} {state last : σ} (passed : items.foldlM step state = .ok last)
    (before : holds state) : holds last :=
  foldlM_ok (fun _ => holds) (fun _ item state next holding taken =>
    kept state item next taken holding) passed before

end Loops

section Inputs

variable {sha256Hex : List UInt8 → String} {git : Git} {graph : CommitGraph}

variable {collector next : InputCollector} {input : ScanInput} {path : List UInt8}

theorem add_inputs
    (added : collector.add input = .ok next) : next.inputs = collector.inputs ++ [input] := by
  obtain ⟨budget, -, same⟩ := bind_ok.mp added
  cases same
  rfl

theorem gitBytes_ok {operation : String} {arguments : List String} {out : List UInt8}
    (printed : gitBytes git operation arguments = .ok out) : git arguments = some out := by
  unfold gitBytes at printed
  split at printed
  · cases printed
  split at printed
  · cases printed
  · cases printed
    assumption

theorem gitMetadata_ok {operation : String} {arguments : List String} {budget after : ScanBudget}
    {out : List UInt8} (printed : gitMetadata git operation arguments budget = .ok (out, after)) :
    git arguments = some out := by
  obtain ⟨answer, read, rest⟩ := bind_ok.mp printed
  obtain ⟨spent, -, same⟩ := bind_ok.mp rest
  cases same
  exact gitBytes_ok read

theorem mapM_readRecord {entries read : List TreeEntry}
    (printable : ∀ entry ∈ entries, entry.Printable)
    (accepted : (entries.map TreeEntry.record).mapM readRecord = .ok read) : read = entries := by
  induction entries generalizing read with
  | nil =>
    cases accepted
    rfl
  | cons entry entries ih =>
    rw [List.map_cons, List.mapM_cons] at accepted
    simp only [bind_ok] at accepted
    obtain ⟨head, first, tail, later, same⟩ := accepted
    cases same
    rw [readRecord_record (printable entry List.mem_cons_self) first,
      ih (fun other listed => printable other (List.mem_cons_of_mem _ listed)) later]

theorem commitTreeEntries_ok (truthful : Truthful git graph) {commit : String}
    {budget after : ScanBudget} {entries : List TreeEntry}
    (read : commitTreeEntries git commit budget = .ok (entries, after)) :
    entries = graph.tree commit := by
  simp only [commitTreeEntries, bind_ok] at read
  obtain ⟨⟨out, spent⟩, printed, found, records, same⟩ := read
  cases same
  rw [truthful.tree commit out (gitMetadata_ok printed)] at records
  exact mapM_readRecord (graph.printable commit) records

theorem gitBlobInput_ok (truthful : Truthful git graph) {variant oid kind : String}
    (made : gitBlobInput sha256Hex git path variant oid kind = .ok input) :
    input.path = path ∧
      if (graph.content oid).length > maxReviewBytes then input.kind = "unavailable"
      else input.digest = sha256Hex (graph.content oid) ∧
        if (graph.content oid).length > maxTextBytes then input.nonTextReason = "size_limit"
        else input.data = graph.content oid := by
  obtain ⟨out, printed, made⟩ := bind_ok.mp made
  rw [truthful.size oid out (gitBytes_ok printed)] at made
  dsimp only at made
  by_cases huge : (graph.content oid).length > maxReviewBytes
  · rw [if_pos huge] at made
    cases made
    exact ⟨rfl, by rw [if_pos huge]⟩
  rw [if_neg huge] at made ⊢
  obtain ⟨⟨data, digest⟩, read, made⟩ := bind_ok.mp made
  unfold readGitBlob at read
  split at read
  · cases read
  rename_i content found
  split at read
  · cases read
  cases read
  rw [truthful.blob oid data found] at made
  dsimp only at made
  by_cases large : (graph.content oid).length > maxTextBytes
  · rw [if_pos large] at made ⊢
    cases made
    exact ⟨rfl, rfl, rfl⟩
  · rw [if_neg large] at made ⊢
    cases made
    exact ⟨rfl, rfl, rfl⟩

theorem inputFromTree_carries (truthful : Truthful git graph) {entry : TreeEntry}
    (made : inputFromTree sha256Hex git entry = .ok input) :
    Carries sha256Hex graph entry { input with variant := "commit" } := by
  unfold inputFromTree at made
  split at made
  · rename_i link
    cases made
    exact ⟨rfl, by rw [if_pos link]; exact ⟨rfl, rfl⟩⟩
  split at made
  · cases made
  · rename_i noLink _
    obtain ⟨samePath, content⟩ := gitBlobInput_ok truthful made
    refine ⟨samePath, ?_⟩
    rw [if_neg noLink]
    exact content

def Covered (sha256Hex : List UInt8 → String) (graph : CommitGraph) (inputs : List ScanInput)
    (entry : TreeEntry) : Prop := ∃ input ∈ inputs, Carries sha256Hex graph entry input

theorem scanPath_mono {tree : List TreeEntry}
    (scanned : scanPath sha256Hex git tree collector path = .ok next) :
    collector.inputs ⊆ next.inputs := by
  unfold scanPath at scanned
  split at scanned
  · cases scanned
    exact List.Subset.refl _
  · obtain ⟨input, -, added⟩ := bind_ok.mp scanned
    rw [add_inputs added]
    exact List.subset_append_left _ _

theorem scanPath_covers (truthful : Truthful git graph) {tree : List TreeEntry}
    (scanned : scanPath sha256Hex git tree collector path = .ok next) {entry : TreeEntry}
    (present : entryAt tree path = some entry) : Covered sha256Hex graph next.inputs entry := by
  unfold scanPath at scanned
  rw [present] at scanned
  obtain ⟨input, made, added⟩ := bind_ok.mp scanned
  refine ⟨{ input with variant := "commit" }, ?_, inputFromTree_carries truthful made⟩
  rw [add_inputs added]
  exact List.mem_append_right _ List.mem_cons_self

theorem scanCommit_ok (truthful : Truthful git graph)
    {commit : String} (scanned : scanCommit sha256Hex git collector commit = .ok next) :
    collector.inputs ⊆ next.inputs ∧ ∀ path entry, graph.Changes commit path →
      graph.entry commit path = some entry → Covered sha256Hex graph next.inputs entry := by
  simp only [scanCommit, bind_ok] at scanned
  obtain ⟨⟨metadata, spent⟩, -, recorded, added, ⟨out, left⟩, printed, scanned⟩ := scanned
  have grown : collector.inputs ⊆ recorded.inputs := by
    rw [add_inputs added]
    exact List.subset_append_left _ _
  have listed : ∀ path entry, graph.Changes commit path → graph.entry commit path = some entry →
      path ∈ nulStrings out := by
    intro path entry changed present
    have record := truthful.changes commit out (gitMetadata_ok printed) path changed
      (by rw [present]; rfl)
    exact List.mem_dedup.mpr ((List.mem_insertionSort _).mpr record)
  dsimp only at scanned
  by_cases unchanged : nulStrings out = []
  · rw [if_pos unchanged] at scanned
    cases scanned
    refine ⟨grown, fun path entry changed present => ?_⟩
    have member := listed path entry changed present
    rw [unchanged] at member
    contradiction
  rw [if_neg unchanged] at scanned
  obtain ⟨⟨tree, after⟩, read, scanned⟩ := bind_ok.mp scanned
  have same := commitTreeEntries_ok truthful read
  subst same
  refine ⟨?_, fun path entry changed present => ?_⟩
  · refine foldlM_keeps (fun state => collector.inputs ⊆ state.inputs) ?_ scanned grown
    intro state path next taken before
    exact List.Subset.trans before (scanPath_mono taken)
  · have each := foldlM_gathers (fun path state => ∀ entry,
      entryAt (graph.tree commit) path = some entry →
        Covered sha256Hex graph state.inputs entry) ?_ ?_ scanned
    · exact each path (listed path entry changed present) entry present
    · intro state path next taken entry present
      exact scanPath_covers truthful taken present
    · intro state path next other taken covered entry present
      obtain ⟨input, member, carries⟩ := covered entry present
      exact ⟨input, scanPath_mono taken member, carries⟩

end Inputs

section Updates

variable {sha256Hex : List UInt8 → String} {git : Git} {graph : CommitGraph}
  {remoteCommitExclusions : ScanBudget → Except String (List String × ScanBudget)}
  {options : Options}

def Enumerated (graph : CommitGraph) (ranges : List Range) (commits : List String) : Prop :=
  ∀ range ∈ ranges, ∀ commit, Ancestor graph.parents range.head commit →
    ¬ graph.Excluded range commit → commit ∈ commits

variable {next progress : Progress}

theorem addCommit_ok {commit : String} (added : addCommit progress commit = .ok next) :
    progress.commits ⊆ next.commits ∧ lower commit ∈ next.commits := by
  obtain ⟨-, added⟩ := check_bind.mp added
  split at added
  · rename_i known
    cases added
    exact ⟨List.Subset.refl _, known⟩
  · obtain ⟨budget, -, same⟩ := bind_ok.mp added
    cases same
    exact ⟨List.subset_append_left _ _, List.mem_append_right _ List.mem_cons_self⟩

theorem enumerateHistory_ok (truthful : Truthful git graph) {range : Range}
    (read : enumerateHistory git range progress = .ok next) :
    progress.commits ⊆ next.commits ∧ Enumerated graph [range] next.commits := by
  obtain ⟨⟨out, budget⟩, printed, added⟩ := bind_ok.mp read
  constructor
  · refine foldlM_keeps (fun state => progress.commits ⊆ state.commits) ?_ added
      (List.Subset.refl _)
    intro state commit after added before
    exact List.Subset.trans before (addCommit_ok added).1
  · intro other single commit reached fresh
    rw [List.mem_singleton] at single
    subst single
    obtain ⟨listed, same⟩ :=
      truthful.history other out (gitMetadata_ok printed) commit reached fresh
    have each := foldlM_gathers (fun commit state => lower commit ∈ state.commits) ?_ ?_ added
    · rw [← same]
      exact each commit listed
    · intro state commit after added
      exact (addCommit_ok added).2
    · intro state commit after other added before
      exact (addCommit_ok added).1 before

theorem exclusionsOf_commits {baseRevision : String} {exclusions : List String}
    (read : exclusionsOf git remoteCommitExclusions options baseRevision progress =
      .ok (exclusions, next)) : next.commits = progress.commits := by
  unfold exclusionsOf at read
  split at read
  · split at read
    · split at read
      · cases read
      · cases read
        rfl
    · split at read
      · cases read
        rfl
      · obtain ⟨loaded, -, same⟩ := bind_ok.mp read
        cases same
        rfl
  · split at read
    · cases read
    · cases read
      rfl

theorem readRange_ok (truthful : Truthful git graph) {update : PushUpdate}
    {range : Range}
    (read : readRange sha256Hex git remoteCommitExclusions options update progress =
      .ok (range, next)) :
    progress.commits ⊆ next.commits ∧ Enumerated graph [range] next.commits := by
  simp only [readRange, bind_ok] at read
  obtain ⟨⟨head, published⟩, -, _, -, ⟨exclusions, resolved⟩, excluded, last, enumerated, same⟩ :=
    read
  cases same
  have kept := exclusionsOf_commits excluded
  dsimp only at kept
  rw [← kept]
  exact enumerateHistory_ok truthful enumerated

theorem readUpdate_enumerated (truthful : Truthful git graph) {update : PushUpdate}
    {before after : List Range × Progress}
    (read : readUpdate sha256Hex git remoteCommitExclusions options before update = .ok after)
    (earlier : Enumerated graph before.1 before.2.commits) :
    Enumerated graph after.1 after.2.commits := by
  unfold readUpdate at read
  split at read
  · cases read
    exact earlier
  obtain ⟨⟨range, progress⟩, ranged, same⟩ := bind_ok.mp read
  cases same
  obtain ⟨grown, fresh⟩ := readRange_ok truthful ranged
  intro other listed commit reached unknown
  rw [List.mem_append] at listed
  obtain old | new := listed
  · exact grown (earlier other old commit reached unknown)
  · exact fresh other new commit reached unknown

end Updates

section Sample

def rootCommit : String := "1111111111111111111111111111111111111111"

/-- The only entry of its tree: a file `a`. -/
def hugeEntry : TreeEntry :=
  ⟨"100644", "blob", "2222222222222222222222222222222222222222", [97]⟩

def hugeGraph : CommitGraph where
  parents _ := []
  tree commit := if commit = rootCommit then [hugeEntry] else []
  content _ := List.replicate 134217729 0
  acyclic := ⟨fun commit => ⟨commit, fun _ listed => absurd listed List.not_mem_nil⟩⟩
  printable commit entry listed := by
    split at listed
    · rw [List.mem_singleton.mp listed]
      simp only [TreeEntry.Printable, ← List.all_eq_true]
      decide +kernel
    · exact absurd listed List.not_mem_nil

def hugeGit : Git := fun arguments =>
  if arguments = ["rev-parse", "--is-shallow-repository"] then some (Utf8.ofString "false\n")
  else if arguments = ["cat-file", "-t", rootCommit] then some (Utf8.ofString "commit\n")
  else if arguments = historyArguments ⟨rootCommit, []⟩ then some (Utf8.ofString rootCommit)
  else if arguments = ["cat-file", "commit", rootCommit] then some []
  else if arguments = changeArguments rootCommit then some [97, 0]
  else if arguments = treeArguments rootCommit then some (hugeEntry.record ++ [0])
  else if arguments = ["cat-file", "-s", hugeEntry.oid] then some (Utf8.ofString "134217729\n")
  else none

attribute [local simp] historyArguments changeArguments treeArguments

theorem hugeGit_truthful : Truthful hugeGit hugeGraph where
  history range out printed commit reached _ := by
    obtain ⟨head, exclusions⟩ := range
    obtain ⟨⟨rfl, rfl⟩, rfl⟩ :
        (head = rootCommit ∧ exclusions = []) ∧ Utf8.ofString rootCommit = out := by
      simpa [hugeGit] using printed
    obtain rfl | ⟨parent, listed, -⟩ := Relation.ReflTransGen.cases_head reached
    · decide +kernel
    · exact absurd listed List.not_mem_nil
  changes commit out printed path _ present := by
    obtain ⟨rfl, rfl⟩ : commit = rootCommit ∧ [97, 0] = out := by
      simpa [hugeGit] using printed
    have found : path = [97] := by
      obtain ⟨entry, here⟩ := Option.isSome_iff_exists.mp present
      have listed := List.mem_of_find?_eq_some here
      have same := List.find?_some here
      simp only [hugeGraph, if_true, List.reverse_singleton, List.mem_singleton] at listed
      subst listed
      exact (of_decide_eq_true same).symm
    rw [found]
    decide +kernel
  tree commit out printed := by
    obtain ⟨rfl, rfl⟩ : commit = rootCommit ∧ hugeEntry.record ++ [0] = out := by
      simpa [hugeGit] using printed
    decide +kernel
  size oid out printed := by
    obtain ⟨rfl, rfl⟩ : oid = hugeEntry.oid ∧ Utf8.ofString "134217729\n" = out := by
      simpa [hugeGit] using printed
    have read : readSize (Utf8.ofString "134217729\n") = some 134217729 := by decide +kernel
    rw [read, hugeGraph, List.length_replicate]
  blob oid out printed := by
    simp [hugeGit] at printed

def hugeOptions : Options where
  base := ""
  head := ""
  remoteName := ""
  remoteRefs := []
  pushUpdates := some [⟨rootCommit, "0000000000000000000000000000000000000000"⟩]

def ampleBudget : ScanBudget where
  limits := ⟨10, 1000, 10, 1000⟩

def hugeInputs : List ScanInput :=
  [{ path := Utf8.ofString "commit-metadata/00", variant := "commit-metadata" },
    { path := [97], variant := "commit", kind := "unavailable"
      data := Utf8.ofString "blob-exceeds-hard-review-limit" }]

theorem prePushInputs_huge :
    prePushInputs (fun _ => "00") hugeGit (fun budget => .ok ([], budget)) hugeOptions
      ampleBudget = .ok ([⟨rootCommit, []⟩], hugeInputs) := by
  decide +kernel

end Sample

end CloudRing.SourceCheck
