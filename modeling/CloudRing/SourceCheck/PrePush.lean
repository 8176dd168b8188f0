import CloudRing.Library.Ancestry
import CloudRing.SourceCheck.Published
import Mathlib.Data.List.Sort
import Mathlib.Data.Nat.Digits.Defs

/-!
# The inputs of a push

`prePushInputs` enumerates the commits that a push publishes and collects the files at the paths
that Git reports as changed; the model also returns the head and the exclusions of every update.
-/

namespace CloudRing.SourceCheck

open Library.Pattern (trimSpace)
open Library (Ancestor Utf8.ofString Utf8.decode Pattern.isLowerOrDigit Pattern.isSpace ensure
  bind_ok check_bind ensure_ok foldlM_ok)

structure PushUpdate where
  (localOID remoteOID : String)

structure Options where
  (base head remoteName : String)
  remoteRefs : List String
  pushUpdates : Option (List PushUpdate)

structure Range where
  head : String
  exclusions : List String
  deriving DecidableEq

structure Progress where
  published : Published
  commits : List String
  remoteExclusions : Option (List String)

def Progress.budget (progress : Progress) : ScanBudget := progress.published.collector.budget

def Progress.spend (progress : Progress) (budget : ScanBudget) : Progress :=
  { progress with published := { progress.published with
    collector := { progress.published.collector with budget } } }

structure TreeEntry where
  (mode objectType oid : String)
  path : List UInt8
  deriving DecidableEq

def validGitMode (mode : String) : Bool := mode ∈ ["100644", "100755", "120000", "160000"]

def validGitPath (path : List UInt8) : Bool :=
  path ≠ [] && 0 ∉ path && path.head? ≠ some 47 &&
    (path.splitOn 47).all fun part => part ∉ [[], [46], [46, 46]]

def nulRecords (output : List UInt8) : List (List UInt8) := (output.splitOn 0).filter (· ≠ [])

/-- `nulStrings`: in order and without repetitions. -/
def nulStrings (output : List UInt8) : List (List UInt8) :=
  ((nulRecords output).insertionSort (· ≤ ·)).dedup

def readRecord (record : List UInt8) : Except String TreeEntry :=
  match fields (record.takeWhile (· ≠ 9)), record.dropWhile (· ≠ 9) with
  | [mode, objectType, oid], _ :: path =>
    if validGitMode mode && validObjectID oid && validGitPath path then
      .ok ⟨mode, objectType, lower oid, path⟩
    else .error "Git tree contains invalid metadata"
  | _, _ => .error "Git tree contains invalid metadata"

def treeArguments (commit : String) : List String := ["ls-tree", "-r", "-z", "--full-tree", commit]

/-- `commitTreeEntries`: the entries in the order in which they are put into the map. -/
def commitTreeEntries (git : Git) (commit : String) (budget : ScanBudget) :
    Except String (List TreeEntry × ScanBudget) := do
  let (out, budget) ← gitMetadata git "read commit tree" (treeArguments commit) budget
  let entries ← (nulRecords out).mapM readRecord
  return (entries, budget)

def entryAt (entries : List TreeEntry) (path : List UInt8) : Option TreeEntry :=
  entries.reverse.find? (·.path = path)

def maxTextBytes : Nat := 4 * 1024 * 1024

def maxReviewBytes : Nat := 128 * 1024 * 1024

def readDigits (digits : List Char) : Option Nat :=
  if digits ≠ [] && digits.all Char.isDigit && Nat.ofDigitChars 10 digits 0 < 2 ^ 63 then
    some (Nat.ofDigitChars 10 digits 0)
  else none

/-- `strconv.ParseInt` of the trimmed text, when it is not negative. -/
def readSize (out : List UInt8) : Option Nat :=
  match (trimSpace (String.ofList (Utf8.decode out))).toList with
  | '+' :: digits => readDigits digits
  | '-' :: digits => (readDigits digits).filter (· = 0)
  | digits => readDigits digits

section PrePush

variable (sha256Hex : List UInt8 → String) (git : Git)

/-- `readGitBlob`: the content and its digest. -/
def readGitBlob (oid : String) (expectedSize : Nat) : Except String (List UInt8 × String) :=
  match git ["cat-file", "blob", oid] with
  | none => .error "read Git blob stream failed"
  | some content =>
    if content.length ≠ expectedSize then .error "read Git blob stream failed"
    else .ok (content, sha256Hex content)

def gitBlobInput (path : List UInt8) (variant oid kind : String) : Except String ScanInput := do
  let out ← gitBytes git "inspect Git blob size" ["cat-file", "-s", oid]
  match readSize out with
  | none => .error "Git returned an invalid blob size"
  | some size =>
    if size > maxReviewBytes then
      return { path, variant, kind := "unavailable"
               data := Utf8.ofString "blob-exceeds-hard-review-limit" }
    let (data, digest) ← readGitBlob sha256Hex git oid size
    if size > maxTextBytes then
      return { path, variant, digest, kind := "non_text", nonTextReason := "size_limit" }
    return { path, variant, data, digest, kind }

def TreeEntry.isGitlink (entry : TreeEntry) : Bool :=
  entry.mode = "160000" && entry.objectType = "commit"

def inputFromTree (entry : TreeEntry) : Except String ScanInput :=
  if entry.isGitlink then
    .ok { path := entry.path, data := Utf8.ofString entry.oid, kind := "gitlink"
          gitlinkState := "commit" }
  else if entry.objectType ≠ "blob" then .error "Git tree contains an unsupported object type"
  else gitBlobInput sha256Hex git entry.path "" entry.oid
    (if entry.mode = "120000" then "symlink" else "text")

def historyArguments (range : Range) : List String :=
  ["rev-list", range.head] ++
    if range.exclusions = [] then [] else "--not" :: range.exclusions

def addCommit (progress : Progress) (commit : String) : Except String Progress := do
  ensure "Git returned an invalid history object identity" (validObjectID commit)
  if lower commit ∈ progress.commits then return progress
  let budget ← consumeCommit progress.budget
  return { progress.spend budget with commits := progress.commits ++ [lower commit] }

def enumerateHistory (range : Range) (progress : Progress) : Except String Progress := do
  let (out, budget) ← gitMetadata git "enumerate pre-push history" (historyArguments range)
    progress.budget
  (fields out).foldlM addCommit (progress.spend budget)

variable (remoteCommitExclusions : ScanBudget → Except String (List String × ScanBudget))
  (options : Options)

def exclusionsOf (baseRevision : String) (progress : Progress) :
    Except String (List String × Progress) :=
  if isZeroOID baseRevision then
    if options.remoteName = "" then
      if options.remoteRefs.length ≠ 0 then
        .error "exact remote refs require a verified target remote"
      else .ok ([], progress)
    else
      match progress.remoteExclusions with
      | some loaded => .ok (loaded, progress)
      | none => do
        let (loaded, budget) ← remoteCommitExclusions progress.budget
        return (loaded, { progress.spend budget with remoteExclusions := some loaded })
  else
    match resolveCommit git baseRevision with
    | .error _ => .error "resolve pre-push base failed"
    | .ok base => .ok ([base], progress)

def PushUpdate.headRevision (update : PushUpdate) : String :=
  let revision := trimSpace update.localOID
  if revision = "" then "HEAD" else revision

def readRange (update : PushUpdate) (progress : Progress) : Except String (Range × Progress) := do
  let (head, published) ← resolvePublishedHead sha256Hex git update.headRevision progress.published
  ensure "pre-push update is missing a remote object identity" (trimSpace update.remoteOID ≠ "")
  let (exclusions, progress) ← exclusionsOf git remoteCommitExclusions options
    (trimSpace update.remoteOID) { progress with published }
  let progress ← enumerateHistory git ⟨head, exclusions⟩ progress
  return (⟨head, exclusions⟩, progress)

def readUpdate (before : List Range × Progress) (update : PushUpdate) :
    Except String (List Range × Progress) :=
  if isZeroOID update.headRevision then .ok before
  else do
    let (range, progress) ← readRange sha256Hex git remoteCommitExclusions options update before.2
    return (before.1 ++ [range], progress)

def commitMetadataInput (commit : String) (budget : ScanBudget) :
    Except String (ScanInput × ScanBudget) := do
  ensure "invalid commit object identity" (validObjectID commit && !allZero commit)
  let (data, budget) ← gitMetadata git "read commit metadata" ["cat-file", "commit", commit] budget
  return ({ path := Utf8.ofString ("commit-metadata/" ++ sha256Hex (Utf8.ofString (lower commit)))
            variant := "commit-metadata", data }, budget)

def scanPath (tree : List TreeEntry) (collector : InputCollector) (path : List UInt8) :
    Except String InputCollector :=
  match entryAt tree path with
  | none => .ok collector
  | some entry => do
    let input ← inputFromTree sha256Hex git entry
    collector.add { input with variant := "commit" }

def changeArguments (commit : String) : List String :=
  ["diff-tree", "--no-ext-diff", "-m", "--root", "--no-commit-id", "--name-only", "-z", "-r",
    "--diff-filter=ACMRTUXB", commit]

def scanCommit (collector : InputCollector) (commit : String) : Except String InputCollector := do
  let (metadata, budget) ← commitMetadataInput sha256Hex git commit collector.budget
  let collector ← InputCollector.add { collector with budget } metadata
  let (out, budget) ← gitMetadata git "enumerate commit changes" (changeArguments commit)
    collector.budget
  if nulStrings out = [] then return { collector with budget }
  let (tree, budget) ← commitTreeEntries git commit budget
  (nulStrings out).foldlM (scanPath sha256Hex git tree) { collector with budget }

def updatesOf : Except String (List PushUpdate) :=
  match options.pushUpdates with
  | some updates => .ok updates
  | none =>
    if trimSpace options.base = "" then .error "pre-push scope requires --base"
    else .ok [⟨options.head, options.base⟩]

def prePushInputs (budget : ScanBudget) : Except String (List Range × List ScanInput) := do
  let (shallow, budget) ← gitMetadata git "inspect repository history completeness"
    ["rev-parse", "--is-shallow-repository"] budget
  ensure "pre-push source-safety requires complete non-shallow history"
    (trimSpace (String.ofList (Utf8.decode shallow)) = "false")
  let updates ← updatesOf options
  let (ranges, progress) ← updates.foldlM
    (readUpdate sha256Hex git remoteCommitExclusions options)
    ([], ⟨⟨⟨[], budget⟩, [], []⟩, [], none⟩)
  let collector ← (progress.commits.insertionSort (· ≤ ·)).foldlM (scanCommit sha256Hex git)
    progress.published.collector
  return (ranges, collector.inputs)

end PrePush

def TreeEntry.Printable (entry : TreeEntry) : Prop :=
  ∀ word ∈ [entry.mode, entry.objectType, entry.oid],
    word ≠ "" ∧ ∀ char ∈ word.toList, Pattern.isLowerOrDigit char = true

def TreeEntry.record (entry : TreeEntry) : List UInt8 :=
  Utf8.ofString (entry.mode ++ " " ++ entry.objectType ++ " " ++ entry.oid) ++ 9 :: entry.path

structure CommitGraph where
  parents : String → List String
  tree : String → List TreeEntry
  content : String → List UInt8
  acyclic : WellFounded fun parent child => parent ∈ parents child
  printable : ∀ commit, ∀ entry ∈ tree commit, entry.Printable

def CommitGraph.entry (graph : CommitGraph) (commit : String) (path : List UInt8) :
    Option TreeEntry := entryAt (graph.tree commit) path

def CommitGraph.Changes (graph : CommitGraph) (commit : String) (path : List UInt8) : Prop :=
  graph.parents commit = [] ∨
    ∃ parent ∈ graph.parents commit, graph.entry parent path ≠ graph.entry commit path

def CommitGraph.Excluded (graph : CommitGraph) (range : Range) (commit : String) : Prop :=
  ∃ exclusion ∈ range.exclusions, Ancestor graph.parents exclusion commit

structure Truthful (git : Git) (graph : CommitGraph) : Prop where
  history : ∀ range out, git (historyArguments range) = some out → ∀ commit,
    Ancestor graph.parents range.head commit → ¬ graph.Excluded range commit →
      commit ∈ fields out ∧ lower commit = commit
  changes : ∀ commit out, git (changeArguments commit) = some out → ∀ path,
    graph.Changes commit path → (graph.entry commit path).isSome → path ∈ nulRecords out
  tree : ∀ commit out, git (treeArguments commit) = some out →
    nulRecords out = (graph.tree commit).map TreeEntry.record
  size : ∀ oid out, git ["cat-file", "-s", oid] = some out →
    readSize out = some (graph.content oid).length
  blob : ∀ oid out, git ["cat-file", "blob", oid] = some out → out = graph.content oid

/-- An input stands for an entry: it has the path, and the content of the object as far as the
limits let it be captured. -/
def Carries (sha256Hex : List UInt8 → String) (graph : CommitGraph) (entry : TreeEntry)
    (input : ScanInput) : Prop :=
  let content := graph.content entry.oid
  input.path = entry.path ∧
    if entry.isGitlink then input.kind = "gitlink" ∧ input.data = Utf8.ofString entry.oid
    else if content.length > maxReviewBytes then input.kind = "unavailable"
    else input.digest = sha256Hex content ∧
      if content.length > maxTextBytes then input.nonTextReason = "size_limit"
      else input.data = content

end CloudRing.SourceCheck
