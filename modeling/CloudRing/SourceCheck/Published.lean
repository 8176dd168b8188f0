import CloudRing.Library.Check
import CloudRing.Library.Pattern
import CloudRing.Library.Utf8

/-!
# Published objects

What a scan collects, the budget it keeps to, and how the object of a push is followed through
annotated tags to its commit.
-/

namespace CloudRing.SourceCheck

open Library.Pattern (trimSpace)
open Library (Utf8.ofString Utf8.decode Pattern.isHexDigit Pattern.isSpace ensure)

abbrev Git := List String → Option (List UInt8)

/-- `scanInput`, with Go's zero values. -/
structure ScanInput where
  path : List UInt8
  variant : String := ""
  data : List UInt8 := []
  digest : String := ""
  kind : String := ""
  nonTextReason : String := ""
  gitlinkState : String := ""
  deriving DecidableEq

structure ResourceLimits where
  (inputCount capturedBytes commitCount metadataBytes : Nat)

structure ScanBudget where
  limits : ResourceLimits
  inputCount : Nat := 0
  capturedBytes : Nat := 0
  commitCount : Nat := 0
  metadataBytes : Nat := 0

structure InputCollector where
  inputs : List ScanInput
  budget : ScanBudget

def consumeInput (budget : ScanBudget) (input : ScanInput) : Except String ScanBudget :=
  let size := input.path.length + input.variant.utf8ByteSize + input.data.length
  if budget.inputCount ≥ budget.limits.inputCount ||
      budget.capturedBytes + size > budget.limits.capturedBytes then
    .error "aggregate source input exceeds the source-safety budget"
  else .ok { budget with
    inputCount := budget.inputCount + 1, capturedBytes := budget.capturedBytes + size }

def consumeCommit (budget : ScanBudget) : Except String ScanBudget :=
  if budget.commitCount ≥ budget.limits.commitCount then
    .error "pre-push history exceeds the source-safety commit budget"
  else .ok { budget with commitCount := budget.commitCount + 1 }

def consumeMetadata (budget : ScanBudget) (size : Nat) : Except String ScanBudget :=
  if budget.metadataBytes + size > budget.limits.metadataBytes then
    .error "aggregate Git metadata exceeds the source-safety budget"
  else .ok { budget with metadataBytes := budget.metadataBytes + size }

/-- `add` for one input. -/
def InputCollector.add (collector : InputCollector) (input : ScanInput) :
    Except String InputCollector := do
  let budget ← consumeInput collector.budget input
  return ⟨collector.inputs ++ [input], budget⟩

def maxGitMetadataBytes : Nat := 32 * 1024 * 1024

def gitBytes (git : Git) (operation : String) (arguments : List String) :
    Except String (List UInt8) :=
  match git arguments with
  | none => .error (operation ++ " failed")
  | some out =>
    if out.length > maxGitMetadataBytes then
      .error "Git metadata output exceeds the source-safety limit"
    else .ok out

/-- `gitBytes`, and `consumeMetadata` of what was printed. -/
def gitMetadata (git : Git) (operation : String) (arguments : List String)
    (budget : ScanBudget) : Except String (List UInt8 × ScanBudget) := do
  let out ← gitBytes git operation arguments
  let budget ← consumeMetadata budget out.length
  return (out, budget)

def fields (out : List UInt8) : List String :=
  (((Utf8.decode out).splitOnP Pattern.isSpace).filter (· ≠ [])).map String.ofList

/-- `strings.ToLower`, for ASCII texts. -/
def lower (text : String) : String := String.ofList (text.toList.map Char.toLower)

def allZero (value : String) : Bool := value ≠ "" && value.toList.all (· = '0')

def isZeroOID (value : String) : Bool :=
  (value.utf8ByteSize = 40 || value.utf8ByteSize = 64) && allZero value

def validObjectID (value : String) : Bool :=
  (value.utf8ByteSize = 40 || value.utf8ByteSize = 64) &&
    value.toList.all fun char => Pattern.isHexDigit char.toLower

structure PublishedObject where
  objectType : String
  data : List UInt8

structure Published where
  collector : InputCollector
  objectCache : List (String × PublishedObject)
  scannedTags : List String

def badRevision (revision : String) : Bool :=
  revision = "" || Char.ofNat 0 ∈ revision.toList || revision.toList.head? = some '-'

def resolveObject (git : Git) (revision : String) (budget : ScanBudget) :
    Except String (String × ScanBudget) := do
  let revision := trimSpace revision
  ensure "invalid revision" (!badRevision revision)
  if validObjectID revision && !allZero revision then return (lower revision, budget)
  let (out, budget) ← gitMetadata git "resolve object"
    ["rev-parse", "--verify", "--end-of-options", revision] budget
  match fields out with
  | [object] =>
    ensure "Git returned an invalid object identity" (validObjectID object && !allZero object)
    return (lower object, budget)
  | _ => .error "Git returned an invalid object identity"

def resolveCommit (git : Git) (revision : String) : Except String String := do
  ensure "invalid revision" (!badRevision revision)
  let out ← gitBytes git "resolve commit"
    ["rev-parse", "--verify", "--end-of-options", revision ++ "^\x7bcommit\x7d"]
  let commit := trimSpace (String.ofList (Utf8.decode out))
  ensure "Git returned an invalid commit identity" (validObjectID commit && !allZero commit)
  return lower commit

def inspectPublishedObject (git : Git) (oid : String) (published : Published) :
    Except String (PublishedObject × Published) := do
  ensure "invalid published object identity" (validObjectID oid && !allZero oid)
  let oid := lower oid
  match published.objectCache.lookup oid with
  | some object => return (object, published)
  | none =>
    let (out, budget) ← gitMetadata git "inspect published object type" ["cat-file", "-t", oid]
      published.collector.budget
    match fields out with
    | [objectType] =>
      let (data, budget) ← if objectType = "tag" then
          gitMetadata git "read annotated tag metadata" ["cat-file", "tag", oid] budget
        else .ok ([], budget)
      let object := ⟨objectType, data⟩
      return (object, { published with
        collector := { published.collector with budget }
        objectCache := (oid, object) :: published.objectCache })
    | _ => .error "Git returned an invalid object type"

def headerOf : List UInt8 → Option (List UInt8)
  | [] => none
  | [_] => none
  | first :: second :: rest =>
    if first = 10 && second = 10 then some []
    else (headerOf (second :: rest)).map (first :: ·)

def maxAnnotatedTagHeaderLineBytes : Nat := 4 * 1024

/-- `annotatedTagTarget`: the target and its type. -/
def annotatedTagTarget (metadata : List UInt8) : Except String (String × String) :=
  match (headerOf metadata).map (·.splitOn 10) with
  | some (objectLine :: typeLine :: tagLine :: _) =>
    if [objectLine, typeLine, tagLine].any (·.length > maxAnnotatedTagHeaderLineBytes) then
      .error "annotated tag header exceeds the source-safety limit"
    else
      match fields objectLine, fields typeLine, fields tagLine with
      | ["object", target], ["type", targetType], "tag" :: _ :: _ =>
        if !validObjectID target || allZero target then
          .error "annotated tag contains invalid metadata"
        else if targetType ∈ ["commit", "tag", "tree", "blob"] then .ok (lower target, targetType)
        else .error "annotated tag contains an unsupported target type"
      | _, _, _ => .error "annotated tag contains invalid metadata"
  | _ => .error "annotated tag contains invalid metadata"

def maxAnnotatedTagDepth : Nat := 64

section Walk

variable {σ : Type} (inspect : String → σ → Except String (PublishedObject × σ))
  (consumeTag : String → List UInt8 → σ → Except String σ)

/-- The loop of `walkPublishedObject`, with the number of tags that it may still follow. -/
def walkFrom : Nat → List String → String → String → σ → Except String (String × σ)
  | left, visited, expectedType, current, state => do
    ensure "annotated tag contains an invalid target identity"
      (validObjectID current && !allZero current)
    ensure "annotated tag chain contains a cycle" (current ∉ visited)
    let (object, state) ← inspect current state
    ensure "annotated tag target type does not match the target object"
      (expectedType = "" || object.objectType = expectedType)
    match object.objectType, left with
    | "commit", _ => return (current, state)
    | "tag", 0 => .error "annotated tag chain exceeds the source-safety depth limit"
    | "tag", left + 1 =>
      let (target, targetType) ← annotatedTagTarget object.data
      let state ← consumeTag current object.data state
      walkFrom left (current :: visited) targetType target state
    | _, _ => .error "pre-push update references an unsupported Git object type"

def walkPublishedObject (start : String) (state : σ) : Except String (String × σ) :=
  walkFrom inspect consumeTag maxAnnotatedTagDepth [] "" (lower start) state

end Walk

/-- `consumeTag` of `resolvePublishedHead`. -/
def consumeTag (sha256Hex : List UInt8 → String) (oid : String) (metadata : List UInt8)
    (published : Published) : Except String Published := do
  if oid ∈ published.scannedTags then return published
  let collector ← published.collector.add {
    path := Utf8.ofString ("tag-metadata/" ++ sha256Hex (Utf8.ofString (lower oid)))
    variant := "tag-metadata"
    data := metadata }
  return { published with collector, scannedTags := oid :: published.scannedTags }

def resolvePublishedHead (sha256Hex : List UInt8 → String) (git : Git) (revision : String)
    (published : Published) : Except String (String × Published) :=
  match resolveObject git revision published.collector.budget with
  | .error _ => .error "resolve pre-push object failed"
  | .ok (start, budget) =>
    walkPublishedObject (inspectPublishedObject git) (consumeTag sha256Hex) start
      { published with collector := { published.collector with budget } }

end CloudRing.SourceCheck
