import CloudRing.Library.Directory
import CloudRing.Library.Machine
import CloudRing.Library.Path

/-!
# Publishing a new private artifact

`WriteNew` writes a temporary file, links it to its destination and removes the temporary name.
-/

namespace CloudRing.PrivateArtifact

open Library (Machine Directory)

/-- The components of `filepath.Clean(path)`, last first. A path without any is cleaned to the
root or to the working directory. -/
def clean (path : String) : List String :=
  (Library.Path.split path).foldl (Library.Path.cleanComponent (path.toList.head? = some '/')) []

/-- The errors of `WriteNew`. -/
inductive Failure where
  | path
  | untrusted
  | openDirectory
  | changed
  | destinationExists
  | temporaryName
  | create
  | write
  | sync
  | close
  | publish
  | removeTemporary
  | syncDirectory
  deriving DecidableEq, Repr

def Failure.text : Failure → String
  | path => "private artifact path is invalid"
  | untrusted => "private artifact directory is not a trusted directory"
  | openDirectory => "open private artifact directory"
  | changed => "private artifact directory changed while opening"
  | destinationExists => "private artifact destination already exists"
  | temporaryName => "generate private artifact temporary name"
  | create => "create private artifact temporary file"
  | write => "write private artifact"
  | sync => "sync private artifact"
  | close => "close private artifact"
  | publish => "publish private artifact without overwrite"
  | removeTemporary => "remove private artifact temporary link"
  | syncDirectory => "sync private artifact directory"

inductive Name (Call : Type) where
  | destination
  | temporary (call : Call)
  deriving DecidableEq

inductive File (Call : Type) where
  | existing
  | created (call : Call)
  deriving DecidableEq

inductive Removal where
  | untried
  | succeeded
  | failed
  deriving DecidableEq, Repr

inductive Phase where
  | called
  | opened
  | absent
  | created
  | written
  | synced
  | closed
  | linked
  | unlinked
  | retracting (failure : Failure)
  | cleaning (result : Except Failure Unit) (removal : Removal)
  | returned (result : Except Failure Unit) (removal : Removal)
  | crashed

structure State (Call : Type) where
  directory : Directory (Name Call) (File Call)
  phase : Call → Phase

section System

variable {Call : Type} [DecidableEq Call] (path : String) (data : Call → List UInt8)

def State.advance (state : State Call) (call : Call) (phase : Phase) : State Call :=
  { state with phase := fun other => if other = call then phase else state.phase other }

def State.change (state : State Call) (directory : Directory (Name Call) (File Call)) :
    State Call :=
  { state with directory := directory }

/-- One step of one call of `WriteNew`. -/
inductive WriteStep (call : Call) : State Call → State Call → Prop where
  | invalidPath {state : State Call} (here : state.phase call = .called)
      (nameless : clean path = []) :
      WriteStep call state (state.advance call (.returned (.error .path) .untried))
  | distrust {state : State Call} (failure : Failure) (here : state.phase call = .called)
      (named : clean path ≠ [])
      (reason : failure ∈ [Failure.untrusted, .openDirectory, .changed]) :
      WriteStep call state (state.advance call (.returned (.error failure) .untried))
  | openRoot {state : State Call} (here : state.phase call = .called)
      (named : clean path ≠ []) :
      WriteStep call state (state.advance call .opened)
  | destinationExists {state : State Call} (here : state.phase call = .opened) :
      WriteStep call state (state.advance call (.returned (.error .destinationExists) .untried))
  | destinationAbsent {state : State Call} (here : state.phase call = .opened)
      (free : state.directory.entry .destination = none) :
      WriteStep call state (state.advance call .absent)
  | createFails {state : State Call} (failure : Failure) (here : state.phase call = .absent)
      (reason : failure ∈ [Failure.temporaryName, .create]) :
      WriteStep call state (state.advance call (.returned (.error failure) .untried))
  | create {state : State Call} {next : Directory (Name Call) (File Call)}
      (here : state.phase call = .absent)
      (made : state.directory.create (.temporary call) (.created call) = some next) :
      WriteStep call state ((state.change next).advance call .created)
  | writePart {state : State Call} {file : File Call} (count : Nat)
      (here : state.phase call = .created)
      (mine : state.directory.entry (.temporary call) = some file) :
      WriteStep call state (state.change (state.directory.write file ((data call).take count)))
  | write {state : State Call} {file : File Call} (here : state.phase call = .created)
      (mine : state.directory.entry (.temporary call) = some file) :
      WriteStep call state
        ((state.change (state.directory.write file (data call))).advance call .written)
  | writeFails {state : State Call} (here : state.phase call = .created) :
      WriteStep call state (state.advance call (.cleaning (.error .write) .untried))
  | sync {state : State Call} (here : state.phase call = .written) :
      WriteStep call state (state.advance call .synced)
  | syncFails {state : State Call} (here : state.phase call = .written) :
      WriteStep call state (state.advance call (.cleaning (.error .sync) .untried))
  | close {state : State Call} (here : state.phase call = .synced) :
      WriteStep call state (state.advance call .closed)
  | closeFails {state : State Call} (here : state.phase call = .synced) :
      WriteStep call state (state.advance call (.cleaning (.error .close) .untried))
  | link {state : State Call} {next : Directory (Name Call) (File Call)}
      (here : state.phase call = .closed)
      (made : state.directory.link (.temporary call) .destination = some next) :
      WriteStep call state ((state.change next).advance call .linked)
  | linkFails {state : State Call} (here : state.phase call = .closed) :
      WriteStep call state (state.advance call (.cleaning (.error .publish) .untried))
  | removeTemporary {state : State Call} (here : state.phase call = .linked) :
      WriteStep call state
        ((state.change (state.directory.assign (.temporary call) none)).advance call .unlinked)
  | removeTemporaryFails {state : State Call} (here : state.phase call = .linked) :
      WriteStep call state (state.advance call (.retracting .removeTemporary))
  | syncDirectory {state : State Call} (here : state.phase call = .unlinked) :
      WriteStep call state (state.advance call (.cleaning (.ok ()) .untried))
  | syncDirectoryFails {state : State Call} (here : state.phase call = .unlinked) :
      WriteStep call state (state.advance call (.retracting .syncDirectory))
  | retract {state : State Call} {failure : Failure}
      (here : state.phase call = .retracting failure) :
      WriteStep call state
        ((state.change (state.directory.assign .destination none)).advance call
          (.cleaning (.error failure) .succeeded))
  | retractFails {state : State Call} {failure : Failure}
      (here : state.phase call = .retracting failure) :
      WriteStep call state (state.advance call (.cleaning (.error failure) .failed))
  | clean {state : State Call} {result : Except Failure Unit} {removal : Removal}
      (here : state.phase call = .cleaning result removal) :
      WriteStep call state
        ((state.change (state.directory.assign (.temporary call) none)).advance call
          (.returned result removal))
  | cleanFails {state : State Call} {result : Except Failure Unit} {removal : Removal}
      (here : state.phase call = .cleaning result removal) :
      WriteStep call state (state.advance call (.returned result removal))
  | crash {state : State Call}
      (running : ∀ result removal, state.phase call ≠ .returned result removal) :
      WriteStep call state (state.advance call .crashed)

/-- Concurrent calls of `WriteNew` for one path. No temporary name exists before them, and the
destination, if it exists, is a file of its own. -/
def writeMachine : Machine (State Call) Call where
  initial state := (∀ call, state.directory.entry (.temporary call) = none) ∧
    (∀ file, state.directory.entry .destination = some file → file = .existing) ∧
    ∀ call, state.phase call = .called
  step := WriteStep path data

end System

end CloudRing.PrivateArtifact
