import CloudRing.Library.Hex
import CloudRing.Library.Program

/-!
# The ownership journal of an installation

`OpenState`, `validateState`, `Save` and `discardInterruptedWrite` of the development installer's
`state.go`, as programs that ask file operations.
-/

namespace CloudRing.DevInstall

open Library

/-! ## Records -/

/-- `Object`, the exact object of an API. -/
structure Object where
  (apiVersion kind resource namespaceName name uid : String)
  deriving DecidableEq, Repr

structure OwnedObject extends Object where
  desiredSHA256 : String
  deriving DecidableEq, Repr

structure OwnedVolume where
  persistentVolume : Object
  (claimUID driver handle : String)
  backend : Object
  deriving DecidableEq, Repr

/-- `Profile`, as far as the journal reads it. -/
structure Profile where
  (installationID targetNamespace virtualMachine storageClass priorityClass remaining : String)
  deriving DecidableEq, Repr

/-- `Credentials`, as far as the journal reads them. -/
structure Credentials where
  (operatorToken databaseAdminPassword databaseOwnerPassword databaseApplicationPassword
    remaining : String)
  deriving DecidableEq, Repr

structure State where
  (apiVersion installationID ownerNonce profileSHA256 : String)
  profile : Profile
  credentials : Credentials
  createdAt : Int
  updatedAt : Int
  sequence : UInt64
  phase : String
  objects : List OwnedObject
  derivedObjects : List Object
  volumes : List OwnedVolume
  guestBootstrapped : Bool
  failureCode : String
  deriving DecidableEq, Repr

structure StateOwner where
  (apiVersion installationID ownerNonce : String)
  deriving DecidableEq, Repr

def stateSchema : String := "cloudring.development-state/v1"

def maximumStateBytes : Nat := 256 * 1024

def stateFiles : List String :=
  [".owner.json", ".lock", "state.json", "state.next", "ssh-client.key", "ssh-known-hosts",
    "api-ca.pem", "operator-token", "installer-linux-amd64", "installer.next"]

/-- The expression `hexDigest`. -/
def hexDigest (text : String) : Bool := text.toList.length = 64 && text.toList.all Hex.isDigit

inductive StoreError where
  | invalidProfile
  | notFound
  | conflict
  | mkdir
  | locked
  | entropy
  | incomplete
  | interrupted
  | encode
  | create
  | persist
  | commit
  | remove
  | directory
  | inventory
  deriving DecidableEq, Repr

/-- `Error`, except for the error of `os.Remove`. -/
def StoreError.text : StoreError → String
  | invalidProfile => "development installation profile is invalid"
  | notFound => "development installation is absent"
  | conflict => "development installation ownership conflicts with observed state"
  | mkdir => "create exclusive development state directory"
  | locked => "development installation is locked by another process"
  | entropy => "generate development installation entropy"
  | incomplete => "development state is incomplete; preserved for recovery"
  | interrupted => "unrecognized interrupted state write; preserved"
  | encode => "encode bounded development state"
  | create => "create exclusive development state file"
  | persist => "persist development state file"
  | commit => "commit development ownership journal"
  | remove => "remove state.next"
  | directory => "persist development journal directory"
  | inventory => "unrecognized development state content; preserved"

/-- `Validate` for the development profile, and `Fingerprint`. -/
class Profiles where
  validate : Profile → Bool
  fingerprint : Profile → String

/-- `json.Marshal` and `strictjson.DecodeExact` for states. -/
class StateCodec (Byte : Type) where
  marshal : State → Option (List Byte)
  decode : List Byte → Option State
  decode_marshal : ∀ {state payload}, marshal state = some payload → decode payload = some state
  decode_part : ∀ {state payload part}, marshal state = some payload → part <+: payload →
    part ≠ payload → decode part = none

/-! ## File operations -/

inductive JournalFile where
  | json
  | next
  deriving DecidableEq, Repr

inductive FileCall (Byte : Type) where
  | isPresent
  | mkdir
  | readOwner
  | writeOwner (owner : StateOwner)
  | lock
  | randomHex
  | newCredentials (profile : Profile) (now : Int)
  | now
  | read (file : JournalFile)
  | create (file : JournalFile)
  | append (file : JournalFile) (byte : Byte)
  | sync (file : JournalFile)
  | rename
  | removeNext
  | syncDirectory
  | entries

abbrev FileReply (Byte : Type) : FileCall Byte → Type
  | .isPresent | .mkdir | .writeOwner _ | .lock | .create _ | .append _ _ | .sync _ | .rename
  | .removeNext | .syncDirectory => Bool
  | .readOwner => Option StateOwner
  | .randomHex => Option String
  | .newCredentials _ _ => Option Credentials
  | .now => Int
  | .read _ => Option (List Byte)
  | .entries => List String

def askFile {Byte : Type} (call : FileCall Byte) :
    Program (FileReply Byte) (FileReply Byte call) :=
  Program.request call

/-! ## The programs -/

/-- `StateStore`, as far as its programs read it. -/
structure StateStore where
  owner : StateOwner
  state : State
  deriving DecidableEq, Repr

section Programs

variable {Byte : Type} [Profiles] [StateCodec Byte]

def validateState (owner : StateOwner) (state : State) (profile : Profile) :
    Except StoreError Unit :=
  if state.apiVersion ≠ stateSchema ∨ state.installationID ≠ profile.installationID ∨
      state.ownerNonce ≠ owner.ownerNonce ∨
      state.profileSHA256 ≠ Profiles.fingerprint profile ∨
      state.profileSHA256 ≠ Profiles.fingerprint state.profile ∨ state.sequence = 0 ∨
      !hexDigest state.credentials.operatorToken ∨
      !hexDigest state.credentials.databaseAdminPassword ∨
      !hexDigest state.credentials.databaseOwnerPassword ∨
      !hexDigest state.credentials.databaseApplicationPassword ∨
      state.phase ∉ ["prepared", "creating", "ready", "destroying"] ∨
      state.objects.length > 32 ∨ state.derivedObjects.length > 256 ∨
      state.volumes.length > 4 then
    .error .conflict
  else .ok ()

inductive ReadError where
  | notExist
  | invalid
  deriving DecidableEq, Repr

/-- The end of `readJSON`, on the content of the file. -/
def concludeRead : Option (List Byte) → Except ReadError State
  | none => .error .notExist
  | some payload =>
    if payload.length > maximumStateBytes then .error .invalid
    else match StateCodec.decode payload with
      | none => .error .invalid
      | some state => .ok state

/-- `readJSON` of a state. -/
def readState (file : JournalFile) : Program (FileReply Byte) (Except ReadError State) := do
  let content : Option (List Byte) ← askFile (.read file)
  return concludeRead content

def recognizes (store : StateStore) (pending : State) : Bool :=
  !(pending.ownerNonce ≠ store.owner.ownerNonce ||
    pending.installationID ≠ store.owner.installationID || pending.apiVersion ≠ stateSchema ||
    pending.profileSHA256 ≠ store.state.profileSHA256 ||
    pending.sequence ≠ store.state.sequence + 1)

def discardInterruptedWrite (store : StateStore) :
    Program (FileReply Byte) (Except StoreError Unit) := do
  match ← readState .next with
  | .error .notExist => return .ok ()
  | .error .invalid => return .error .interrupted
  | .ok pending =>
    if !recognizes store pending then return .error .interrupted
    else
      let removed : Bool ← askFile .removeNext
      return if removed then .ok () else .error .remove

/-- `file.Write`. -/
def writeAll (file : JournalFile) : List Byte → Program (FileReply Byte) Bool
  | [] => return true
  | byte :: payload => do
    let written : Bool ← askFile (.append file byte)
    if written then writeAll file payload else return false

/-- The end of `writeExclusiveJSON`, on the encoded state. -/
def writeExclusive (file : JournalFile) (payload : List Byte) :
    Program (FileReply Byte) (Except StoreError Unit) := do
  let created : Bool ← askFile (.create file)
  if !created then return .error .create
  else
    let written ← writeAll file payload
    let synced : Bool ← askFile (.sync file)
    return if !written || !synced then .error .persist else .ok ()

def encodeState (state : State) : Option (List Byte) :=
  match StateCodec.marshal state with
  | none => none
  | some payload => if payload.length > maximumStateBytes then none else some payload

/-- `writeExclusiveJSON` of a state. -/
def writeExclusiveJSON (file : JournalFile) (state : State) :
    Program (FileReply Byte) (Except StoreError Unit) :=
  match (encodeState state : Option (List Byte)) with
  | none => return .error .encode
  | some payload => writeExclusive file payload

/-- `guard`. -/
def guardOwner (owner : StateOwner) : Program (FileReply Byte) (Except StoreError Unit) := do
  let found : Option StateOwner ← askFile .readOwner
  return if found ≠ some owner then .error .conflict else .ok ()

def State.saved (state : State) (now : Int) : State :=
  { state with sequence := state.sequence + 1, updatedAt := now }

/-- The rename and the sync at the end of `Save`. -/
def commitState : Program (FileReply Byte) (Except StoreError Unit) := do
  let renamed : Bool ← askFile .rename
  if !renamed then return .error .commit
  else
    let synced : Bool ← askFile .syncDirectory
    return if synced then .ok () else .error .directory

/-- `Save`, with the store that it leaves. -/
def save (store : StateStore) :
    Program (FileReply Byte) (Except StoreError Unit × StateStore) := do
  match ← guardOwner store.owner with
  | .error error => return (.error error, store)
  | .ok () =>
    match ← discardInterruptedWrite store with
    | .error error => return (.error error, store)
    | .ok () =>
      let now : Int ← askFile .now
      let next := store.state.saved now
      let unchanged := { store with state := { next with sequence := store.state.sequence } }
      match ← writeExclusiveJSON .next next with
      | .error error => return (.error error, unchanged)
      | .ok () =>
        let result ← commitState
        return (result, if result = .error .commit then unchanged else { store with state := next })

def checkInventory : Program (FileReply Byte) (Except StoreError Unit) := do
  let names : List String ← askFile .entries
  return if names.all (· ∈ stateFiles) then .ok () else .error .inventory

def preparedState (profile : Profile) (nonce : String) (credentials : Credentials) (now : Int) :
    State where
  apiVersion := stateSchema
  installationID := profile.installationID
  ownerNonce := nonce
  profileSHA256 := Profiles.fingerprint profile
  profile := profile
  credentials := credentials
  createdAt := now
  updatedAt := 0
  sequence := 0
  phase := "prepared"
  objects := []
  derivedObjects := []
  volumes := []
  guestBootstrapped := false
  failureCode := ""

/-- The part of `OpenState` for a directory that it has created. -/
def prepareState (profile : Profile) :
    Program (FileReply Byte) (Except StoreError StateStore) := do
  let locked : Bool ← askFile .lock
  if !locked then return .error .locked
  else
    let nonce : Option String ← askFile .randomHex
    match nonce with
    | none => return .error .entropy
    | some nonce =>
      let owner : StateOwner := ⟨stateSchema, profile.installationID, nonce⟩
      let written : Bool ← askFile (.writeOwner owner)
      if !written then return .error .persist
      else
        let now : Int ← askFile .now
        let credentials : Option Credentials ← askFile (.newCredentials profile now)
        match credentials with
        | none => return .error .entropy
        | some credentials =>
          let created : Int ← askFile .now
          let (result, store) ← save ⟨owner, preparedState profile nonce credentials created⟩
          return result.map fun _ => store

def readJournal (owner : StateOwner) (profile : Profile) :
    Program (FileReply Byte) (Except StoreError State) := do
  match ← readState .json with
  | .ok state => return .ok state
  | .error .invalid => return .error .incomplete
  | .error .notExist =>
    match ← readState .next with
    | .error _ => return .error .incomplete
    | .ok state =>
      if state.sequence ≠ 1 || validateState owner state profile ≠ .ok () then
        return .error .incomplete
      else
        let renamed : Bool ← askFile .rename
        return if renamed then .ok state else .error .incomplete

/-- The part of `OpenState` for an existing directory. -/
def recoverState (profile : Profile) :
    Program (FileReply Byte) (Except StoreError StateStore) := do
  let found : Option StateOwner ← askFile .readOwner
  match found with
  | none => return .error .conflict
  | some owner =>
    if owner.apiVersion ≠ stateSchema || owner.installationID ≠ profile.installationID ||
        !hexDigest owner.ownerNonce then
      return .error .conflict
    else
      let locked : Bool ← askFile .lock
      if !locked then return .error .locked
      else
        match ← readJournal owner profile with
        | .error error => return .error error
        | .ok state =>
          match validateState owner state profile with
          | .error error => return .error error
          | .ok () =>
            let discarded ← discardInterruptedWrite ⟨owner, state⟩
            return discarded.map fun _ => ⟨owner, state⟩

def checkedStore (opened : Except StoreError StateStore) :
    Program (FileReply Byte) (Except StoreError StateStore) :=
  match opened with
  | .error error => return .error error
  | .ok store => do
    let checked ← checkInventory
    return checked.map fun _ => store

def openState (profile : Profile) (create : Bool) :
    Program (FileReply Byte) (Except StoreError StateStore) :=
  if !Profiles.validate profile then return .error .invalidProfile
  else do
    let isPresent : Bool ← askFile .isPresent
    if isPresent then
      let opened ← recoverState profile
      checkedStore opened
    else if !create then return .error .notFound
    else
      let made : Bool ← askFile .mkdir
      if !made then return .error .mkdir
      else
        let opened ← prepareState profile
        checkedStore opened

end Programs

end CloudRing.DevInstall
