import CloudRing.ControlPlane.Installation

/-!
# Operator sessions

`createSession`, `loadSession` and `revokeSession` of the control plane's `state.go`, as programs of
servers that share one compare-and-swap record, one clock and a source of random tokens.
-/

namespace CloudRing.ControlPlane

open Library

/-! ## Records and calls -/

structure SessionState where
  schemaVersion : Int
  (installationID operatorID tokenSHA256 : String)
  createdAt : Int
  expiresAt : Int
  revoked : Bool
  deriving DecidableEq, Repr

/-- `sessionLifetime`, half an hour. -/
def sessionLifetime : Int := 30 * 60 * 1000000000

/-- `operatorTokenPattern`. -/
def operatorToken (token : String) : Bool :=
  token.toList.length = 64 && token.toList.all Hex.isDigit

/-- The errors of `loadSession`. -/
inductive SessionError where
  | invalid
  | store (error : LoadError)
  deriving DecidableEq

inductive SessionCall (Body : Type) where
  | now
  | random
  | load
  | save (expected : Nat) (body : Body)

def SessionReply (Body : Type) : SessionCall Body → Type
  | .now => Int
  | .random => Option String
  | .load => Except LoadError (Versioned Body)
  | .save _ _ => Except SaveError (Versioned Body)

def askSession {Body : Type} (call : SessionCall Body) :
    Program (SessionReply Body) (SessionReply Body call) :=
  Program.request call

section Programs

variable {Body : Type} [Digest] [Encoding SessionState Body]

/-! ## The programs -/

/-- The conditions of `loadSession` on the loaded document. -/
def validSession (installationID : String) (document : Versioned Body) (token : String)
    (now : Int) : Bool :=
  match (Encoding.decode document.value : Option SessionState) with
  | none => false
  | some state =>
    !(state.schemaVersion ≠ 1 || document.revision < 1 || state.revoked ||
      state.installationID ≠ installationID ||
      state.operatorID ≠ "dev-operator:" ++ installationID ||
      !equalHash state.tokenSHA256 (tokenHash token) || state.createdAt > now ||
      !(state.expiresAt > now) || state.expiresAt - state.createdAt ≠ sessionLifetime)

/-- The end of `loadSession`, on the answer of the store. -/
def concludeLoad (installationID token : String) (now : Int) :
    Except LoadError (Versioned Body) → Except SessionError (Versioned Body)
  | .error error => .error (.store error)
  | .ok document =>
    if validSession installationID document token now then .ok document else .error .invalid

def loadSession (installationID token : String) (now : Int) :
    Program (SessionReply Body) (Except SessionError (Versioned Body)) :=
  if !operatorToken token then return .error .invalid
  else do
    let loaded : Except LoadError (Versioned Body) ← askSession .load
    return concludeLoad installationID token now loaded

def newSession (installationID token : String) (now : Int) : SessionState where
  schemaVersion := 1
  installationID := installationID
  operatorID := "dev-operator:" ++ installationID
  tokenSHA256 := tokenHash token
  createdAt := now
  expiresAt := now + sessionLifetime
  revoked := false

/-- The revision that `createSession` replaces. -/
def expectedRevision : Except LoadError (Versioned Body) → Nat
  | .ok document => document.revision
  | .error _ => 0

def observesToken (token : String) : Except LoadError (Versioned Body) → Bool
  | .error _ => false
  | .ok readback =>
    match (Encoding.decode readback.value : Option SessionState) with
    | none => false
    | some observed => equalHash observed.tokenSHA256 (tokenHash token)

/-- The loop of `createSession`. -/
def commitSession (token : String) (body : Body) :
    Nat → Program (SessionReply Body) (Except StateError String)
  | 0 => return .error .unavailable
  | attempts + 1 => do
    let loaded : Except LoadError (Versioned Body) ← askSession .load
    if loaded matches .error .failed then return .error .unavailable
    else
      let saved : Except SaveError (Versioned Body) ←
        askSession (.save (expectedRevision loaded) body)
      match saved with
      | .ok _ => return .ok token
      | .error error =>
        let readback : Except LoadError (Versioned Body) ← askSession .load
        if observesToken token readback then return .ok token
        else if error ≠ .conflict then return .error .unavailable
        else commitSession token body attempts

def createSession (installationID : String) (now : Int) :
    Program (SessionReply Body) (Except StateError String) := do
  let drawn : Option String ← askSession .random
  match drawn with
  | none => return .error .unavailable
  | some token =>
    match Encoding.marshal (newSession installationID token now) with
    | none => return .error .unavailable
    | some body => commitSession token body 3

/-- The end of `revokeSession` after a failed save: it succeeds when the token is proved to be
rejected. -/
def confirmRevoked (installationID token : String) :
    Program (SessionReply Body) (Except StateError Unit) := do
  let now : Int ← askSession .now
  let loaded ← loadSession installationID token now
  match loaded with
  | .error .invalid | .error (.store .notFound) => return .ok ()
  | .error (.store .failed) | .ok _ => return .error .unavailable

def revokeSession (installationID : String) (document : Versioned Body) (token : String) :
    Program (SessionReply Body) (Except StateError Unit) :=
  match (Encoding.decode document.value : Option SessionState) with
  | none => return .error .unavailable
  | some state =>
    match Encoding.marshal { state with revoked := true } with
    | none => return .error .unavailable
    | some body => do
      let saved : Except SaveError (Versioned Body) ←
        askSession (.save document.revision body)
      match saved with
      | .ok _ => return .ok ()
      | .error _ => confirmRevoked installationID token

/-! ## The servers -/

inductive Operation where
  | login (installationID : String)
  | check (installationID token : String)
  | logout (installationID token : String)

inductive Outcome (Body : Type) where
  | created (result : Except StateError String)
  | loaded (result : Except SessionError (Versioned Body))
  | revoked (result : Except StateError Unit)

def Operation.program : Operation → Program (SessionReply Body) (Outcome Body)
  | login installationID => do
    let now : Int ← askSession .now
    let result ← createSession installationID now
    return .created result
  | check installationID token => do
    let now : Int ← askSession .now
    let result ← loadSession installationID token now
    return .loaded result
  | logout installationID token => do
    let now : Int ← askSession .now
    let result ← loadSession installationID token now
    match result with
    | .error error => return .loaded (.error error)
    | .ok document =>
      let result ← revokeSession installationID document token
      return .revoked result

structure SessionStore (Body ι : Type) where
  history : List (Versioned Body)
  clock : Int
  drawn : List (ι × String)

def storedHash (document : Versioned Body) : Option String :=
  (Encoding.decode document.value : Option SessionState).map SessionState.tokenSHA256

variable {ι : Type}

def SessionStore.Fresh (store : SessionStore Body ι) (hash : String) : Prop :=
  hash ∉ store.drawn.map Prod.snd ∧ ∀ document ∈ store.history, storedHash document ≠ some hash

def sessionEnvironment (actor : ι) :
    Program.Environment (SessionReply Body) (SessionStore Body ι) :=
  fun store call reply after =>
    match call with
    | .now => reply = store.clock ∧ after = store
    | .random =>
      (reply = none ∧ after = store) ∨
        ∃ token, reply = some token ∧ operatorToken token = true ∧
          store.Fresh (tokenHash token) ∧
          after = { store with drawn := (actor, tokenHash token) :: store.drawn }
    | .load => after = store ∧ Loads store.history reply
    | .save expected body =>
      ∃ history, Saves store.history expected body reply history ∧
        after = { store with history := history }

def sessions (operation : ι → Operation) :
    System (SessionReply Body) (SessionStore Body ι) ι (Outcome Body) where
  program actor := (operation actor).program
  environment := sessionEnvironment
  drift store later := ∃ clock, store.clock ≤ clock ∧ later = { store with clock := clock }

def SessionStore.Begins (store : SessionStore Body ι) : Prop :=
  store.history.length ≤ 1 ∧ (∀ document ∈ store.history, 1 ≤ document.revision) ∧
    store.drawn = []

/-- A call of `loadSession` that was given this time and loads now accepts the token. -/
def Accepts (installationID token : String) (now : Int) (store : SessionStore Body ι) : Prop :=
  operatorToken token = true ∧ ∃ current older, store.history = current :: older ∧
    validSession installationID current token now = true

theorem concludeLoad_ok {installationID token : String} {now : Int}
    {loaded : Except LoadError (Versioned Body)} {document : Versioned Body} :
    concludeLoad installationID token now loaded = .ok document ↔
      loaded = .ok document ∧ validSession installationID document token now = true := by
  cases loaded with
  | error error => simp [concludeLoad]
  | ok found =>
    simp only [concludeLoad]
    split
    · rename_i valid
      constructor
      · rintro ⟨⟩
        exact ⟨rfl, valid⟩
      · exact fun same => congrArg _ (Except.ok.inj same.1)
    · rename_i invalid
      constructor
      · rintro ⟨⟩
      · rintro ⟨⟨⟩, valid⟩
        exact absurd valid invalid

end Programs

end CloudRing.ControlPlane
