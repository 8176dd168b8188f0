import CloudRing.Library.Check
import CloudRing.Library.Json.Decimal
import CloudRing.Library.Time
import Mathlib.Data.Rat.Floor

/-!
# The prerequisites of a development installation

`CheckPrerequisites` reads the node's allocatable resources and the requests of its pods, in
thousandths rounded up, and asks for headroom for the guest.
-/

namespace CloudRing.DevInstall

open CloudRing.Library

/-! ## API objects -/

def field : Json → String → Option Json
  | .object members, key => (members.reverse.find? (·.1 = key)).map Prod.snd
  | _, _ => none

def stringField (object : Json) (key : String) : String :=
  match field object key with
  | some (.string value) => value
  | _ => ""

def listField (object : Json) (key : String) : List Json :=
  match field object key with
  | some (.array items) => items
  | _ => []

def nested (object : Json) : List String → Json
  | [] => object
  | key :: keys =>
    match field object key with
    | some (.object members) => nested (.object members) keys
    | _ => .null

/-! ## Quantities -/

section Quantities

-- `big.Rat.SetString`.
variable (setString : List Char → Option ℚ)

def maxInt64 : Int := 2 ^ 63 - 1

def suffixes : List (String × Int) :=
  [("Ei", 2 ^ 60), ("Pi", 2 ^ 50), ("Ti", 2 ^ 40), ("Gi", 2 ^ 30), ("Mi", 2 ^ 20), ("Ki", 2 ^ 10),
    ("E", 10 ^ 18), ("P", 10 ^ 15), ("T", 10 ^ 12), ("G", 10 ^ 9), ("M", 10 ^ 6), ("k", 1000),
    ("m", 0)]

def trimSuffix (value : List Char) : Option (String × Int) × List Char :=
  match suffixes.find? fun suffix => suffix.1.toList.isSuffixOf value with
  | none => (none, value)
  | some suffix => (some suffix, value.take (value.length - suffix.1.toList.length))

/-- A scaled number, rounded up to an `int64`. -/
def roundUp (scale : Int) (value : List Char) : Except String Int :=
  match setString value with
  | none => .error "development resource quantity is invalid"
  | some amount =>
    if amount < 0 then .error "development resource quantity is invalid"
    else
      let scaled := amount * scale
      let whole := scaled.num.tdiv scaled.den
      let whole := if 0 < scaled.num.tmod scaled.den then whole + 1 else whole
      if Fits64 whole then .ok whole else .error "development resource quantity overflows"

def quantityMilli (value : String) : Except String Int :=
  if value = "" ∨ 64 < (Utf8.ofString value).length then
    .error "development resource quantity is invalid"
  else match trimSuffix value.toList with
    | (none, number) => roundUp setString 1000 number
    | (some (name, factor), number) =>
      if name = "m" then roundUp setString 1 number
      else if maxInt64 / 1000 < factor then .error "development resource quantity overflows"
      else roundUp setString (1000 * factor) number

def milli (value : String) : Int :=
  if value = "" then 0
  else
    let (suffix, number) := trimSuffix value.toList
    let unit : ℚ := match suffix with
      | none => 1
      | some (name, factor) => if name = "m" then 1 / 1000 else factor
    ⌈(setString number).getD 0 * unit * 1000⌉

/-! ## The check -/

inductive Resource where
  | cpu
  | memory
  deriving DecidableEq, Repr

def Resource.name : Resource → String
  | cpu => "cpu"
  | memory => "memory"

def addRequest (message : String) (value : String) (destination : Int) : Except String Int :=
  if value = "" then .ok destination
  else match quantityMilli setString value with
    | .error _ => .error message
    | .ok amount =>
      if maxInt64 - destination < amount then .error message else .ok (destination + amount)

def addRequests (message : String → String) (sums : Resource → Int) (requests : Json) :
    Except String (Resource → Int) := do
  let cpu ← addRequest setString (message "cpu") (stringField requests "cpu") (sums .cpu)
  let memory ← addRequest setString (message "memory") (stringField requests "memory")
    (sums .memory)
  return fun
    | .cpu => cpu
    | .memory => memory

def containers (pod : Json) : List Json :=
  listField (nested pod ["spec"]) "containers" ++ listField (nested pod ["spec"]) "initContainers"

def containerRequests (container : Json) : Json := nested container ["resources", "requests"]

def overhead (pod : Json) : Json := nested (nested pod ["spec"]) ["overhead"]

def podRequests (pod : Json) : Except String (Resource → Int) := do
  let sums ← ((containers pod).map containerRequests).foldlM
    (addRequests setString fun name => "development pod " ++ name ++ " reservation is invalid")
    fun _ => 0
  addRequests setString (fun _ => "development pod overhead is invalid") sums (overhead pod)

/-- `Guest`, with the bounds of `Validate`. -/
structure Guest where
  cpus : Int
  memoryMiB : Int
  cpus_bounds : 4 ≤ cpus ∧ cpus ≤ 16
  memory_bounds : 8192 ≤ memoryMiB ∧ memoryMiB ≤ 32768

/-- `Target`, as far as the report names it. -/
structure Target where
  (kubeSystemUID node storageClass : String)

def Guest.headroom (guest : Guest) : Resource → Int
  | .cpu => (guest.cpus + 1) * 1000
  | .memory => (guest.memoryMiB + 2048) * 2 ^ 20 * 1000

structure Substrate where
  surroundings : Except String Unit
  selected : Json
  pods : Except String (List Json)
  cilium : Except String Unit
  now : Int

structure Prerequisites where
  observedAt : Int
  (targetClusterUID node : String)
  availableCPUMilli : Int
  availableMemoryMiB : Int
  (storageClass storageReclaimPolicy : String)
  storagePlacementRequiresOperatorAcceptance : Bool
  networkPolicyRequiresLiveDenialTest : Bool
  deriving DecidableEq

def allocatable (substrate : Substrate) : Json :=
  nested substrate.selected ["status", "allocatable"]

def kvmDevices : List String :=
  ["devices.kubevirt.io/kvm", "devices.kubevirt.io/tun", "devices.kubevirt.io/vhost-net"]

def ended (pod : Json) : Bool :=
  stringField (nested pod ["status"]) "phase" ∈ ["Succeeded", "Failed"]

def reserve (rest : Resource → Int) (pod : Json) : Except String (Resource → Int) :=
  if ended pod then .ok rest
  else do
    let requested ← podRequests setString pod
    return fun name => wrapped (rest name - requested name)

def checkPrerequisites (target : Target) (guest : Guest) (substrate : Substrate) :
    Except String Prerequisites := do
  substrate.surroundings
  let cpu ← quantityMilli setString (stringField (allocatable substrate) "cpu")
  let memory ← quantityMilli setString (stringField (allocatable substrate) "memory")
  forEach (fun name => ensure "selected node lacks a required KVM device resource"
    ((quantityMilli setString (stringField (allocatable substrate) name)).toOption.any (1000 ≤ ·)))
    kvmDevices
  let pods ← substrate.pods
  let rest ← pods.foldlM (reserve setString) fun
    | .cpu => cpu
    | .memory => memory
  ensure "selected development node lacks fresh request reservation headroom"
    (guest.headroom .cpu ≤ rest .cpu && guest.headroom .memory ≤ rest .memory)
  substrate.cilium
  return {
    observedAt := substrate.now
    targetClusterUID := target.kubeSystemUID
    node := target.node
    availableCPUMilli := rest .cpu
    availableMemoryMiB := ((rest .memory).tdiv 1000).tdiv (2 ^ 20)
    storageClass := target.storageClass
    storageReclaimPolicy := "Delete"
    storagePlacementRequiresOperatorAcceptance := true
    networkPolicyRequiresLiveDenialTest := true }

/-! ## What is asked for -/

def requested (pod : Json) (name : Resource) : Int :=
  (((containers pod).map containerRequests ++ [overhead pod]).map fun requests =>
    milli setString (stringField requests name.name)).sum

def available (substrate : Substrate) (pods : List Json) (name : Resource) : Int :=
  milli setString (stringField (allocatable substrate) name.name) -
    ((pods.filter (!ended ·)).map (requested setString · name)).sum

end Quantities

section Headroom

variable {setString : List Char → Option ℚ}

theorem ceil_tdiv {value : ℚ} (nonneg : 0 ≤ value) :
    (if 0 < value.num.tmod value.den then value.num.tdiv value.den + 1
      else value.num.tdiv value.den) = ⌈value⌉ := by
  have num : 0 ≤ value.num := Rat.num_nonneg.mpr nonneg
  rw [Int.tdiv_eq_ediv_of_nonneg num, Int.tmod_eq_emod_of_nonneg num, Rat.ceil_def', Int.neg_ediv,
    Int.sign_eq_one_of_pos (mod_cast value.den_pos)]
  have positive : 0 < value.num % value.den ↔ ¬(value.den : Int) ∣ value.num := by
    have least := Int.emod_nonneg value.num (mod_cast value.den_pos.ne' : (value.den : Int) ≠ 0)
    rw [Int.dvd_iff_emod_eq_zero]
    omega
  by_cases whole : (value.den : Int) ∣ value.num
  · rw [if_neg (positive.not.mpr (not_not.mpr whole)), if_pos whole]
    omega
  · rw [if_pos (positive.mpr whole), if_neg whole]
    omega

theorem roundUp_ok {scale amount : Int} {number : List Char} (positive : 0 ≤ scale)
    (rounded : roundUp setString scale number = .ok amount) :
    amount = ⌈(setString number).getD 0 * scale⌉ ∧ 0 ≤ amount ∧ Fits64 amount := by
  unfold roundUp at rounded
  cases read : setString number with
  | none =>
    rw [read] at rounded
    cases rounded
  | some value =>
    simp only [read] at rounded
    by_cases negative : value < 0
    · rw [if_pos negative] at rounded
      cases rounded
    · have scaled : 0 ≤ value * scale :=
        mul_nonneg (not_lt.mp negative) (Int.cast_nonneg positive)
      rw [if_neg negative, ceil_tdiv scaled] at rounded
      by_cases fits : Fits64 ⌈value * scale⌉
      · rw [if_pos fits] at rounded
        obtain rfl := Except.ok.inj rounded
        exact ⟨rfl, Int.ceil_nonneg scaled, fits⟩
      · rw [if_neg fits] at rounded
        cases rounded

theorem trimSuffix_nonneg {value number : List Char} {suffix : String × Int}
    (trimmed : trimSuffix value = (some suffix, number)) : 0 ≤ suffix.2 := by
  have all : ∀ suffix ∈ suffixes, 0 ≤ suffix.2 := by decide
  unfold trimSuffix at trimmed
  split at trimmed
  · cases trimmed
  · rename_i found
    cases trimmed
    exact all _ (List.mem_of_find?_eq_some found)

theorem quantityMilli_ok {value : String} {amount : Int}
    (accepted : quantityMilli setString value = .ok amount) :
    amount = milli setString value ∧ 0 ≤ amount ∧ Fits64 amount := by
  unfold quantityMilli at accepted
  by_cases refused : value = "" ∨ 64 < (Utf8.ofString value).length
  · rw [if_pos refused] at accepted
    cases accepted
  rw [if_neg refused] at accepted
  have nonempty : value ≠ "" := fun empty => refused (.inl empty)
  rw [milli, if_neg nonempty]
  cases trimmed : trimSuffix value.toList with
  | mk suffix number =>
    simp only [trimmed] at accepted
    cases suffix with
    | none =>
      have rounded := roundUp_ok (by decide) accepted
      simpa using rounded
    | some suffix =>
      have factor := trimSuffix_nonneg trimmed
      dsimp only at accepted ⊢
      split at accepted
      · rename_i thousandths
        have rounded := roundUp_ok (by decide) accepted
        rw [if_pos thousandths, mul_assoc]
        simpa using rounded
      · rename_i larger
        rw [if_neg larger, mul_assoc]
        split at accepted
        · cases accepted
        · have rounded := roundUp_ok (by omega) accepted
          rw [Int.cast_mul, mul_comm ((1000 : Int) : ℚ)] at rounded
          exact rounded

theorem addRequest_ok {message value : String} {sum next : Int}
    (added : addRequest setString message value sum = .ok next) :
    next = sum + milli setString value ∧ sum ≤ next := by
  unfold addRequest at added
  by_cases empty : value = ""
  · rw [if_pos empty] at added
    obtain rfl := Except.ok.inj added
    simp [empty, milli]
  · rw [if_neg empty] at added
    cases read : quantityMilli setString value with
    | error message =>
      rw [read] at added
      cases added
    | ok amount =>
      obtain ⟨same, nonneg, -⟩ := quantityMilli_ok read
      simp only [read] at added
      split at added
      · cases added
      · obtain rfl := Except.ok.inj added
        exact ⟨by rw [same], by omega⟩

theorem addRequests_ok {message : String → String} {sums next : Resource → Int} {requests : Json}
    (added : addRequests setString message sums requests = .ok next) (name : Resource) :
    next name = sums name + milli setString (stringField requests name.name) ∧
      sums name ≤ next name := by
  simp only [addRequests, bind_ok] at added
  obtain ⟨cpu, first, memory, second, added⟩ := added
  obtain rfl := Except.ok.inj added
  cases name with
  | cpu => exact addRequest_ok first
  | memory => exact addRequest_ok second

theorem podRequests_ok {pod : Json} {sums : Resource → Int}
    (summed : podRequests setString pod = .ok sums) (name : Resource) :
    sums name = requested setString pod name ∧ 0 ≤ sums name := by
  obtain ⟨before, looped, added⟩ := bind_ok.mp summed
  have loop := foldlM_ok (fun done sums => sums name = (done.map fun requests =>
      milli setString (stringField requests name.name)).sum ∧ 0 ≤ sums name)
    (fun done requests sums next holds added => by
      obtain ⟨sum, more⟩ := addRequests_ok added name
      rw [List.map_append, List.sum_append, sum, holds.1]
      exact ⟨by simp, by omega⟩)
    looped ⟨rfl, le_rfl⟩
  obtain ⟨sum, more⟩ := addRequests_ok added name
  rw [requested, List.map_append, List.sum_append, ← loop.1, sum]
  exact ⟨by simp, by omega⟩

structure Left (setString : List Char → Option ℚ) (whole rest : Int) (pods : List Json)
    (name : Resource) : Prop where
  same : rest = wrapped (whole - ((pods.filter (!ended ·)).map (requested setString · name)).sum)
  least : 0 ≤ ((pods.filter (!ended ·)).map (requested setString · name)).sum

theorem reserve_left {whole : Int} {rest next : Resource → Int} {done : List Json} {pod : Json}
    {name : Resource} (left : Left setString whole (rest name) done name)
    (reserved : reserve setString rest pod = .ok next) :
    Left setString whole (next name) (done ++ [pod]) name := by
  unfold reserve at reserved
  by_cases finished : ended pod = true
  · rw [if_pos finished] at reserved
    obtain rfl := Except.ok.inj reserved
    have same : (done ++ [pod]).filter (!ended ·) = done.filter (!ended ·) := by simp [finished]
    exact ⟨same ▸ left.same, same ▸ left.least⟩
  · rw [if_neg finished] at reserved
    obtain ⟨sums, summed, taken⟩ := bind_ok.mp reserved
    obtain rfl := Except.ok.inj taken
    obtain ⟨sum, nonneg⟩ := podRequests_ok summed name
    have more : (((done ++ [pod]).filter (!ended ·)).map (requested setString · name)).sum =
        ((done.filter (!ended ·)).map (requested setString · name)).sum + sums name := by
      simp [finished, sum]
    refine ⟨?_, ?_⟩
    · dsimp only
      rw [more, left.same, wrapped, wrapped, wrapped, Int.bmod_sub_bmod, sub_sub]
    · rw [more]
      have := left.least
      omega

/-- An accepted node has the headroom exactly when the requests of its pods do not exceed its
allocatable resources by more than `2 ^ 63` thousandths. -/
theorem checkPrerequisites_headroom_iff {target : Target} {guest : Guest} {substrate : Substrate}
    {report : Prerequisites} {pods : List Json} (read : substrate.pods = .ok pods)
    (accepted : checkPrerequisites setString target guest substrate = .ok report) :
    (∀ name, guest.headroom name ≤ available setString substrate pods name) ↔
      ∀ name, -2 ^ 63 ≤ available setString substrate pods name := by
  simp only [checkPrerequisites, read, ok_bind, bind_ok] at accepted
  obtain ⟨_, -, cpu, cpuRead, memory, memoryRead, _, -, rest, looped, _, enough, -⟩ := accepted
  rw [ensure_ok, Bool.and_eq_true, decide_eq_true_eq, decide_eq_true_eq] at enough
  let whole (name : Resource) : Int :=
    milli setString (stringField (allocatable substrate) name.name)
  have started (name : Resource) :
      (match name with | .cpu => cpu | .memory => memory) = whole name ∧ Fits64 (whole name) := by
    cases name with
    | cpu =>
      obtain ⟨same, -, fits⟩ := quantityMilli_ok cpuRead
      rw [same] at fits
      exact ⟨same, fits⟩
    | memory =>
      obtain ⟨same, -, fits⟩ := quantityMilli_ok memoryRead
      rw [same] at fits
      exact ⟨same, fits⟩
  have left (name : Resource) : Left setString (whole name) (rest name) pods name := by
    obtain ⟨same, fits⟩ := started name
    refine foldlM_ok (fun done rest => Left setString (whole name) (rest name) done name)
      (fun _ _ _ _ left reserved => reserve_left left reserved) looped ⟨?_, le_rfl⟩
    rw [List.filter_nil, List.map_nil, List.sum_nil, sub_zero, wrapped_of_fits fits]
    exact same
  have passed (name : Resource) : guest.headroom name ≤ rest name := by
    cases name with
    | cpu => exact enough.1
    | memory => exact enough.2
  constructor
  · intro headroom name
    have positive : 0 ≤ guest.headroom name := by
      have := guest.cpus_bounds
      have := guest.memory_bounds
      cases name <;> simp only [Guest.headroom] <;> omega
    have := headroom name
    omega
  · intro bounded name
    have kept : rest name = available setString substrate pods name := by
      have above : available setString substrate pods name < 2 ^ 63 := by
        have := (left name).least
        have := (started name).2.2
        simp only [available, whole] at *
        omega
      rw [(left name).same, ← wrapped_of_fits ⟨bounded name, above⟩]
      rfl
    rw [← kept]
    exact passed name

end Headroom

/-! ## A node and its pods -/

def readDigits (text : List Char) : Option ℚ :=
  if text.all Char.isDigit then some (Json.digitsValue text) else none

def sampleTarget : Target := ⟨"uid", "node", "longhorn"⟩

def sampleGuest : Guest := ⟨4, 8192, by decide, by decide⟩

def samplePods (amounts : List String) : List Json :=
  amounts.map fun cpu => .object [("spec", .object [("containers", .array [.object
    [("resources", .object [("requests", .object [("cpu", .string cpu)])])]])])]

def sampleSubstrate (amounts : List String) : Substrate where
  surroundings := .ok ()
  selected := .object [("status", .object [("allocatable", .object [("cpu", .string "10"),
    ("memory", .string "64Gi"), ("devices.kubevirt.io/kvm", .string "1"),
    ("devices.kubevirt.io/tun", .string "1"), ("devices.kubevirt.io/vhost-net", .string "1")])])]
  pods := .ok (samplePods amounts)
  cilium := .ok ()
  now := 0

/-- One pod that asks for half a CPU leaves the headroom. -/
theorem checkPrerequisites_headroom_sample :
    (sampleSubstrate ["500m"]).pods = .ok (samplePods ["500m"]) ∧
      ∀ name, sampleGuest.headroom name ≤
        available readDigits (sampleSubstrate ["500m"]) (samplePods ["500m"]) name := by
  have accepted : checkPrerequisites readDigits sampleTarget sampleGuest
      (sampleSubstrate ["500m"]) =
        .ok ⟨0, "uid", "node", 9500, 65536, "longhorn", "Delete", true, true⟩ := by
    decide +kernel
  refine ⟨rfl, (checkPrerequisites_headroom_iff rfl accepted).mpr ?_⟩
  intro name
  cases name <;> decide +kernel

def largest : List String := ["9223372036854775807m", "9223372036854775807m"]

/-- Two pods that ask for the largest amount of CPU each wrap the rest around, and the node is
accepted. -/
theorem checkPrerequisites_wraps :
    (checkPrerequisites readDigits sampleTarget sampleGuest (sampleSubstrate largest)).isOk = true ∧
      available readDigits (sampleSubstrate largest) (samplePods largest) .cpu =
        10002 - 2 ^ 64 := by
  decide +kernel

end CloudRing.DevInstall
