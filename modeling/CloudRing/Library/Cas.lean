import Mathlib.Data.List.Pairwise

/-!
# A record with compare-and-swap

One record of a store, as the list of the documents that were ever stored in it.
-/

namespace CloudRing.Library

variable {β : Type}

structure Versioned (β : Type) where
  revision : Nat
  value : β

inductive LoadError where
  | notFound
  | failed
  deriving DecidableEq

inductive SaveError where
  | conflict
  | failed
  deriving DecidableEq

inductive Loads : List (Versioned β) → Except LoadError (Versioned β) → Prop where
  | found (current : Versioned β) (older : List (Versioned β)) :
      Loads (current :: older) (.ok current)
  | absent : Loads [] (.error .notFound)
  | failed (history : List (Versioned β)) : Loads history (.error .failed)

def currentRevision : List (Versioned β) → Nat
  | [] => 0
  | current :: _ => current.revision

inductive Saves (history : List (Versioned β)) (expected : Nat) (value : β) :
    Except SaveError (Versioned β) → List (Versioned β) → Prop where
  | stored {revision : Nat} (swaps : currentRevision history = expected)
      (grows : expected < revision) :
      Saves history expected value (.ok ⟨revision, value⟩) (⟨revision, value⟩ :: history)
  | lost {revision : Nat} (swaps : currentRevision history = expected)
      (grows : expected < revision) :
      Saves history expected value (.error .failed) (⟨revision, value⟩ :: history)
  | refused (error : SaveError) : Saves history expected value (.error error) history

def answerLoad : List (Versioned β) → Except LoadError (Versioned β)
  | [] => .error .notFound
  | current :: _ => .ok current

theorem loads_answerLoad (history : List (Versioned β)) : Loads history (answerLoad history) := by
  cases history with
  | nil => exact .absent
  | cons current older => exact .found current older

def answerSave (history : List (Versioned β)) (expected : Nat) (value : β) :
    Except SaveError (Versioned β) × List (Versioned β) :=
  if currentRevision history = expected then
    (.ok ⟨expected + 1, value⟩, ⟨expected + 1, value⟩ :: history)
  else (.error .conflict, history)

theorem saves_answerSave (history : List (Versioned β)) (expected : Nat) (value : β) :
    Saves history expected value (answerSave history expected value).1
      (answerSave history expected value).2 := by
  unfold answerSave
  split
  · rename_i swaps
    exact .stored swaps (Nat.lt_succ_self expected)
  · exact .refused .conflict

structure Ordered (history : List (Versioned β)) : Prop where
  positive : ∀ document ∈ history, 1 ≤ document.revision
  increasing : history.Pairwise fun newer older => older.revision < newer.revision

theorem Ordered.le_current {history : List (Versioned β)} (ordered : Ordered history)
    {document : Versioned β} (member : document ∈ history) :
    document.revision ≤ currentRevision history := by
  cases history with
  | nil => cases member
  | cons current older =>
    rcases List.mem_cons.mp member with rfl | old
    · exact Nat.le_refl _
    · exact Nat.le_of_lt ((List.pairwise_cons.mp ordered.increasing).1 document old)

theorem Ordered.cons {history : List (Versioned β)} (ordered : Ordered history) {revision : Nat}
    (grows : currentRevision history < revision) (value : β) :
    Ordered (⟨revision, value⟩ :: history) where
  positive := by
    intro document member
    rcases List.mem_cons.mp member with rfl | old
    · exact Nat.lt_of_le_of_lt (Nat.zero_le _) grows
    · exact ordered.positive document old
  increasing := List.pairwise_cons.mpr
    ⟨fun _ old => Nat.lt_of_le_of_lt (ordered.le_current old) grows, ordered.increasing⟩

theorem Ordered.eq_current {current document : Versioned β} {older : List (Versioned β)}
    (ordered : Ordered (current :: older)) (member : document ∈ current :: older)
    (same : document.revision = current.revision) : document = current := by
  rcases List.mem_cons.mp member with rfl | old
  · rfl
  · have smaller := (List.pairwise_cons.mp ordered.increasing).1 document old
    omega

end CloudRing.Library
