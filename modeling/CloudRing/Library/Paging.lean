import Mathlib.Data.List.Lex
import Mathlib.Data.List.Sort

/-!
# Pages of keyed rows

A reader asks for the rows beyond a cursor, one more than a page holds, and goes on from the key of
the last row it was given.
-/

namespace CloudRing.Library.Paging

variable {α κ : Type} [LinearOrder κ] (key : α → κ)

def after (cursor : κ) (rows : List α) : List α :=
  (rows.filter fun row => cursor < key row).insertionSort fun left right => key left ≤ key right

structure Page (α κ : Type) where
  rows : List α
  next : Option κ

def page (size : Nat) (cursor : κ) (rows : List α) : Page α κ :=
  let found := after key cursor rows
  { rows := found.take size
    next := if found.length > size then (found.take size).getLast?.map key else none }

inductive Walk (size : Nat) : κ → List (List α) → List (Page α κ) → Prop where
  | last {cursor : κ} {rows : List α} (ended : (page key size cursor rows).next = none) :
      Walk size cursor [rows] [page key size cursor rows]
  | more {cursor next : κ} {rows : List α} {later : List (List α)} {pages : List (Page α κ)}
      (goes : (page key size cursor rows).next = some next) (rest : Walk size next later pages) :
      Walk size cursor (rows :: later) (page key size cursor rows :: pages)

def collected (pages : List (Page α κ)) : List α := pages.flatMap Page.rows

section Rows

variable {key} {cursor : κ} {rows : List α} {size : Nat}

/-- The relation that rows are sorted by is total. -/
instance keyTotal : Std.Total fun left right : α => key left ≤ key right :=
  ⟨fun left right => le_total (key left) (key right)⟩

/-- The relation that rows are sorted by is transitive. -/
instance keyTrans : IsTrans α fun left right : α => key left ≤ key right :=
  ⟨fun _ _ _ => le_trans⟩

theorem mem_after {row : α} : row ∈ after key cursor rows ↔ row ∈ rows ∧ cursor < key row := by
  rw [after, (List.perm_insertionSort _ _).mem_iff, List.mem_filter, decide_eq_true_eq]

theorem after_length (beyond : ∀ row ∈ rows, cursor < key row) :
    (after key cursor rows).length = rows.length := by
  have whole : (rows.filter fun row => decide (cursor < key row)) = rows :=
    List.filter_eq_self.mpr fun row listed => decide_eq_true (beyond row listed)
  rw [after, List.length_insertionSort, whole]

theorem after_ascending (distinct : (rows.map key).Nodup) :
    (after key cursor rows).Pairwise fun left right => key left < key right := by
  have filtered : ((rows.filter fun row => decide (cursor < key row)).map key).Nodup :=
    distinct.sublist (List.filter_sublist.map key)
  have nodup : ((after key cursor rows).map key).Nodup :=
    ((List.perm_insertionSort _ _).map key).nodup_iff.mpr filtered
  have differ := List.pairwise_map.mp nodup
  exact ((List.pairwise_insertionSort _ _).and differ).imp fun both => lt_of_le_of_ne both.1 both.2

theorem after_perm {other : List α} (distinct : (rows.map key).Nodup) (perm : other.Perm rows) :
    after key cursor other = after key cursor rows := by
  have otherDistinct : (other.map key).Nodup := (perm.map key).nodup_iff.mpr distinct
  have same : (after key cursor other).Perm (after key cursor rows) :=
    (List.perm_insertionSort _ _).trans
      ((perm.filter _).trans (List.perm_insertionSort _ _).symm)
  exact List.Perm.eq_of_pairwise (fun _ _ _ _ less more => absurd less (lt_asymm more))
    (after_ascending otherDistinct) (after_ascending distinct) same

theorem page_next {next : κ} (goes : (page key size cursor rows).next = some next) :
    ∃ front last rest, after key cursor rows = front ++ last :: rest ∧ rest ≠ [] ∧
      (page key size cursor rows).rows = front ++ [last] ∧ key last = next ∧
      front.length + 1 = size := by
  simp only [page] at goes ⊢
  split at goes
  · rename_i long
    obtain ⟨last, ends, rfl⟩ := Option.map_eq_some_iff.mp goes
    obtain ⟨front, taken⟩ := List.getLast?_eq_some_iff.mp ends
    have split := List.take_append_drop size (after key cursor rows)
    refine ⟨front, last, (after key cursor rows).drop size, ?_, ?_, taken, rfl, ?_⟩
    · rw [taken, List.append_assoc, List.singleton_append] at split
      exact split.symm
    · rw [ne_eq, List.drop_eq_nil_iff]
      omega
    · have count := congrArg List.length taken
      rw [List.length_take, List.length_append, List.length_singleton] at count
      omega
  · contradiction

theorem page_last (positive : 0 < size) (ended : (page key size cursor rows).next = none) :
    (page key size cursor rows).rows = after key cursor rows ∧
      (after key cursor rows).length ≤ size := by
  simp only [page] at ended ⊢
  split at ended
  · rename_i long
    rw [Option.map_eq_none_iff, List.getLast?_eq_none_iff, List.take_eq_nil_iff] at ended
    obtain zero | empty := ended
    · omega
    · rw [empty] at long
      simp at long
  · rename_i short
    exact ⟨List.take_of_length_le (by omega), by omega⟩

end Rows

section Walks

variable {key} {size : Nat} {cursor : κ} {times : List (List α)} {pages : List (Page α κ)}

theorem collected_last {rows : List α} (positive : 0 < size)
    (ended : (page key size cursor rows).next = none) :
    collected [page key size cursor rows] = after key cursor rows := by
  rw [collected, List.flatMap_singleton, (page_last positive ended).1]

theorem Walk.beyond (walk : Walk key size cursor times pages) (positive : 0 < size) :
    ∀ row ∈ collected pages, cursor < key row ∧ ∃ rows ∈ times, row ∈ rows := by
  induction walk with
  | @last cursor rows ended =>
    intro row listed
    rw [collected_last positive ended, mem_after] at listed
    exact ⟨listed.2, rows, List.mem_singleton_self rows, listed.1⟩
  | @more cursor next rows later pages goes rest ih =>
    intro row listed
    obtain ⟨front, last, beyond, found, -, here, rfl, -⟩ := page_next goes
    have inside : ∀ row ∈ front ++ [last], row ∈ rows ∧ cursor < key row := by
      intro row member
      rw [← mem_after, found]
      simp only [List.mem_append, List.mem_cons] at member ⊢
      tauto
    simp only [collected, List.flatMap_cons, List.mem_append, here] at listed
    obtain now | afterwards := listed
    · have both := inside row (by simpa using now)
      exact ⟨both.2, rows, List.mem_cons_self, both.1⟩
    · have reached := ih row afterwards
      obtain ⟨time, among, present⟩ := reached.2
      have least := (inside last (by simp)).2
      exact ⟨least.trans reached.1, time, List.mem_cons_of_mem _ among, present⟩

theorem Walk.ascending (walk : Walk key size cursor times pages) (positive : 0 < size)
    (distinct : ∀ rows ∈ times, (rows.map key).Nodup) :
    (collected pages).Pairwise fun left right => key left < key right := by
  induction walk with
  | @last cursor rows ended =>
    rw [collected_last positive ended]
    exact after_ascending (distinct rows (List.mem_singleton_self rows))
  | @more cursor next rows later pages goes rest ih =>
    have laterDistinct : ∀ rows ∈ later, (rows.map key).Nodup :=
      fun rows among => distinct rows (List.mem_cons_of_mem _ among)
    obtain ⟨front, last, beyond, found, -, here, rfl, -⟩ := page_next goes
    have ordered := @after_ascending _ _ _ key cursor rows (distinct rows List.mem_cons_self)
    rw [found, ← List.singleton_append, ← List.append_assoc, List.pairwise_append] at ordered
    simp only [collected, List.flatMap_cons, here]
    rw [List.pairwise_append]
    refine ⟨ordered.1, ih laterDistinct, ?_⟩
    intro left inPage right inRest
    have farther := (rest.beyond positive right inRest).1
    have upTo : key left ≤ key last := by
      rw [List.mem_append, List.mem_singleton] at inPage
      obtain before | same := inPage
      · exact le_of_lt ((List.pairwise_append.mp ordered.1).2.2 left before last
          (List.mem_singleton_self last))
      · rw [same]
    exact lt_of_le_of_lt upTo farther

theorem Walk.complete (walk : Walk key size cursor times pages) (positive : 0 < size)
    (distinct : ∀ rows ∈ times, (rows.map key).Nodup)
    (grows : times.Pairwise fun earlier later => ∀ row ∈ earlier, row ∈ later) :
    ∀ first ∈ times.head?, ∀ row ∈ first, cursor < key row → row ∈ collected pages := by
  induction walk with
  | @last cursor rows ended =>
    intro first head row present farther
    simp only [List.head?_cons, Option.mem_def, Option.some.injEq] at head
    subst head
    rw [collected_last positive ended]
    exact mem_after.mpr ⟨present, farther⟩
  | @more cursor next rows later pages goes rest ih =>
    intro first head row present farther
    simp only [List.head?_cons, Option.mem_def, Option.some.injEq] at head
    subst head
    rw [List.pairwise_cons] at grows
    obtain ⟨front, last, beyond, found, -, here, rfl, -⟩ := page_next goes
    have ordered := @after_ascending _ _ _ key cursor rows (distinct rows List.mem_cons_self)
    have listed : row ∈ front ++ last :: beyond := by
      rw [← found]
      exact mem_after.mpr ⟨present, farther⟩
    simp only [collected, List.flatMap_cons, here, List.mem_append, List.mem_singleton]
    rw [List.mem_append, List.mem_cons] at listed
    obtain before | same | left := listed
    · exact .inl (.inl before)
    · exact .inl (.inr same)
    · -- The row is left for a later page, and is still there when that page is read.
      have past : key last < key row := by
        rw [found, List.pairwise_append, List.pairwise_cons] at ordered
        exact ordered.2.1.1 row left
      refine .inr (ih (fun rows among => distinct rows (List.mem_cons_of_mem _ among)) grows.2
        (later.head?.getD rows) ?_ row ?_ past)
      · cases rest <;> simp
      · cases rest with
        | last | more => exact grows.1 _ (by simp) row present

theorem after_next {rows front rest : List α} {last : α} (distinct : (rows.map key).Nodup)
    (found : after key cursor rows = front ++ last :: rest) :
    after key (key last) rows = rest := by
  have ordered := @after_ascending _ _ _ key cursor rows distinct
  rw [found, List.pairwise_append, List.pairwise_cons] at ordered
  have least : cursor < key last := by
    have listed : last ∈ after key cursor rows := by
      rw [found]
      simp
    exact (mem_after.mp listed).2
  have narrowed : (rows.filter fun row => key last < key row) =
      (rows.filter fun row => cursor < key row).filter fun row => key last < key row := by
    rw [List.filter_filter]
    refine List.filter_congr fun row _ => ?_
    simpa using least.trans
  have passed : (front.filter fun row => key last < key row) = [] := by
    rw [List.filter_eq_nil_iff]
    intro row before
    simpa using (ordered.2.2 row before last List.mem_cons_self).le
  have kept : (rest.filter fun row => key last < key row) = rest :=
    List.filter_eq_self.mpr fun row left => decide_eq_true (ordered.2.1.1 row left)
  have perm : (after key (key last) rows).Perm rest := by
    have sorted := ((List.perm_insertionSort _ _).symm.filter fun row => key last < key row).trans
      (List.Perm.of_eq (congrArg (List.filter _) found))
    rw [List.filter_append, passed, List.filter_cons_of_neg (by simp), kept] at sorted
    exact (List.perm_insertionSort _ _).trans (narrowed ▸ sorted)
  exact List.Perm.eq_of_pairwise (fun _ _ _ _ less more => absurd less (lt_asymm more))
    (after_ascending distinct) ordered.2.1.2 perm

theorem Walk.count (walk : Walk key size cursor times pages) (positive : 0 < size)
    {rows : List α} (distinct : (rows.map key).Nodup) (stays : ∀ time ∈ times, time.Perm rows) :
    pages.length = ((after key cursor rows).length - 1) / size + 1 := by
  induction walk with
  | @last cursor time ended =>
    have short := (page_last positive ended).2
    rw [after_perm distinct (stays time (List.mem_singleton_self time))] at short
    have none : ((after key cursor rows).length - 1) / size = 0 :=
      Nat.div_eq_of_lt (by omega)
    rw [none]
    rfl
  | @more cursor next time later pages goes rest ih =>
    obtain ⟨front, last, left, found, some, -, rfl, full⟩ := page_next goes
    rw [after_perm distinct (stays time List.mem_cons_self)] at found
    have tail := ih fun other among => stays other (List.mem_cons_of_mem _ among)
    rw [after_next distinct found] at tail
    have total : (after key cursor rows).length = size + left.length := by
      rw [found, List.length_append, List.length_cons]
      omega
    have nonempty : 0 < left.length := List.length_pos_iff.mpr some
    have shifted : size + left.length - 1 = left.length - 1 + size := by omega
    rw [List.length_cons, tail, total, shifted, Nat.add_div_right _ positive]

theorem exists_walk (positive : 0 < size) {rows : List α} (distinct : (rows.map key).Nodup) :
    ∀ (cursor : κ), ∃ times pages, (∀ time ∈ times, time = rows) ∧
      Walk key size cursor times pages := by
  intro cursor
  induction total : (after key cursor rows).length using Nat.strong_induction_on
    generalizing cursor with
  | h count ih =>
    cases goes : (page key size cursor rows).next with
    | none =>
      exact ⟨[rows], _, fun time among => List.mem_singleton.mp among, Walk.last goes⟩
    | some next =>
      obtain ⟨front, last, left, found, -, -, rfl, full⟩ := page_next goes
      have fewer : (after key (key last) rows).length < count := by
        rw [after_next distinct found, ← total, found, List.length_append, List.length_cons]
        omega
      obtain ⟨times, pages, stays, walk⟩ := ih _ fewer (key last) rfl
      refine ⟨rows :: times, _, ?_, Walk.more goes walk⟩
      intro time among
      rw [List.mem_cons] at among
      exact among.elim id (stays time)

end Walks

end CloudRing.Library.Paging
