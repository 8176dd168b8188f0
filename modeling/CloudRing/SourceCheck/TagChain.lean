import CloudRing.SourceCheck.Published

/-!
# Chains of annotated tags

The object of a push is followed to a commit exactly when a short chain of annotated tags leads
there, each of them telling the truth about the next object. A `consumeTag` that is left out does
nothing.
-/

namespace CloudRing.SourceCheck

open Library (bind_ok ensure ensure_ok ok_bind)

theorem annotatedTagTarget_type {metadata : List UInt8} {target targetType : String}
    (read : annotatedTagTarget metadata = .ok (target, targetType)) : targetType ≠ "" := by
  rintro rfl
  rw [annotatedTagTarget] at read
  repeat' split at read
  all_goals cases read
  simp_all

variable {σ : Type} (inspect : String → σ → Except String (PublishedObject × σ))
  (consumeTag : String → List UInt8 → σ → Except String σ)

/-- The object `current` has type `objectType` and leads through `tags` to `commit`. Every object is
looked at, and every tag is handed over with its metadata, once and in this order. -/
inductive Leads : String → String → σ → List (String × List UInt8) → String → σ → Prop
  | commit {current : String} {state after : σ} {data : List UInt8} :
    (validObjectID current && !allZero current) = true →
    inspect current state = .ok (⟨"commit", data⟩, after) →
    Leads current "commit" state [] current after
  | tag {current target targetType commit : String} {state seen consumed after : σ}
      {data : List UInt8} {tags : List (String × List UInt8)} :
    (validObjectID current && !allZero current) = true →
    inspect current state = .ok (⟨"tag", data⟩, seen) →
    annotatedTagTarget data = .ok (target, targetType) →
    consumeTag current data seen = .ok consumed →
    Leads target targetType consumed tags commit after →
    Leads current "tag" state ((current, data) :: tags) commit after

variable {inspect consumeTag} {current commit expected : String} {state after : σ}
  {visited : List String}

theorem walkFrom_eq (left : Nat) :
    walkFrom inspect consumeTag left visited expected current state = (do
      ensure "annotated tag contains an invalid target identity"
        (validObjectID current && !allZero current)
      ensure "annotated tag chain contains a cycle" (current ∉ visited)
      let (object, state) ← inspect current state
      ensure "annotated tag target type does not match the target object"
        (expected = "" || object.objectType = expected)
      if object.objectType = "commit" then .ok (current, state)
      else if object.objectType = "tag" then
        match left with
        | 0 => .error "annotated tag chain exceeds the source-safety depth limit"
        | left + 1 => do
          let (target, targetType) ← annotatedTagTarget object.data
          let state ← consumeTag current object.data state
          walkFrom inspect consumeTag left (current :: visited) targetType target state
      else .error "pre-push update references an unsupported Git object type") := by
  -- No equation is derived for a match on the type and the depth together.
  delta walkFrom
  cases left <;>
  · refine bind_congr fun _ => bind_congr fun _ => bind_congr fun ⟨⟨objectType, data⟩, state⟩ =>
      bind_congr fun _ => ?_
    by_cases commit : objectType = "commit"
    · rw [if_pos commit]
      subst commit
      rfl
    · rw [if_neg commit]
      by_cases tag : objectType = "tag"
      · rw [if_pos tag]
        subst tag
        rfl
      · rw [if_neg tag]
        simp [tag]

theorem walkFrom_leads {left : Nat}
    (walked : walkFrom inspect consumeTag left visited expected current state =
      .ok (commit, after)) :
    ∃ objectType tags, Leads inspect consumeTag current objectType state tags commit after ∧
      (expected = "" ∨ objectType = expected) ∧ tags.length ≤ left ∧
      (tags.map Prod.fst ++ [commit]).Nodup ∧
      ∀ oid ∈ tags.map Prod.fst ++ [commit], oid ∉ visited := by
  induction left using Nat.strong_induction_on generalizing visited expected current state with
  | _ left ih =>
    rw [walkFrom_eq] at walked
    simp only [bind_ok, ensure_ok, decide_eq_true_eq, Bool.or_eq_true, Prod.exists] at walked
    obtain ⟨_, valid, _, fresh, ⟨objectType, data⟩, seen, found, _, declared, ending⟩ := walked
    split at ending
    · rename_i known
      obtain ⟨rfl, rfl⟩ := Prod.mk.inj (Except.ok.inj ending)
      obtain rfl : objectType = "commit" := known
      exact ⟨_, [], .commit valid found, declared, Nat.zero_le _, by simp, by simpa using fresh⟩
    · split at ending
      · rename_i known
        obtain rfl : objectType = "tag" := known
        split at ending
        · cases ending
        · simp only [bind_ok, Prod.exists] at ending
          obtain ⟨target, targetType, read, consumed, given, rest⟩ := ending
          obtain ⟨_, tags, leads, named, short, distinct, apart⟩ := ih _ (Nat.lt_succ_self _) rest
          obtain rfl := named.resolve_left (annotatedTagTarget_type read)
          refine ⟨_, (current, data) :: tags, .tag valid found read given leads, declared,
            Nat.succ_le_succ short, List.nodup_cons.mpr ⟨fun member => ?_, distinct⟩,
            List.forall_mem_cons.mpr ⟨fresh, fun oid member before => ?_⟩⟩
          · exact apart current member List.mem_cons_self
          · exact apart oid member (List.mem_cons_of_mem _ before)
      · cases ending

theorem Leads.walkFrom {left : Nat} {objectType : String} {tags : List (String × List UInt8)}
    (leads : Leads inspect consumeTag current objectType state tags commit after)
    (declared : expected = "" ∨ objectType = expected) (short : tags.length ≤ left)
    (distinct : (tags.map Prod.fst ++ [commit]).Nodup)
    (apart : ∀ oid ∈ tags.map Prod.fst ++ [commit], oid ∉ visited) :
    walkFrom inspect consumeTag left visited expected current state = .ok (commit, after) := by
  induction leads generalizing left visited expected with
  | commit valid found =>
    have outside := List.forall_mem_singleton.mp apart
    rw [walkFrom_eq]
    simp [ensure, valid, outside, ok_bind, found, declared]
  | tag valid found read given _ ih =>
    obtain ⟨next, rfl⟩ : ∃ next, left = next + 1 := Nat.exists_eq_succ_of_ne_zero (by grind)
    obtain ⟨fresh, distinct⟩ := List.nodup_cons.mp distinct
    obtain ⟨outside, apart⟩ := List.forall_mem_cons.mp apart
    have rest := ih (.inr rfl) (Nat.le_of_succ_le_succ short) distinct fun oid member =>
      List.not_mem_cons_of_ne_of_not_mem (ne_of_mem_of_not_mem member fresh) (apart oid member)
    rw [walkFrom_eq]
    simp [ensure, valid, outside, ok_bind, found, declared, read, given, rest]

/-- Every object of the chain is looked at once, so that the commit too is none of its tags. -/
theorem walkPublishedObject_ok_iff {start : String} :
    walkPublishedObject inspect consumeTag start state = .ok (commit, after) ↔
      ∃ objectType tags,
        Leads inspect consumeTag (lower start) objectType state tags commit after ∧
        tags.length ≤ 64 ∧ (tags.map Prod.fst ++ [commit]).Nodup := by
  constructor
  · intro walked
    obtain ⟨objectType, tags, leads, -, short, distinct, -⟩ := walkFrom_leads walked
    exact ⟨objectType, tags, leads, short, distinct⟩
  · rintro ⟨objectType, tags, leads, short, distinct⟩
    exact leads.walkFrom (.inl rfl) short distinct fun _ _ => List.not_mem_nil

end CloudRing.SourceCheck
