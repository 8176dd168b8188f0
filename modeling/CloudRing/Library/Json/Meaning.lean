import CloudRing.Library.Json.Reshape

/-!
# What a JSON value means

A meaning has finite maps for objects, so that the order of members is no part of it.
-/

namespace CloudRing.Library.Json

inductive Meaning where
  | null
  | bool (value : Bool)
  | number (value : Numeral)
  | string (text : String)
  | array (items : List Meaning)
  | object (members : String → Option Meaning)

mutual

def meaning : Json → Meaning
  | null => .null
  | bool value => .bool value
  | Json.number value => .number value
  | string text => .string text
  | array items => .array (meaningItems items)
  | object members => .object (meaningMembers members)

def meaningItems : List Json → List Meaning
  | [] => []
  | item :: items => meaning item :: meaningItems items

def meaningMembers : List (String × Json) → String → Option Meaning
  | [], _ => none
  | (key, value) :: members, asked =>
    if asked = key then some (meaning value) else meaningMembers members asked

end

theorem meaningMembers_some {members : List (String × Json)}
    (distinct : (members.map Prod.fst).Nodup) {key : String} {found : Meaning} :
    meaningMembers members key = some found ↔
      ∃ value, (key, value) ∈ members ∧ meaning value = found := by
  induction members with
  | nil => simp [meaningMembers]
  | cons member members ih =>
    obtain ⟨name, first⟩ := member
    rw [List.map_cons, List.nodup_cons] at distinct
    rw [meaningMembers]
    by_cases same : key = name
    · have unlisted : ∀ value, (key, value) ∉ members := fun value listed =>
        distinct.1 (List.mem_map.mpr ⟨(key, value), listed, same⟩)
      simp [same, same ▸ unlisted]
    · rw [if_neg same, ih distinct.2]
      simp [same]

theorem meaningMembers_congr {left right : List (String × Json)}
    (leftDistinct : (left.map Prod.fst).Nodup) (rightDistinct : (right.map Prod.fst).Nodup)
    (agree : ∀ key found, (∃ value, (key, value) ∈ left ∧ meaning value = found) ↔
      ∃ value, (key, value) ∈ right ∧ meaning value = found) :
    meaningMembers left = meaningMembers right := by
  funext key
  apply Option.ext
  intro found
  rw [meaningMembers_some leftDistinct, meaningMembers_some rightDistinct]
  exact agree key found

theorem mem_sortedMembers {members : List (String × Json)} {key : String} {found : Json} :
    (key, found) ∈ reshapeMembers id sortByKey members ↔
      ∃ value, (key, value) ∈ members ∧ sorted value = found := by
  rw [reshapeMembers_eq_map, List.mem_map]
  constructor
  · rintro ⟨⟨name, value⟩, listed, same⟩
    obtain ⟨rfl, rfl⟩ := Prod.mk.inj same
    exact ⟨value, listed, rfl⟩
  · rintro ⟨value, listed, rfl⟩
    exact ⟨(key, value), listed, rfl⟩

theorem sortedMembers_nodup {members : List (String × Json)}
    (distinct : (members.map Prod.fst).Nodup) :
    ((reshapeMembers id sortByKey members).map Prod.fst).Nodup := by
  rw [reshapeMembers_keys]
  exact distinct

mutual

theorem meaning_sorted : ∀ value : Json, DistinctKeys value → meaning (sorted value) = meaning value
  | null, _ | bool _, _ | Json.number _, _ | string _, _ => by simp [sorted, reshape]
  | array items, distinct => by
    simp only [sorted, reshape, meaning, meaningItems_sorted items distinct]
  | object members, distinct => by
    have order := sortByKey_perm (reshapeMembers id sortByKey members)
    have inner := meaningMembers_sorted members distinct.2
    simp only [sorted, reshape, meaning]
    congr 1
    apply meaningMembers_congr _ distinct.1
    · intro key found
      simp only [order.mem_iff, mem_sortedMembers]
      constructor
      · rintro ⟨_, ⟨value, listed, rfl⟩, rfl⟩
        exact ⟨value, listed, (inner _ listed).symm⟩
      · rintro ⟨value, listed, rfl⟩
        exact ⟨_, ⟨value, listed, rfl⟩, inner _ listed⟩
    · exact (order.map Prod.fst).nodup_iff.mpr (sortedMembers_nodup distinct.1)

theorem meaningItems_sorted : ∀ items : List Json, DistinctItems items →
    meaningItems (reshapeItems id sortByKey items) = meaningItems items
  | [], _ => rfl
  | item :: items, distinct => by
    have first : meaning (reshape id sortByKey item) = meaning item :=
      meaning_sorted item distinct.1
    rw [reshapeItems, meaningItems, first, meaningItems_sorted items distinct.2, meaningItems]

theorem meaningMembers_sorted : ∀ members : List (String × Json), DistinctMembers members →
    ∀ member ∈ members, meaning (sorted member.2) = meaning member.2
  | (_, value) :: members, distinct, member, listed => by
    cases listed with
    | head => exact meaning_sorted value distinct.1
    | tail _ later => exact meaningMembers_sorted members distinct.2 member later

end

mutual

theorem sorted_of_meaning : ∀ left right : Json, DistinctKeys left → DistinctKeys right →
    meaning left = meaning right → sorted left = sorted right
  | null, right, _, _, same | bool _, right, _, _, same
  | Json.number _, right, _, _, same | string _, right, _, _, same => by
    cases right <;> simp_all [meaning]
  | array items, right, leftDistinct, rightDistinct, same => by
    cases right with
    | array others =>
      simp only [meaning, Meaning.array.injEq] at same
      simp only [sorted, reshape,
        sortedItems_of_meaning items others leftDistinct rightDistinct same]
    | _ => simp [meaning] at same
  | object members, right, leftDistinct, rightDistinct, same => by
    cases right with
    | object others =>
      simp only [meaning, Meaning.object.injEq] at same
      have inner := sortedMembers_of_meaning members leftDistinct.2
      have outer := (distinctMembers_iff others).mp rightDistinct.2
      have keys := sortedMembers_nodup leftDistinct.1
      simp only [sorted, reshape]
      congr 1
      apply sortByKey_eq _ keys
      rw [List.perm_ext_iff_of_nodup keys.of_map (sortedMembers_nodup rightDistinct.1).of_map]
      rintro ⟨key, found⟩
      rw [mem_sortedMembers, mem_sortedMembers]
      constructor
      · rintro ⟨value, listed, rfl⟩
        have here := (meaningMembers_some leftDistinct.1).mpr ⟨value, listed, rfl⟩
        rw [same] at here
        obtain ⟨other, there, alike⟩ := (meaningMembers_some rightDistinct.1).mp here
        exact ⟨other, there, (inner _ listed other (outer _ there) alike.symm).symm⟩
      · rintro ⟨other, there, rfl⟩
        have here := (meaningMembers_some rightDistinct.1).mpr ⟨other, there, rfl⟩
        rw [← same] at here
        obtain ⟨value, listed, alike⟩ := (meaningMembers_some leftDistinct.1).mp here
        exact ⟨value, listed, inner _ listed other (outer _ there) alike⟩
    | _ => simp [meaning] at same

theorem sortedItems_of_meaning : ∀ left right : List Json, DistinctItems left →
    DistinctItems right → meaningItems left = meaningItems right →
      reshapeItems id sortByKey left = reshapeItems id sortByKey right
  | [], [], _, _, _ => rfl
  | [], _ :: _, _, _, same | _ :: _, [], _, _, same => by simp [meaningItems] at same
  | item :: items, other :: others, leftDistinct, rightDistinct, same => by
    simp only [meaningItems, List.cons.injEq] at same
    have first : reshape id sortByKey item = reshape id sortByKey other :=
      sorted_of_meaning item other leftDistinct.1 rightDistinct.1 same.1
    rw [reshapeItems, reshapeItems, first,
      sortedItems_of_meaning items others leftDistinct.2 rightDistinct.2 same.2]

theorem sortedMembers_of_meaning : ∀ members : List (String × Json), DistinctMembers members →
    ∀ member ∈ members, ∀ other, DistinctKeys other → meaning member.2 = meaning other →
      sorted member.2 = sorted other
  | (_, value) :: members, distinct, member, listed, other, otherDistinct, same => by
    cases listed with
    | head => exact sorted_of_meaning value other distinct.1 otherDistinct same
    | tail _ later =>
      exact sortedMembers_of_meaning members distinct.2 member later other otherDistinct same

end

theorem marshal_eq_iff {left right : Json} (leftDistinct : DistinctKeys left)
    (rightDistinct : DistinctKeys right) :
    marshal left = marshal right ↔ meaning left = meaning right := by
  constructor
  · intro same
    have alike : sorted left = sorted right := bytes_injective goStyle_lawful same
    rw [← meaning_sorted left leftDistinct, alike, meaning_sorted right rightDistinct]
  · intro same
    rw [marshal, sorted_of_meaning left right leftDistinct rightDistinct same, marshal]

end CloudRing.Library.Json
