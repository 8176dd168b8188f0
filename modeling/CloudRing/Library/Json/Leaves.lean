import CloudRing.Library.Json.Render

/-!
# The strings of a document

A string of a value is written character by character, so what it contains is contained in the
document, in the escapes of the document's style.
-/

namespace CloudRing.Library.Json

mutual

def leaves : Json → List String
  | string text => [text]
  | array items => leavesItems items
  | object members => leavesMembers members
  | _ => []

def leavesItems : List Json → List String
  | [] => []
  | item :: items => leaves item ++ leavesItems items

def leavesMembers : List (String × Json) → List String
  | [] => []
  | (_, value) :: members => leaves value ++ leavesMembers members

end

theorem leavesItems_eq (items : List Json) : leavesItems items = items.flatMap leaves := by
  induction items with
  | nil => rfl
  | cons item items ih => rw [leavesItems, ih, List.flatMap_cons]

theorem leavesMembers_eq (members : List (String × Json)) :
    leavesMembers members = members.flatMap fun member => leaves member.2 := by
  induction members with
  | nil => rfl
  | cons member members ih => rw [leavesMembers, ih, List.flatMap_cons]

theorem leavesMembers_append (first second : List (String × Json)) :
    leavesMembers (first ++ second) = leavesMembers first ++ leavesMembers second := by
  rw [leavesMembers_eq, leavesMembers_eq, leavesMembers_eq, List.flatMap_append]

theorem inside_between {part whole : List Char} (before after : List Char)
    (inside : part <:+: whole) : part <:+: before ++ whole ++ after :=
  inside.trans ⟨before, after, rfl⟩

mutual

theorem render_leaf (style : Style) : ∀ (value : Json) {text : String}, text ∈ leaves value →
    text.toList.flatMap style.escape <:+: style.render value
  | string text, found, listed => by
    obtain rfl := List.mem_singleton.mp listed
    exact ⟨['"'], ['"'], rfl⟩
  | array items, _, listed => inside_between ['['] [']'] (renderItems_leaf style items listed)
  | object members, _, listed =>
    inside_between ['{'] ['}'] (renderMembers_leaf style members listed)

theorem renderItems_leaf (style : Style) : ∀ (items : List Json) {text : String},
    text ∈ leavesItems items → text.toList.flatMap style.escape <:+: style.renderItems items
  | [item], _, listed => by
    rw [leavesItems, leavesItems, List.append_nil] at listed
    exact render_leaf style item listed
  | item :: next :: items, _, listed => by
    simp only [Style.renderItems]
    rcases List.mem_append.mp listed with here | later
    · have inside := render_leaf style item here
      exact inside.trans ((List.prefix_append _ _).trans (List.prefix_append _ _)).isInfix
    · have rest := renderItems_leaf style (next :: items) later
      exact rest.trans (List.suffix_append _ _).isInfix

theorem renderMembers_leaf (style : Style) : ∀ (members : List (String × Json)) {text : String},
    text ∈ leavesMembers members →
      text.toList.flatMap style.escape <:+: style.renderMembers members
  | [(key, value)], _, listed => by
    rw [leavesMembers, leavesMembers, List.append_nil] at listed
    exact (render_leaf style value listed).trans (List.suffix_append _ _).isInfix
  | (key, value) :: next :: members, _, listed => by
    simp only [Style.renderMembers]
    rcases List.mem_append.mp listed with here | later
    · have inside := render_leaf style value here
      rw [List.append_assoc]
      exact inside_between _ _ inside
    · have rest := renderMembers_leaf style (next :: members) later
      exact rest.trans (List.suffix_append _ _).isInfix

end

end CloudRing.Library.Json
