import Mathlib.Data.List.Infix
import Mathlib.Data.List.TakeWhile

/-!
# Texts of given characters

A first character of one class, characters of a second class, and a last character of a third
(`bracketed`).
-/

namespace CloudRing.Library.Pattern

/-- The class `[a-z]`. -/
def isLower (char : Char) : Bool := 'a' ≤ char && char ≤ 'z'

/-- The class `[a-z0-9]`. -/
def isLowerOrDigit (char : Char) : Bool := isLower char || ('0' ≤ char && char ≤ '9')

/-- The class `[0-9a-f]`. -/
def isHexDigit (char : Char) : Bool := ('0' ≤ char && char ≤ '9') || ('a' ≤ char && char ≤ 'f')

def isSpace (char : Char) : Bool :=
  char.toNat ∈ [0x09, 0x0A, 0x0B, 0x0C, 0x0D, 0x20, 0x85, 0xA0, 0x1680, 0x2028, 0x2029, 0x202F,
    0x205F, 0x3000] || (0x2000 ≤ char.toNat && char.toNat ≤ 0x200A)

/-- A text of which `strings.TrimSpace` leaves nothing. -/
def blank (value : String) : Bool := value.toList.all isSpace

/-- `strings.TrimSpace`. -/
def trimSpace (text : String) : String :=
  String.ofList (((text.toList.dropWhile isSpace).reverse.dropWhile isSpace).reverse)

/-- The pattern `^[first](?:[inner]*[last])?$`. -/
def bracketed (first inner last : Char → Bool) (value : String) : Bool :=
  match value.toList with
  | [] => false
  | head :: rest =>
    first head && (rest.isEmpty || (rest.dropLast.all inner && rest.getLast?.any last))

variable {first inner last : Char → Bool} {separator : Char} {value : String}

theorem bracketed_mem (holds : bracketed first inner last value = true) :
    ∀ char ∈ value.toList, first char = true ∨ inner char = true ∨ last char = true := by
  intro char member
  rw [bracketed] at holds
  cases shape : value.toList with
  | nil =>
    rw [shape] at member
    exact absurd member List.not_mem_nil
  | cons head rest =>
    simp only [shape, Bool.and_eq_true, Bool.or_eq_true, List.isEmpty_iff] at holds
    rw [shape] at member
    rcases List.mem_cons.mp member with rfl | later
    · exact Or.inl holds.1
    · rcases holds.2 with empty | ⟨inside, ends⟩
      · rw [empty] at later
        exact absurd later List.not_mem_nil
      · cases isLast : rest.getLast? with
        | none =>
          rw [isLast] at ends
          cases ends
        | some final =>
          rw [isLast] at ends
          rw [← List.dropLast_append_getLast? final isLast, List.mem_append,
            List.mem_singleton] at later
          rcases later with middle | rfl
          · exact Or.inr (Or.inl (List.all_eq_true.mp inside char middle))
          · exact Or.inr (Or.inr ends)

theorem bracketed_notMem {char : Char}
    (holds : bracketed first inner last value = true) (outside : first char = false)
    (outsideInner : inner char = false) (outsideLast : last char = false) :
    char ∉ value.toList := by
  intro member
  rcases bracketed_mem holds char member with accepted | accepted | accepted
  · rw [outside] at accepted
    cases accepted
  · rw [outsideInner] at accepted
    cases accepted
  · rw [outsideLast] at accepted
    cases accepted

theorem bracketed_ne_empty (holds : bracketed first inner last value = true) : value ≠ "" := by
  rintro rfl
  cases holds

/-- `strings.Cut`: the text before the first separator, and the text after it if there is one. -/
def cut (separator : Char) (value : String) : String × Option String :=
  (String.ofList (value.toList.takeWhile (· ≠ separator)),
    match value.toList.dropWhile (· ≠ separator) with
    | [] => none
    | _ :: after => some (String.ofList after))

theorem cut_some {before after : String} (parts : cut separator value = (before, some after)) :
    value.toList = before.toList ++ separator :: after.toList := by
  rw [cut, Prod.mk.injEq] at parts
  obtain ⟨rfl, found⟩ := parts
  cases rest : value.toList.dropWhile (· ≠ separator) with
  | nil =>
    rw [rest] at found
    cases found
  | cons head tail =>
    rw [rest, Option.some.injEq] at found
    have isSeparator : head = separator := by
      have first := List.head?_dropWhile_not (fun char => decide (char ≠ separator)) value.toList
      rw [rest] at first
      simpa using first
    rw [← found, String.toList_ofList, String.toList_ofList]
    conv_lhs => rw [← List.takeWhile_append_dropWhile
      (p := fun char => decide (char ≠ separator)) (l := value.toList), rest, isSeparator]

theorem cut_none {before : String}
    (parts : cut separator value = (before, none)) : value = before := by
  rw [cut, Prod.mk.injEq] at parts
  obtain ⟨rfl, missing⟩ := parts
  cases rest : value.toList.dropWhile (· ≠ separator) with
  | nil =>
    have whole : value.toList.takeWhile (· ≠ separator) = value.toList := by
      have split := List.takeWhile_append_dropWhile
        (p := fun char => decide (char ≠ separator)) (l := value.toList)
      rwa [rest, List.append_nil] at split
    rw [whole, String.ofList_toList]
  | cons head tail =>
    rw [rest] at missing
    cases missing

section Separated

variable {left left' right right' : List Char}

theorem takeWhile_separator (right : List Char) (clean : separator ∉ left) :
    (left ++ separator :: right).takeWhile (· ≠ separator) = left := by
  have other : ∀ char ∈ left, decide (char ≠ separator) = true := fun char member =>
    decide_eq_true (ne_of_mem_of_not_mem member clean)
  rw [List.takeWhile_append_of_pos other, List.takeWhile_cons_of_neg (by simp), List.append_nil]

theorem append_cons_inj (clean : separator ∉ left) (clean' : separator ∉ left')
    (same : left ++ separator :: right = left' ++ separator :: right') :
    left = left' ∧ right = right' := by
  have front : left = left' := by
    rw [← takeWhile_separator right clean, same, takeWhile_separator _ clean']
  rw [front, List.append_cancel_left_eq, List.cons.injEq] at same
  exact ⟨front, same.2⟩

end Separated

/-- A text cut at its first separator. -/
theorem cut_join {before after : String} (clean : separator ∉ before.toList) :
    cut separator (before ++ String.singleton separator ++ after) = (before, some after) := by
  have front := takeWhile_separator after.toList clean
  have whole := List.takeWhile_append_dropWhile
    (p := fun char => decide (char ≠ separator)) (l := before.toList ++ separator :: after.toList)
  rw [front, List.append_cancel_left_eq] at whole
  simp only [cut, String.toList_append, String.toList_singleton, List.append_assoc,
    List.singleton_append, front, whole, String.ofList_toList]

theorem join_inj {left left' right right' : String}
    (clean : separator ∉ left.toList) (clean' : separator ∉ left'.toList)
    (same : left ++ String.singleton separator ++ right =
      left' ++ String.singleton separator ++ right') : left = left' ∧ right = right' := by
  have lists := congrArg String.toList same
  simp only [String.toList_append, String.toList_singleton, List.append_assoc,
    List.singleton_append] at lists
  obtain ⟨front, back⟩ := append_cons_inj clean clean' lists
  exact ⟨String.toList_inj.mp front, String.toList_inj.mp back⟩

theorem join_unique {left left' right right' : String}
    (clean : separator ∉ left.toList) (cleanRight : separator ∉ right.toList)
    (same : left ++ String.singleton separator ++ right =
      left' ++ String.singleton separator ++ right') : left = left' ∧ right = right' := by
  have lists := congrArg String.toList same
  simp only [String.toList_append, String.toList_singleton, List.append_assoc,
    List.singleton_append] at lists
  obtain ⟨front, -, back⟩ := (List.append_cons_inj_of_notMem clean cleanRight).mp lists
  exact ⟨String.toList_inj.mp front, String.toList_inj.mp back⟩

def terminated (separator : Char) (fields : List String) : List Char :=
  fields.flatMap fun field => field.toList ++ [separator]

theorem terminated_inj {fields fields' : List String}
    (clean : ∀ field ∈ fields, separator ∉ field.toList)
    (clean' : ∀ field ∈ fields', separator ∉ field.toList)
    (same : terminated separator fields = terminated separator fields') : fields = fields' := by
  induction fields generalizing fields' with
  | nil =>
    cases fields' with
    | nil => rfl
    | cons field rest => simp [terminated] at same
  | cons field rest ih =>
    cases fields' with
    | nil => simp [terminated] at same
    | cons field' rest' =>
      simp only [terminated, List.flatMap_cons, List.append_assoc, List.singleton_append] at same
      obtain ⟨front, back⟩ := append_cons_inj (clean field List.mem_cons_self)
        (clean' field' List.mem_cons_self) same
      rw [String.toList_inj.mp front, ih (fun other member =>
        clean other (List.mem_cons_of_mem _ member)) (fun other member =>
        clean' other (List.mem_cons_of_mem _ member)) back]

theorem notMem_toDigits {char : Char} (other : char.isDigit = false) (value : Nat) :
    char ∉ Nat.toDigits 10 value := by
  intro member
  rw [Nat.isDigit_of_mem_toDigits (by decide) (by decide) member] at other
  cases other

theorem toDigits_inj {left right : Nat} (same : Nat.toDigits 10 left = Nat.toDigits 10 right) :
    left = right := by
  have values := congrArg (Nat.ofDigitChars 10 · 0) same
  simpa only [Nat.ofDigitChars_ten_toDigits] using values

end CloudRing.Library.Pattern
