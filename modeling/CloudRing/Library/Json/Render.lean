import CloudRing.Library.Json.Parse

/-!
# Writing JSON values, and reading them back

A style fixes how a writer escapes characters and which white space it puts after commas and colons.
-/

namespace CloudRing.Library.Json

structure Style where
  escape : Char → List Char
  (afterComma afterColon : List Char)

namespace Style

def quote (style : Style) (text : String) : List Char :=
  '"' :: text.toList.flatMap style.escape ++ ['"']

mutual

def render (style : Style) : Json → List Char
  | .null => ['n', 'u', 'l', 'l']
  | .bool true => ['t', 'r', 'u', 'e']
  | .bool false => ['f', 'a', 'l', 's', 'e']
  | .number numeral => numeral.literal.toList
  | .string text => style.quote text
  | .array items => '[' :: style.renderItems items ++ [']']
  | .object members => '{' :: style.renderMembers members ++ ['}']

def renderItems (style : Style) : List Json → List Char
  | [] => []
  | [item] => style.render item
  | item :: items => style.render item ++ ',' :: style.afterComma ++ style.renderItems items

def renderMembers (style : Style) : List (String × Json) → List Char
  | [] => []
  | [(key, value)] => style.quote key ++ ':' :: style.afterColon ++ style.render value
  | (key, value) :: members =>
    style.quote key ++ ':' :: style.afterColon ++ style.render value ++
      ',' :: style.afterComma ++ style.renderMembers members

end

def bytes (style : Style) (value : Json) : List UInt8 := Utf8.encode (style.render value)

/-- The string scanner reads back every character the style writes, and only white space
stands after commas and colons. -/
structure Lawful (style : Style) : Prop where
  escaped : ∀ rune rest, scanString (style.escape rune ++ rest) =
    (scanString rest).map fun (text, rest) => (rune :: text, rest)
  comma : ∀ char ∈ style.afterComma, isSpace char = true
  colon : ∀ char ∈ style.afterColon, isSpace char = true

end Style

section Scanners

theorem skipSpace_append {space : List Char} (blank : ∀ char ∈ space, isSpace char = true)
    (text : List Char) : skipSpace (space ++ text) = skipSpace text := by
  rw [skipSpace, List.dropWhile_append_of_pos blank]
  rfl

theorem skipSpace_cons {first : Char} (printed : isSpace first = false) (rest : List Char) :
    skipSpace (first :: rest) = first :: rest := by
  rw [skipSpace, List.dropWhile_cons_of_neg (by simp [printed])]

def Boundary (text : List Char) : Prop :=
  ∀ first rest, text = first :: rest →
    first.isDigit = false ∧ first ≠ '.' ∧ first ≠ 'e' ∧ first ≠ 'E'

theorem boundary_nil : Boundary [] := by
  intro first rest same
  cases same

variable {rest text : List Char}

theorem boundary_cons {first : Char}
    (outside : first.isDigit = false ∧ first ≠ '.' ∧ first ≠ 'e' ∧ first ≠ 'E') :
    Boundary (first :: rest) := by
  intro other more same
  cases same
  exact outside

theorem scanWhile_append (text : List Char) (boundary : Boundary rest) :
    scanWhile Char.isDigit (text ++ rest) =
      ((scanWhile Char.isDigit text).1, (scanWhile Char.isDigit text).2 ++ rest) := by
  induction text with
  | nil =>
    cases rest with
    | nil => rfl
    | cons first rest =>
      have outside := (boundary first rest rfl).1
      simp [scanWhile, outside]
  | cons first text ih =>
    simp only [scanWhile, Prod.mk.injEq] at ih
    by_cases digit : first.isDigit = true
    · simp [scanWhile, digit, ih.1, ih.2]
    · simp [scanWhile, digit]

theorem scanSign_append (some : text ≠ []) (rest : List Char) :
    scanSign (text ++ rest) = ((scanSign text).1, (scanSign text).2 ++ rest) := by
  cases text with
  | nil => exact absurd rfl some
  | cons first text =>
    by_cases minus : first = '-'
    · subst minus
      rfl
    · simp [scanSign, minus]

theorem scanInteger_append {digits left : List Char}
    (boundary : Boundary rest) (scanned : scanInteger text = some (digits, left)) :
    scanInteger (text ++ rest) = some (digits, left ++ rest) := by
  cases text with
  | nil => simp [scanInteger] at scanned
  | cons first text =>
    simp only [scanInteger, List.cons_append] at scanned ⊢
    split at scanned
    · rename_i zero
      rw [if_pos zero]
      simp only [Option.some.injEq, Prod.mk.injEq] at scanned
      simp [scanned.1, scanned.2]
    · rename_i zero
      rw [if_neg zero]
      split at scanned
      · rename_i digit
        rw [if_pos digit, scanWhile_append text boundary]
        simp only [Option.some.injEq, Prod.mk.injEq] at scanned
        simp [scanned.1, scanned.2]
      · contradiction

theorem scanFraction_append (text : List Char) (boundary : Boundary rest) :
    scanFraction (text ++ rest) = ((scanFraction text).1, (scanFraction text).2 ++ rest) := by
  match text with
  | [] =>
    cases rest with
    | nil => rfl
    | cons first rest =>
      have outside := (boundary first rest rfl).2.1
      unfold scanFraction
      split
      · rename_i same
        simp only [List.nil_append, List.cons.injEq] at same
        exact absurd same.1 outside
      · rfl
  | [point] =>
    cases rest with
    | nil => simp
    | cons first rest =>
      have outside := (boundary first rest rfl).1
      by_cases dot : point = '.'
      · subst dot
        simp [scanFraction, outside]
      · simp [scanFraction, dot]
  | point :: first :: text =>
    by_cases dot : point = '.'
    · subst dot
      by_cases digit : first.isDigit = true
      · simp [scanFraction, digit, scanWhile_append text boundary]
      · simp [scanFraction, digit]
    · simp [scanFraction, dot]

theorem scanExponentSign_append (some : text ≠ []) (rest : List Char) :
    scanExponentSign (text ++ rest) =
      ((scanExponentSign text).1, (scanExponentSign text).2 ++ rest) := by
  cases text with
  | nil => exact absurd rfl some
  | cons first text =>
    by_cases plus : first = '+'
    · subst plus
      rfl
    · by_cases minus : first = '-'
      · subst minus
        rfl
      · simp [scanExponentSign, plus, minus]

theorem scanExponent_append (text : List Char) (boundary : Boundary rest)
    (closed : (scanExponent text).2 = []) :
    scanExponent (text ++ rest) = ((scanExponent text).1, rest) := by
  cases text with
  | nil =>
    cases rest with
    | nil => rfl
    | cons first rest =>
      have outside := (boundary first rest rfl).2.2
      simp [scanExponent, outside.1, outside.2]
  | cons mark text =>
    by_cases marked : mark = 'e' ∨ mark = 'E'
    · simp only [scanExponent, if_pos marked, List.cons_append] at closed ⊢
      cases signed : (scanExponentSign text).2 with
      | nil => simp [signed] at closed
      | cons first digits =>
        simp only [signed] at closed
        have nonempty : text ≠ [] := by
          intro empty
          subst empty
          simp [scanExponentSign] at signed
        by_cases digit : first.isDigit = true
        · simp only [digit, ↓reduceIte] at closed
          simp [scanExponentSign_append nonempty, digit, signed,
            scanWhile_append digits boundary, closed]
        · simp [digit] at closed
    · simp [scanExponent, marked] at closed

theorem scanNumber_append {literal : List Char}
    (wellFormed : scanNumber literal = some (literal, [])) (boundary : Boundary rest) :
    scanNumber (literal ++ rest) = some (literal, rest) := by
  have nonempty : literal ≠ [] := by
    intro empty
    subst empty
    simp [scanNumber, scanSign, scanInteger] at wellFormed
  unfold scanNumber at wellFormed ⊢
  rw [scanSign_append nonempty rest]
  cases integer : scanInteger (scanSign literal).2 with
  | none => simp [integer] at wellFormed
  | some found =>
    obtain ⟨digits, left⟩ := found
    simp only [integer, Option.some.injEq, Prod.mk.injEq] at wellFormed
    rw [scanInteger_append boundary integer]
    simp only [scanFraction_append left boundary,
      scanExponent_append (scanFraction left).2 boundary wellFormed.2]
    rw [wellFormed.1]

end Scanners

section RoundTrip

variable {style : Style}

theorem scanString_escaped (lawful : style.Lawful) (text rest : List Char) :
    scanString (text.flatMap style.escape ++ '"' :: rest) = some (text, rest) := by
  induction text with
  | nil => rfl
  | cons rune text ih =>
    rw [List.flatMap_cons, List.append_assoc, lawful.escaped, ih]
    rfl

mutual

def cost : Json → Nat
  | array items => 1 + costItems items
  | object members => 1 + costMembers members
  | _ => 1

def costItems : List Json → Nat
  | [] => 0
  | item :: items => 1 + cost item + costItems items

def costMembers : List (String × Json) → Nat
  | [] => 0
  | (_, value) :: members => 1 + cost value + costMembers members

end

theorem render_head (style : Style) (value : Json) :
    ∃ first rest, style.render value = first :: rest ∧ isSpace first = false ∧ first ≠ ']' := by
  cases value with
  | null | string | array | object => exact ⟨_, _, rfl, by decide, by decide⟩
  | bool flag => cases flag <;> exact ⟨_, _, rfl, by decide, by decide⟩
  | number numeral =>
    obtain ⟨literal, wellFormed⟩ := numeral
    simp only [Style.render]
    generalize literal.toList = text at wellFormed
    cases text with
    | nil => simp [scanNumber, scanSign, scanInteger] at wellFormed
    | cons first rest =>
      refine ⟨first, rest, rfl, ?_, ?_⟩
      · by_contra space
        simp only [isSpace, Bool.not_eq_false, Bool.or_eq_true, decide_eq_true_eq] at space
        rcases space with ((rfl | rfl) | rfl) | rfl <;>
          simp [scanNumber, scanSign, scanInteger] at wellFormed
      · rintro rfl
        simp [scanNumber, scanSign, scanInteger] at wellFormed

theorem renderItems_head (style : Style) (item : Json) (items : List Json) :
    ∃ first rest, style.renderItems (item :: items) = first :: rest ∧ isSpace first = false ∧
      first ≠ ']' := by
  obtain ⟨first, rest, start, printed, open_⟩ := render_head style item
  cases items with
  | nil => exact ⟨first, rest, by rw [Style.renderItems, start], printed, open_⟩
  | cons next items =>
    exact ⟨first, rest ++ ',' :: style.afterComma ++ style.renderItems (next :: items),
      by simp [Style.renderItems, start], printed, open_⟩

theorem renderMembers_head (style : Style) (key : String) (value : Json)
    (members : List (String × Json)) :
    ∃ rest, style.renderMembers ((key, value) :: members) = '"' :: rest := by
  cases members with
  | nil | cons => exact ⟨_, rfl⟩

section Space

variable {space : List Char} (blank : ∀ char ∈ space, isSpace char = true) (fuel : Nat)
  (text : List Char)

include blank

theorem parseValue_space : parseValue fuel (space ++ text) = parseValue fuel text := by
  cases fuel with
  | zero => rfl
  | succ fuel => rw [parseValue, parseValue, skipSpace_append blank]

theorem parseItems_space : parseItems fuel (space ++ text) = parseItems fuel text := by
  cases fuel with
  | zero => rfl
  | succ fuel => rw [parseItems, parseItems, parseValue_space blank]

theorem parseMembers_space : parseMembers fuel (space ++ text) = parseMembers fuel text := by
  cases fuel with
  | zero => rfl
  | succ fuel => rw [parseMembers, parseMembers, skipSpace_append blank]

end Space

theorem parseValue_number (numeral : Numeral) (fuel : Nat) {rest : List Char}
    (boundary : Boundary rest) :
    parseValue (fuel + 1) (numeral.literal.toList ++ rest) = some (number numeral, rest) := by
  obtain ⟨literal, wellFormed⟩ := numeral
  have scanned := scanNumber_append wellFormed boundary
  obtain ⟨first, text, start, printed, _⟩ :=
    render_head ⟨fun rune => [rune], [], []⟩ (number ⟨literal, wellFormed⟩)
  simp only [Style.render] at start
  have numeric : first = '-' ∨ first.isDigit = true := by
    rw [start] at wellFormed
    by_contra other
    rw [not_or] at other
    have zero : first ≠ '0' := by
      rintro rfl
      exact other.2 (by decide)
    simp [scanNumber, scanSign, scanInteger, other.1, other.2, zero] at wellFormed
  rw [parseValue]
  have unspaced : skipSpace (literal.toList ++ rest) = literal.toList ++ rest := by
    rw [start, List.cons_append, skipSpace_cons printed]
  rw [unspaced]
  have closed : literal.toList ++ rest = first :: (text ++ rest) := by rw [start]; rfl
  split
  all_goals try
    rename_i same
    rw [closed, List.cons.injEq] at same
    obtain ⟨rfl, -⟩ := same
    exact absurd numeric (by decide)
  rw [scanned]
  simp only [String.ofList_toList, wellFormed, ↓reduceDIte]

mutual

theorem parseValue_render (lawful : style.Lawful) : ∀ (value : Json) (fuel : Nat)
    (rest : List Char), cost value ≤ fuel → Boundary rest →
      parseValue fuel (style.render value ++ rest) = some (value, rest)
  | value, 0, _, enough, _ => by cases value <;> simp [cost] at enough
  | .null, fuel + 1, rest, _, _ => rfl
  | .bool true, fuel + 1, rest, _, _ => rfl
  | .bool false, fuel + 1, rest, _, _ => rfl
  | .number numeral, fuel + 1, rest, _, boundary => parseValue_number numeral fuel boundary
  | .string text, fuel + 1, rest, _, _ => by
    have scanned := scanString_escaped lawful text.toList rest
    simp only [Style.render, Style.quote, List.cons_append, List.append_assoc, List.nil_append]
    rw [parseValue, skipSpace_cons (by decide)]
    simp only [scanned, Option.map_some, String.ofList_toList]
  | .array [], fuel + 1, rest, _, _ => rfl
  | .array (item :: items), fuel + 1, rest, enough, _ => by
    simp only [cost] at enough
    have read := parseItems_render lawful item items fuel rest (by omega)
    obtain ⟨first, text, start, printed, open_⟩ := renderItems_head style item items
    simp only [Style.render, List.cons_append, List.append_assoc, List.nil_append]
    rw [parseValue, skipSpace_cons (by decide)]
    simp only
    rw [start] at read ⊢
    rw [List.cons_append, skipSpace_cons printed]
    split
    · rename_i same
      rw [List.cons.injEq] at same
      exact absurd same.1 open_
    · rw [← List.cons_append, read]
      rfl
  | .object [], fuel + 1, rest, _, _ => rfl
  | .object ((key, value) :: members), fuel + 1, rest, enough, _ => by
    simp only [cost] at enough
    have read := parseMembers_render lawful key value members fuel rest (by omega)
    obtain ⟨text, start⟩ := renderMembers_head style key value members
    simp only [Style.render, List.cons_append, List.append_assoc, List.nil_append]
    rw [parseValue, skipSpace_cons (by decide)]
    simp only
    rw [start, List.cons_append] at read ⊢
    rw [skipSpace_cons (by decide)]
    change (parseMembers fuel ('"' :: (text ++ '}' :: rest))).map _ = _
    rw [read]
    rfl

theorem parseItems_render (lawful : style.Lawful) : ∀ (item : Json) (items : List Json)
    (fuel : Nat) (rest : List Char), costItems (item :: items) ≤ fuel →
      parseItems fuel (style.renderItems (item :: items) ++ ']' :: rest) =
        some (item :: items, rest)
  | _, _, 0, _, enough => by simp [costItems] at enough
  | item, [], fuel + 1, rest, enough => by
    simp only [costItems] at enough
    have read := parseValue_render lawful item fuel (']' :: rest) (by omega)
      (boundary_cons (by decide))
    simp only [Style.renderItems]
    rw [parseItems, read]
    rfl
  | item, next :: items, fuel + 1, rest, enough => by
    rw [costItems] at enough
    have read := parseValue_render lawful item fuel
      (',' :: (style.afterComma ++ (style.renderItems (next :: items) ++ ']' :: rest)))
      (by omega) (boundary_cons (by decide))
    have more := parseItems_render lawful next items fuel rest (by omega)
    simp only [Style.renderItems, List.cons_append, List.append_assoc]
    rw [parseItems, read]
    simp only [skipSpace_cons (show isSpace ',' = false by decide)]
    rw [parseItems_space lawful.comma, more]
    rfl

theorem parseMembers_render (lawful : style.Lawful) : ∀ (key : String) (value : Json)
    (members : List (String × Json)) (fuel : Nat) (rest : List Char),
      costMembers ((key, value) :: members) ≤ fuel →
        parseMembers fuel (style.renderMembers ((key, value) :: members) ++ '}' :: rest) =
          some ((key, value) :: members, rest)
  | _, _, _, 0, _, enough => by simp [costMembers] at enough
  | key, value, [], fuel + 1, rest, enough => by
    simp only [costMembers] at enough
    have read := parseValue_render lawful value fuel ('}' :: rest) (by omega)
      (boundary_cons (by decide))
    have name := scanString_escaped lawful key.toList
      (':' :: (style.afterColon ++ (style.render value ++ '}' :: rest)))
    simp only [Style.renderMembers, Style.quote, List.cons_append, List.append_assoc,
      List.nil_append]
    rw [parseMembers, skipSpace_cons (by decide)]
    simp only [name, skipSpace_cons (show isSpace ':' = false by decide)]
    rw [parseValue_space lawful.colon, read]
    simp only [skipSpace_cons (show isSpace '}' = false by decide), String.ofList_toList]
  | key, value, (next, other) :: members, fuel + 1, rest, enough => by
    rw [costMembers] at enough
    have read := parseValue_render lawful value fuel
      (',' :: (style.afterComma ++ (style.renderMembers ((next, other) :: members) ++ '}' :: rest)))
      (by omega) (boundary_cons (by decide))
    have more := parseMembers_render lawful next other members fuel rest (by omega)
    have name := scanString_escaped lawful key.toList (':' :: (style.afterColon ++
      (style.render value ++ ',' :: (style.afterComma ++
        (style.renderMembers ((next, other) :: members) ++ '}' :: rest)))))
    simp only [Style.renderMembers, Style.quote, List.cons_append, List.append_assoc,
      List.nil_append] at name read more ⊢
    rw [parseMembers, skipSpace_cons (by decide)]
    simp only [name, skipSpace_cons (show isSpace ':' = false by decide)]
    rw [parseValue_space lawful.colon, read]
    simp only [skipSpace_cons (show isSpace ',' = false by decide), String.ofList_toList]
    rw [parseMembers_space lawful.comma, more]
    rfl

end

mutual

theorem cost_le_render (style : Style) : ∀ value : Json,
    cost value + 1 ≤ 2 * (style.render value).length
  | .null | .bool true | .bool false => by simp [cost, Style.render]
  | .number numeral => by
    obtain ⟨first, rest, start, _, _⟩ := render_head style (.number numeral)
    simp only [cost, start, List.length_cons]
    omega
  | .string text => by
    simp only [cost, Style.render, Style.quote, List.length_cons, List.length_append]
    omega
  | .array items => by
    have inner := costItems_le_render style items
    simp only [cost, Style.render, List.length_cons, List.length_append]
    omega
  | .object members => by
    have inner := costMembers_le_render style members
    simp only [cost, Style.render, List.length_cons, List.length_append]
    omega

theorem costItems_le_render (style : Style) : ∀ items : List Json,
    costItems items ≤ 2 * (style.renderItems items).length
  | [] => by simp [costItems]
  | [item] => by
    have first := cost_le_render style item
    simp only [costItems, Style.renderItems]
    omega
  | item :: next :: items => by
    have first := cost_le_render style item
    have later := costItems_le_render style (next :: items)
    rw [costItems, Style.renderItems]
    · simp only [List.length_cons, List.length_append]
      omega
    · simp

theorem costMembers_le_render (style : Style) : ∀ members : List (String × Json),
    costMembers members ≤ 2 * (style.renderMembers members).length
  | [] => by simp [costMembers]
  | [(key, value)] => by
    have first := cost_le_render style value
    simp only [costMembers, Style.renderMembers, List.length_cons, List.length_append]
    omega
  | (key, value) :: next :: members => by
    have first := cost_le_render style value
    have later := costMembers_le_render style (next :: members)
    rw [costMembers, Style.renderMembers]
    · simp only [List.length_cons, List.length_append]
      omega
    · simp

end

theorem parse_bytes (lawful : style.Lawful) (value : Json) :
    parse (style.bytes value) = some value := by
  have enough := cost_le_render style value
  have read := parseValue_render lawful value (2 * (style.render value).length + 2) []
    (by omega) boundary_nil
  rw [List.append_nil] at read
  rw [parse, Style.bytes, Utf8.decode_encode, parseText, read]
  rfl

theorem bytes_injective (lawful : style.Lawful) : Function.Injective style.bytes := by
  intro left right same
  have read := parse_bytes lawful left
  rw [same, parse_bytes lawful right] at read
  exact (Option.some.inj read).symm

end RoundTrip

end CloudRing.Library.Json
