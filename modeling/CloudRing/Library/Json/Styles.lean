import CloudRing.Library.Json.Render

/-!
# The two writers of documents

Go's `encoding/json` and PostgreSQL's `jsonb` output are instances of one style with a set of
further characters to escape, and both are lawful for the same reason.
-/

namespace CloudRing.Library.Json

def hexDigit (value : Nat) : Char :=
  if value < 10 then Char.ofNat ('0'.toNat + value) else Char.ofNat ('a'.toNat + (value - 10))

def unitEscape (unit : Nat) : List Char :=
  ['\\', 'u', hexDigit (unit / 4096 % 16), hexDigit (unit / 256 % 16), hexDigit (unit / 16 % 16),
    hexDigit (unit % 16)]

/-- The text of a character inside a string: a short escape where JSON has one, the escape of
its code unit for other control characters and for the further characters, and else itself. -/
def escapeWith (further : Char → Bool) (rune : Char) : List Char :=
  if rune = '"' then ['\\', '"']
  else if rune = '\\' then ['\\', '\\']
  else if rune = '\x08' then ['\\', 'b']
  else if rune = '\x0c' then ['\\', 'f']
  else if rune = '\n' then ['\\', 'n']
  else if rune = '\r' then ['\\', 'r']
  else if rune = '\t' then ['\\', 't']
  else if rune.toNat < 0x20 || further rune then unitEscape rune.toNat
  else [rune]

def isHTML (rune : Char) : Bool :=
  rune = '<' || rune = '>' || rune = '&' || rune = '\u2028' || rune = '\u2029'

/-- The layout of `json.Marshal`. -/
def goStyle : Style := ⟨escapeWith isHTML, [], []⟩

/-- The layout of `jsonb::text`. -/
def postgresStyle : Style := ⟨escapeWith fun _ => false, [' '], [' ']⟩

theorem hexValue_hexDigit : ∀ value, value < 16 → hexValue (hexDigit value) = some value := by
  decide

theorem hexUnit_digits {unit : Nat} (small : unit < 0x10000) :
    hexUnit (hexDigit (unit / 4096 % 16)) (hexDigit (unit / 256 % 16))
      (hexDigit (unit / 16 % 16)) (hexDigit (unit % 16)) = some unit := by
  simp only [hexUnit, hexValue_hexDigit _ (Nat.mod_lt _ (by decide : 0 < 16)),
    Option.bind_eq_bind, Option.bind_some, Option.some.injEq]
  omega

theorem scanString_short {mark rune : Char} {rest : List Char}
    (escape : scanEscape (mark :: rest) = some (rune, 1)) :
    scanString ('\\' :: mark :: rest) =
      (scanString rest).map fun (text, rest) => (rune :: text, rest) := by
  rw [scanString, scanStringAfter, if_neg (by decide), if_pos rfl, escape]
  rfl

theorem scanString_unit (rune : Char) (small : rune.toNat < 0x10000) (rest : List Char) :
    scanString (unitEscape rune.toNat ++ rest) =
      (scanString rest).map fun (text, rest) => (rune :: text, rest) := by
  have range := Utf8.rune_range rune
  have high : isHighSurrogate rune.toNat = false := by
    simp only [isHighSurrogate, Bool.and_eq_false_iff, decide_eq_false_iff_not]
    omega
  have low : isLowSurrogate rune.toNat = false := by
    simp only [isLowSurrogate, Bool.and_eq_false_iff, decide_eq_false_iff_not]
    omega
  have read : ∀ rest, runeOfUnit rune.toNat rest = (rune, 5) := by
    intro rest
    unfold runeOfUnit
    rw [high, low]
    simp only [Bool.false_eq_true, ↓reduceIte, Char.ofNat_toNat]
  simp only [unitEscape, List.cons_append, List.nil_append]
  rw [scanString, scanStringAfter, if_neg (by decide), if_pos rfl]
  simp only [scanEscape, hexUnit_digits small, Option.map_some, read]
  rfl

theorem escapeWith_scanned {further : Char → Bool}
    (single : ∀ rune, further rune = true → rune.toNat < 0x10000) (rune : Char)
    (rest : List Char) :
    scanString (escapeWith further rune ++ rest) =
      (scanString rest).map fun (text, rest) => (rune :: text, rest) := by
  unfold escapeWith
  -- The seven characters with an escape of their own.
  iterate 7
    split
    · rename_i same
      rw [same]
      exact scanString_short rfl
  split
  · rename_i escaped
    rw [Bool.or_eq_true, decide_eq_true_eq] at escaped
    apply scanString_unit
    rcases escaped with control | outside
    · omega
    · exact single rune outside
  · rename_i quote backslash _ _ _ _ _ plain
    simp only [Bool.or_eq_true, decide_eq_true_eq, not_or] at plain
    rw [List.cons_append, List.nil_append, scanString, scanStringAfter, if_neg quote,
      if_neg backslash, if_neg plain.1]
    rfl

theorem goStyle_lawful : goStyle.Lawful where
  escaped := escapeWith_scanned fun rune html => by
    simp only [isHTML, Bool.or_eq_true, decide_eq_true_eq] at html
    rcases html with (((rfl | rfl) | rfl) | rfl) | rfl <;> decide
  comma := by simp [goStyle]
  colon := by simp [goStyle]

theorem postgresStyle_lawful : postgresStyle.Lawful where
  escaped := escapeWith_scanned fun rune never => by simp at never
  comma := by simp [postgresStyle, isSpace]
  colon := by simp [postgresStyle, isSpace]

end CloudRing.Library.Json
