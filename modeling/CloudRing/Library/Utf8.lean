import Mathlib.Tactic.NormNum
import Mathlib.Data.List.Basic

/-!
# UTF-8 text as byte lists

`encode` writes a text in UTF-8, and `decode` reads any byte list as a text: a byte that starts no
well-formed sequence is read as the replacement character.
-/

namespace CloudRing.Library.Utf8

def replacement : Char := '�'

def encodeRune (rune : Char) : List UInt8 :=
  let code := rune.toNat
  if code < 0x80 then [UInt8.ofNat code]
  else if code < 0x800 then [UInt8.ofNat (0xC0 + code / 64), UInt8.ofNat (0x80 + code % 64)]
  else if code < 0x10000 then
    [UInt8.ofNat (0xE0 + code / 4096), UInt8.ofNat (0x80 + code / 64 % 64),
      UInt8.ofNat (0x80 + code % 64)]
  else
    [UInt8.ofNat (0xF0 + code / 262144), UInt8.ofNat (0x80 + code / 4096 % 64),
      UInt8.ofNat (0x80 + code / 64 % 64), UInt8.ofNat (0x80 + code % 64)]

def encode (text : List Char) : List UInt8 := text.flatMap encodeRune

def ofString (text : String) : List UInt8 := encode text.toList

def isTail (byte : Nat) : Bool := 0x80 ≤ byte && byte ≤ 0xBF

def rune2 (lead first : Nat) : Option Char :=
  if 0xC2 ≤ lead ∧ lead ≤ 0xDF ∧ isTail first then
    some (Char.ofNat ((lead - 0xC0) * 64 + (first - 0x80)))
  else none

/-- The character of a well-formed three-byte sequence. Overlong forms and surrogates are
refused by the range of the second byte. -/
def rune3 (lead first second : Nat) : Option Char :=
  if 0xE0 ≤ lead ∧ lead ≤ 0xEF ∧ isTail first ∧ isTail second ∧
      (lead = 0xE0 → 0xA0 ≤ first) ∧ (lead = 0xED → first ≤ 0x9F) then
    some (Char.ofNat ((lead - 0xE0) * 4096 + (first - 0x80) * 64 + (second - 0x80)))
  else none

def rune4 (lead first second third : Nat) : Option Char :=
  if 0xF0 ≤ lead ∧ lead ≤ 0xF4 ∧ isTail first ∧ isTail second ∧ isTail third ∧
      (lead = 0xF0 → 0x90 ≤ first) ∧ (lead = 0xF4 → first ≤ 0x8F) then
    some (Char.ofNat ((lead - 0xF0) * 262144 + (first - 0x80) * 4096 + (second - 0x80) * 64 +
      (third - 0x80)))
  else none

/-- The character at the front of a byte list, and the number of continuation bytes it takes
after its first. -/
def decodeRune (lead : UInt8) : List UInt8 → Char × Nat
  | first :: second :: third :: _ =>
    if lead.toNat < 0x80 then (Char.ofNat lead.toNat, 0)
    else match rune2 lead.toNat first.toNat with
      | some rune => (rune, 1)
      | none => match rune3 lead.toNat first.toNat second.toNat with
        | some rune => (rune, 2)
        | none => match rune4 lead.toNat first.toNat second.toNat third.toNat with
          | some rune => (rune, 3)
          | none => (replacement, 0)
  | [first, second] =>
    if lead.toNat < 0x80 then (Char.ofNat lead.toNat, 0)
    else match rune2 lead.toNat first.toNat with
      | some rune => (rune, 1)
      | none => match rune3 lead.toNat first.toNat second.toNat with
        | some rune => (rune, 2)
        | none => (replacement, 0)
  | [first] =>
    if lead.toNat < 0x80 then (Char.ofNat lead.toNat, 0)
    else match rune2 lead.toNat first.toNat with
      | some rune => (rune, 1)
      | none => (replacement, 0)
  | [] => if lead.toNat < 0x80 then (Char.ofNat lead.toNat, 0) else (replacement, 0)

def decodeAfter : Nat → List UInt8 → List Char
  | _, [] => []
  | skip + 1, _ :: rest => decodeAfter skip rest
  | 0, lead :: rest => (decodeRune lead rest).1 :: decodeAfter (decodeRune lead rest).2 rest

def decode (bytes : List UInt8) : List Char := decodeAfter 0 bytes

theorem decodeAfter_append (taken rest : List UInt8) :
    decodeAfter taken.length (taken ++ rest) = decodeAfter 0 rest := by
  induction taken with
  | nil => rfl
  | cons byte taken ih => exact ih

theorem decode_of_decodeRune {lead : UInt8} {rest : List UInt8} {rune : Char}
    (taken : List UInt8) (read : decodeRune lead (taken ++ rest) = (rune, taken.length)) :
    decode (lead :: taken ++ rest) = rune :: decode rest := by
  rw [decode, List.cons_append, decodeAfter, read, decodeAfter_append]
  rfl

theorem rune_range (rune : Char) :
    rune.toNat < 0xD800 ∨ (0xDFFF < rune.toNat ∧ rune.toNat < 0x110000) := by
  have valid := rune.valid
  simp only [UInt32.isValidChar, Nat.isValidChar] at valid
  exact valid

private theorem toNat_byte {value : Nat} (small : value < 256) :
    (UInt8.ofNat value).toNat = value := by
  simp only [UInt8.toNat_ofNat']
  exact Nat.mod_eq_of_lt small

theorem decodeRune_ascii {lead : UInt8} (ascii : lead.toNat < 0x80) (rest : List UInt8) :
    decodeRune lead rest = (Char.ofNat lead.toNat, 0) := by
  unfold decodeRune
  split <;> rw [if_pos ascii]

theorem decodeRune_two {lead first : UInt8} {rune : Char} (long : ¬ lead.toNat < 0x80)
    (read : rune2 lead.toNat first.toNat = some rune) (rest : List UInt8) :
    decodeRune lead (first :: rest) = (rune, 1) := by
  rcases rest with _ | ⟨second, _ | ⟨third, rest⟩⟩ <;> simp only [decodeRune, if_neg long, read]

theorem decodeRune_three {lead first second : UInt8} {rune : Char} (long : ¬ lead.toNat < 0x80)
    (short : rune2 lead.toNat first.toNat = none)
    (read : rune3 lead.toNat first.toNat second.toNat = some rune) (rest : List UInt8) :
    decodeRune lead (first :: second :: rest) = (rune, 2) := by
  rcases rest with _ | ⟨third, rest⟩ <;> simp only [decodeRune, if_neg long, short, read]

theorem decode_encodeRune (rune : Char) (rest : List UInt8) :
    decode (encodeRune rune ++ rest) = rune :: decode rest := by
  have range := rune_range rune
  have same : Char.ofNat rune.toNat = rune := Char.ofNat_toNat rune
  have tail : ∀ value, (UInt8.ofNat (0x80 + value % 64)).toNat = 0x80 + value % 64 :=
    fun value => toNat_byte (by omega)
  unfold encodeRune
  simp only
  split
  · rename_i one
    apply decode_of_decodeRune []
    rw [decodeRune_ascii (by rw [toNat_byte (by omega)]; exact one), toNat_byte (by omega), same]
    rfl
  · split
    · have lead := toNat_byte (show 0xC0 + rune.toNat / 64 < 256 by omega)
      apply decode_of_decodeRune [_]
      apply decodeRune_two (by omega)
      rw [lead, tail, rune2, if_pos (by simp [isTail]; omega),
        show (0xC0 + rune.toNat / 64 - 0xC0) * 64 + (0x80 + rune.toNat % 64 - 0x80) =
          rune.toNat by omega, same]
    · split
      · have lead := toNat_byte (show 0xE0 + rune.toNat / 4096 < 256 by omega)
        apply decode_of_decodeRune [_, _]
        apply decodeRune_three (by omega)
        · rw [lead, rune2, if_neg (by omega)]
        · rw [lead, tail, tail, rune3, if_pos (by simp [isTail]; omega),
            show (0xE0 + rune.toNat / 4096 - 0xE0) * 4096 + (0x80 + rune.toNat / 64 % 64 - 0x80) *
              64 + (0x80 + rune.toNat % 64 - 0x80) = rune.toNat by omega, same]
      · have lead := toNat_byte (show 0xF0 + rune.toNat / 262144 < 256 by omega)
        apply decode_of_decodeRune [_, _, _]
        have short : rune2 (0xF0 + rune.toNat / 262144) (0x80 + rune.toNat / 4096 % 64) =
            none := by rw [rune2, if_neg (by omega)]
        have middle : rune3 (0xF0 + rune.toNat / 262144) (0x80 + rune.toNat / 4096 % 64)
            (0x80 + rune.toNat / 64 % 64) = none := by rw [rune3, if_neg (by omega)]
        have read : rune4 (0xF0 + rune.toNat / 262144) (0x80 + rune.toNat / 4096 % 64)
            (0x80 + rune.toNat / 64 % 64) (0x80 + rune.toNat % 64) = some rune := by
          rw [rune4, if_pos (by simp [isTail]; omega),
            show (0xF0 + rune.toNat / 262144 - 0xF0) * 262144 +
              (0x80 + rune.toNat / 4096 % 64 - 0x80) * 4096 +
              (0x80 + rune.toNat / 64 % 64 - 0x80) * 64 + (0x80 + rune.toNat % 64 - 0x80) =
              rune.toNat by omega, same]
        simp only [List.cons_append, List.nil_append, decodeRune, lead, tail, short, middle, read]
        rw [if_neg (by omega)]
        rfl

theorem decode_encode (text : List Char) : decode (encode text) = text := by
  induction text with
  | nil => rfl
  | cons rune text ih =>
    have split : encode (rune :: text) = encodeRune rune ++ encode text := by simp [encode]
    rw [split, decode_encodeRune, ih]

theorem encode_injective : Function.Injective encode :=
  Function.LeftInverse.injective decode_encode

@[simp] theorem encode_append (left right : List Char) :
    encode (left ++ right) = encode left ++ encode right := by
  simp [encode]

theorem encodeRune_length (rune : Char) :
    1 ≤ (encodeRune rune).length ∧ (encodeRune rune).length ≤ 4 := by
  unfold encodeRune
  simp only
  split
  · simp
  · split
    · simp
    · split <;> simp

theorem encodeRune_ascii {rune : Char} (ascii : rune.toNat < 0x80) :
    encodeRune rune = [UInt8.ofNat rune.toNat] := by
  simp [encodeRune, ascii]

end CloudRing.Library.Utf8
