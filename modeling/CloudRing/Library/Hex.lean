import CloudRing.Library.Json.Styles

/-!
# Hexadecimal text

The lower-case hexadecimal text of a list of bytes: two digits for every byte.
-/

namespace CloudRing.Library.Hex

/-- The class `[0-9a-f]`. -/
def isDigit (char : Char) : Bool := ('0' ≤ char && char ≤ '9') || ('a' ≤ char && char ≤ 'f')

/-- `hex.EncodeToString`. -/
def text (bytes : List UInt8) : String :=
  String.ofList (bytes.flatMap fun byte =>
    [Json.hexDigit (byte.toNat / 16), Json.hexDigit (byte.toNat % 16)])

theorem isDigit_hexDigit : ∀ value < 16, isDigit (Json.hexDigit value) = true := by
  decide

theorem text_digits (bytes : List UInt8) : ∀ char ∈ (text bytes).toList, isDigit char = true := by
  intro char member
  rw [text, String.toList_ofList, List.mem_flatMap] at member
  obtain ⟨byte, -, digit⟩ := member
  have bound := byte.toNat_lt
  rcases List.mem_pair.mp digit with rfl | rfl
  · exact isDigit_hexDigit _ (by omega)
  · exact isDigit_hexDigit _ (by omega)

theorem text_length (bytes : List UInt8) : (text bytes).toList.length = 2 * bytes.length := by
  rw [text, String.toList_ofList]
  induction bytes with
  | nil => rfl
  | cons byte bytes ih =>
    rw [List.flatMap_cons, List.length_append, ih, List.length_cons]
    simp only [List.length_cons, List.length_nil]
    omega

theorem encodeRune_digit {char : Char} (digit : isDigit char = true) :
    (Utf8.encodeRune char).length = 1 := by
  have ascii : char.toNat < 0x80 := by
    simp only [isDigit, Bool.or_eq_true, Bool.and_eq_true, decide_eq_true_eq] at digit
    rcases digit with ⟨-, high⟩ | ⟨-, high⟩
    · have bound : char.toNat ≤ '9'.toNat := high
      exact Nat.lt_of_le_of_lt bound (by decide)
    · exact Nat.lt_of_le_of_lt high (by decide)
  rw [Utf8.encodeRune_ascii ascii]
  rfl

theorem ofString_text_length (bytes : List UInt8) :
    (Utf8.ofString (text bytes)).length = 2 * bytes.length := by
  have single : ∀ chars : List Char, (∀ char ∈ chars, isDigit char = true) →
      (Utf8.encode chars).length = chars.length := by
    intro chars digits
    induction chars with
    | nil => rfl
    | cons char chars ih =>
      have head := encodeRune_digit (digits char List.mem_cons_self)
      have tail := ih fun later member => digits later (List.mem_cons_of_mem _ member)
      simp only [Utf8.encode] at tail
      simp only [Utf8.encode, List.flatMap_cons, List.length_append, List.length_cons, head, tail]
      omega
  rw [Utf8.ofString, single _ (text_digits bytes), text_length]

theorem hexDigit_injective : ∀ left < 16, ∀ right < 16,
    Json.hexDigit left = Json.hexDigit right → left = right := by
  decide

theorem text_injective : Function.Injective text := by
  intro left right same
  have digits := congrArg String.toList same
  simp only [text, String.toList_ofList] at digits
  clear same
  induction left generalizing right with
  | nil => cases right with
    | nil => rfl
    | cons byte rest => simp at digits
  | cons byte bytes ih => cases right with
    | nil => simp at digits
    | cons other rest =>
      simp only [List.flatMap_cons, List.cons_append, List.nil_append, List.cons.injEq] at digits
      obtain ⟨high, low, tail⟩ := digits
      have bound := byte.toNat_lt
      have otherBound := other.toNat_lt
      have high := hexDigit_injective _ (by omega) _ (by omega) high
      have low := hexDigit_injective _ (by omega) _ (by omega) low
      have equal : byte = other := UInt8.toNat_inj.mp (by omega)
      rw [equal, ih tail]

end CloudRing.Library.Hex
