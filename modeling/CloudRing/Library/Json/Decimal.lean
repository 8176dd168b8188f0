import CloudRing.Library.Json.Parse

/-!
# Numbers as plain decimals

A decimal store keeps the value and the scale of a number and writes it without an exponent: the
point is moved by the exponent, zeros are filled in where digits are missing, zeros in front of the
integer part are dropped, and a zero has no sign.
-/

namespace CloudRing.Library.Json

def digitsValue (digits : List Char) : Nat :=
  digits.foldl (fun value digit => 10 * value + (digit.toNat - '0'.toNat)) 0

def exponentValue : List Char → Int
  | _ :: '-' :: digits => -(digitsValue digits : Int)
  | _ :: '+' :: digits => digitsValue digits
  | _ :: digits => digitsValue digits
  | [] => 0

def stripZeros (digits : List Char) : List Char :=
  match digits.dropWhile (· = '0') with
  | [] => ['0']
  | first :: rest => first :: rest

def pointed (negative : Bool) (integer fraction : List Char) : List Char :=
  (if negative then ['-'] else []) ++ stripZeros integer ++
    (if fraction = [] then [] else '.' :: fraction)

def shifted (negative : Bool) (integer fraction : List Char) (exponent : Int) : List Char :=
  let digits := integer ++ fraction
  let point := integer.length + exponent
  pointed (negative && !digits.all (· = '0'))
    (digits.take point.toNat ++ List.replicate (point.toNat - digits.length) '0')
    (List.replicate (-point).toNat '0' ++ digits.drop point.toNat)

def plainText (literal : List Char) : List Char :=
  match scanInteger (scanSign literal).2 with
  | none => ['0']
  | some (integer, rest) =>
    shifted (!(scanSign literal).1.isEmpty) integer ((scanFraction rest).1.drop 1)
      (exponentValue (scanExponent (scanFraction rest).2).1)

theorem scanWhile_digits {digits rest : List Char}
    (numeric : ∀ digit ∈ digits, digit.isDigit = true)
    (stop : ∀ first more, rest = first :: more → first.isDigit = false) :
    scanWhile Char.isDigit (digits ++ rest) = (digits, rest) := by
  rw [scanWhile, List.takeWhile_append_of_pos numeric, List.dropWhile_append_of_pos numeric]
  cases rest with
  | nil => simp
  | cons first more => simp [stop first more rfl]

theorem scanWhile_numeric (text : List Char) :
    ∀ digit ∈ (scanWhile Char.isDigit text).1, digit.isDigit = true := by
  intro digit listed
  exact List.all_eq_true.mp List.all_takeWhile digit listed

theorem scanInteger_numeric {text integer rest : List Char}
    (scanned : scanInteger text = some (integer, rest)) :
    ∀ digit ∈ integer, digit.isDigit = true := by
  cases text with
  | nil => simp [scanInteger] at scanned
  | cons first text =>
    simp only [scanInteger] at scanned
    split at scanned
    · simp only [Option.some.injEq, Prod.mk.injEq] at scanned
      rw [← scanned.1]
      exact List.forall_mem_singleton.mpr (by decide)
    split at scanned
    · rename_i leading
      simp only [Option.some.injEq, Prod.mk.injEq] at scanned
      rw [← scanned.1]
      exact List.forall_mem_cons.mpr ⟨leading, scanWhile_numeric text⟩
    · contradiction

theorem scanFraction_numeric (text : List Char) :
    ∀ digit ∈ (scanFraction text).1.drop 1, digit.isDigit = true := by
  unfold scanFraction
  split
  · rename_i first rest
    split
    · rename_i leading
      exact List.forall_mem_cons.mpr ⟨leading, scanWhile_numeric rest⟩
    · simp
  · simp

theorem scanInteger_stripZeros {digits rest : List Char}
    (numeric : ∀ digit ∈ digits, digit.isDigit = true)
    (stop : ∀ first more, rest = first :: more → first.isDigit = false) :
    scanInteger (stripZeros digits ++ rest) = some (stripZeros digits, rest) := by
  unfold stripZeros
  split
  · rfl
  · rename_i first more dropped
    have suffix : (first :: more) <:+ digits := dropped ▸ List.dropWhile_suffix _
    have leading : first ≠ '0' := by
      have head := List.head?_dropWhile_not (· = '0') digits
      rw [dropped] at head
      simpa using head
    have later : ∀ digit ∈ more, digit.isDigit = true := fun digit listed =>
      numeric digit (suffix.mem (List.mem_cons_of_mem first listed))
    rw [List.cons_append, scanInteger, if_neg leading,
      if_pos (numeric first (suffix.mem List.mem_cons_self)), scanWhile_digits later stop]

theorem scanSign_stripZeros {digits : List Char} (rest : List Char)
    (numeric : ∀ digit ∈ digits, digit.isDigit = true) :
    scanSign (stripZeros digits ++ rest) = ([], stripZeros digits ++ rest) := by
  unfold stripZeros
  split
  · rfl
  · rename_i first more dropped
    have digit := numeric first ((dropped ▸ List.dropWhile_suffix _).mem List.mem_cons_self)
    rw [List.cons_append, scanSign]
    intro tail same
    simp only [List.cons.injEq] at same
    rw [same.1] at digit
    exact absurd digit (by decide)

theorem scanNumber_pointed (negative : Bool) {integer fraction : List Char}
    (whole : ∀ digit ∈ integer, digit.isDigit = true)
    (part : ∀ digit ∈ fraction, digit.isDigit = true) :
    scanNumber (pointed negative integer fraction) =
      some (pointed negative integer fraction, []) := by
  have stop : ∀ first more,
      (if fraction = [] then [] else '.' :: fraction) = first :: more →
        first.isDigit = false := by
    intro first more same
    split at same
    · contradiction
    · simp only [List.cons.injEq] at same
      rw [← same.1]
      decide
  have integerScan := scanInteger_stripZeros whole stop
  have fractionScan : scanFraction (if fraction = [] then [] else '.' :: fraction) =
      ((if fraction = [] then [] else '.' :: fraction), []) := by
    cases fraction with
    | nil => rfl
    | cons first more =>
      have tail : scanWhile Char.isDigit more = (more, []) := by
        have scanned := @scanWhile_digits more []
          (fun digit listed => part digit (List.mem_cons_of_mem first listed))
          (fun first more same => by contradiction)
        rwa [List.append_nil] at scanned
      simp [scanFraction, part first List.mem_cons_self, tail]
  cases negative with
  | false =>
    simp only [pointed, Bool.false_eq_true, ↓reduceIte, List.nil_append, scanNumber,
      scanSign_stripZeros _ whole, integerScan, fractionScan, scanExponent, List.append_nil]
  | true =>
    simp only [pointed, ↓reduceIte, scanNumber, List.cons_append, List.nil_append, scanSign,
      integerScan, fractionScan, scanExponent, List.append_nil]

theorem scanNumber_shifted (negative : Bool) {integer fraction : List Char} (exponent : Int)
    (whole : ∀ digit ∈ integer, digit.isDigit = true)
    (part : ∀ digit ∈ fraction, digit.isDigit = true) :
    scanNumber (shifted negative integer fraction exponent) =
      some (shifted negative integer fraction exponent, []) := by
  have digits := List.forall_mem_append.mpr ⟨whole, part⟩
  have zeros : ∀ (count : Nat), ∀ digit ∈ List.replicate count '0', digit.isDigit = true := by
    intro count digit listed
    rw [List.eq_of_mem_replicate listed]
    decide
  unfold shifted
  apply scanNumber_pointed
  · exact List.forall_mem_append.mpr
      ⟨fun digit inside => digits digit (List.mem_of_mem_take inside), zeros _⟩
  · exact List.forall_mem_append.mpr
      ⟨zeros _, fun digit after => digits digit (List.mem_of_mem_drop after)⟩

theorem scanNumber_plainText (literal : List Char) :
    scanNumber (plainText literal) = some (plainText literal, []) := by
  unfold plainText
  split
  · rfl
  · rename_i integer rest scanned
    exact scanNumber_shifted _ _ (scanInteger_numeric scanned) (scanFraction_numeric rest)

def plainDecimal (value : Numeral) : Numeral where
  literal := String.ofList (plainText value.literal.toList)
  wellFormed := by
    rw [String.toList_ofList]
    exact scanNumber_plainText value.literal.toList

def Numeral.ofInt (value : Int) : Numeral where
  literal := String.ofList (pointed (value < 0) (Nat.toDigits 10 value.natAbs) [])
  wellFormed := by
    rw [String.toList_ofList]
    refine scanNumber_pointed _ (fun digit member => ?_) (by simp)
    exact Nat.isDigit_of_mem_toDigits (by decide) (by decide) member

example : (Numeral.ofInt (-120)).literal = "-120" := by decide

example : plainText "-1.50e-3".toList = "-0.00150".toList := by decide

example : plainText "12.5E+3".toList = "12500".toList := by decide

end CloudRing.Library.Json
