import Mathlib.Logic.Basic

/-!
# Base64

The decoder of a padded and of an unpadded alphabet: line breaks are skipped, every group of four
characters gives three bytes, and the unused bits of the last group must be zero.
-/

namespace CloudRing.Library.Base64

def sixBits (plus slash : Char) (char : Char) : Option Nat :=
  if 'A' ≤ char ∧ char ≤ 'Z' then some (char.toNat - 'A'.toNat)
  else if 'a' ≤ char ∧ char ≤ 'z' then some (char.toNat - 'a'.toNat + 26)
  else if '0' ≤ char ∧ char ≤ '9' then some (char.toNat - '0'.toNat + 52)
  else if char = plus then some 62
  else if char = slash then some 63
  else none

section Decode

variable (bits : Char → Option Nat) (padded : Bool)

def decodeTwo (a b : Char) : Option (List UInt8) := do
  let first ← bits a
  let second ← bits b
  if second % 16 = 0 then some [UInt8.ofNat (first * 4 + second / 16)] else none

def decodeThree (a b c : Char) : Option (List UInt8) := do
  let first ← bits a
  let second ← bits b
  let third ← bits c
  if third % 4 = 0 then
    some [UInt8.ofNat (first * 4 + second / 16), UInt8.ofNat (second % 16 * 16 + third / 4)]
  else none

def decodeFour (a b c d : Char) : Option (List UInt8) := do
  let first ← bits a
  let second ← bits b
  let third ← bits c
  let fourth ← bits d
  some [UInt8.ofNat (first * 4 + second / 16), UInt8.ofNat (second % 16 * 16 + third / 4),
    UInt8.ofNat (third % 4 * 64 + fourth)]

def decodeGroups : List Char → Option (List UInt8)
  | [] => some []
  | [_] => none
  | [a, b] => if padded then none else decodeTwo bits a b
  | [a, b, c] => if padded then none else decodeThree bits a b c
  | a :: b :: c :: d :: rest =>
    if padded ∧ rest = [] ∧ d = '=' then
      if c = '=' then decodeTwo bits a b else decodeThree bits a b c
    else do
      let group ← decodeFour bits a b c d
      let groups ← decodeGroups rest
      some (group ++ groups)

def decodeWith (text : List Char) : Option (List UInt8) :=
  decodeGroups bits padded (text.filter fun char => char ≠ '\r' && char ≠ '\n')

end Decode

/-- `base64.StdEncoding.Strict().DecodeString`. -/
def decode (text : String) : Option (List UInt8) := decodeWith (sixBits '+' '/') true text.toList

/-- `base64.RawURLEncoding.Strict().DecodeString`. -/
def decodeRawURL (text : List Char) : Option (List UInt8) :=
  decodeWith (sixBits '-' '_') false text

/-- The bytes of an unpadded text without line breaks, whatever the unused bits of the last group
are. -/
def decodeLooseGroups (bits : Char → Option Nat) : List Char → Option (List UInt8)
  | [] => some []
  | [_] => none
  | [a, b] => do
    let first ← bits a
    let second ← bits b
    some [UInt8.ofNat (first * 4 + second / 16)]
  | [a, b, c] => do
    let first ← bits a
    let second ← bits b
    let third ← bits c
    some [UInt8.ofNat (first * 4 + second / 16), UInt8.ofNat (second % 16 * 16 + third / 4)]
  | a :: b :: c :: d :: rest => do
    let group ← decodeFour bits a b c d
    let groups ← decodeLooseGroups bits rest
    some (group ++ groups)

/-- `base64.RawURLEncoding.DecodeString`. -/
def decodeLooseRawURL (text : List Char) : Option (List UInt8) :=
  decodeLooseGroups (sixBits '-' '_') (text.filter fun char => char ≠ '\r' && char ≠ '\n')

def character (bits : Nat) : Char :=
  if bits < 26 then Char.ofNat ('A'.toNat + bits)
  else if bits < 52 then Char.ofNat ('a'.toNat + (bits - 26))
  else if bits < 62 then Char.ofNat ('0'.toNat + (bits - 52))
  else if bits = 62 then '+'
  else '/'

def encodeGroups : List UInt8 → List Char
  | [] => []
  | [a] => [character (a.toNat / 4), character (a.toNat % 4 * 16), '=', '=']
  | [a, b] =>
    [character (a.toNat / 4), character (a.toNat % 4 * 16 + b.toNat / 16),
      character (b.toNat % 16 * 4), '=']
  | a :: b :: c :: rest =>
    character (a.toNat / 4) :: character (a.toNat % 4 * 16 + b.toNat / 16) ::
      character (b.toNat % 16 * 4 + c.toNat / 64) :: character (c.toNat % 64) ::
      encodeGroups rest

/-- `base64.StdEncoding.EncodeToString`. -/
def encode (bytes : List UInt8) : String := String.ofList (encodeGroups bytes)

end CloudRing.Library.Base64
