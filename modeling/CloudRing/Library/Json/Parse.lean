import CloudRing.Library.Utf8

/-!
# JSON values and their reader

A byte list is read as UTF-8 text and parsed into a value that keeps every member of every object in
document order, duplicates included, and every number as its literal.
-/

namespace CloudRing.Library

def scanWhile (inside : Char → Bool) (text : List Char) : List Char × List Char :=
  (text.takeWhile inside, text.dropWhile inside)

namespace Json

def scanSign : List Char → List Char × List Char
  | '-' :: rest => (['-'], rest)
  | text => ([], text)

def scanInteger : List Char → Option (List Char × List Char)
  | [] => none
  | first :: rest =>
    if first = '0' then some (['0'], rest)
    else if first.isDigit then
      some (first :: (scanWhile Char.isDigit rest).1, (scanWhile Char.isDigit rest).2)
    else none

def scanFraction : List Char → List Char × List Char
  | '.' :: first :: rest =>
    if first.isDigit then
      ('.' :: first :: (scanWhile Char.isDigit rest).1, (scanWhile Char.isDigit rest).2)
    else ([], '.' :: first :: rest)
  | text => ([], text)

def scanExponentSign : List Char → List Char × List Char
  | '+' :: rest => (['+'], rest)
  | '-' :: rest => (['-'], rest)
  | text => ([], text)

def scanExponent : List Char → List Char × List Char
  | [] => ([], [])
  | mark :: text =>
    if mark = 'e' ∨ mark = 'E' then
      match (scanExponentSign text).2 with
      | first :: rest =>
        if first.isDigit then
          (mark :: (scanExponentSign text).1 ++ first :: (scanWhile Char.isDigit rest).1,
            (scanWhile Char.isDigit rest).2)
        else ([], mark :: text)
      | [] => ([], mark :: text)
    else ([], mark :: text)

def scanNumber (text : List Char) : Option (List Char × List Char) :=
  match scanInteger (scanSign text).2 with
  | none => none
  | some (integer, rest) =>
    some ((scanSign text).1 ++ integer ++ (scanFraction rest).1 ++
      (scanExponent (scanFraction rest).2).1, (scanExponent (scanFraction rest).2).2)

@[ext]
structure Numeral where
  literal : String
  wellFormed : scanNumber literal.toList = some (literal.toList, [])

def hexValue (digit : Char) : Option Nat :=
  if '0' ≤ digit ∧ digit ≤ '9' then some (digit.toNat - '0'.toNat)
  else if 'a' ≤ digit ∧ digit ≤ 'f' then some (digit.toNat - 'a'.toNat + 10)
  else if 'A' ≤ digit ∧ digit ≤ 'F' then some (digit.toNat - 'A'.toNat + 10)
  else none

def hexUnit (a b c d : Char) : Option Nat := do
  let a ← hexValue a
  let b ← hexValue b
  let c ← hexValue c
  let d ← hexValue d
  some (a * 4096 + b * 256 + c * 16 + d)

def isHighSurrogate (unit : Nat) : Bool := 0xD800 ≤ unit && unit ≤ 0xDBFF

def isLowSurrogate (unit : Nat) : Bool := 0xDC00 ≤ unit && unit ≤ 0xDFFF

/-- The character of one code unit, joined with the escape that follows when the two form a
surrogate pair, and the number of characters taken after the backslash. -/
def runeOfUnit (unit : Nat) (rest : List Char) : Char × Nat :=
  if isHighSurrogate unit then
    match rest with
    | '\\' :: 'u' :: e :: f :: g :: h :: _ =>
      match hexUnit e f g h with
      | some low =>
        if isLowSurrogate low then
          (Char.ofNat (0x10000 + (unit - 0xD800) * 1024 + (low - 0xDC00)), 11)
        else (Utf8.replacement, 5)
      | none => (Utf8.replacement, 5)
    | _ => (Utf8.replacement, 5)
  else if isLowSurrogate unit then (Utf8.replacement, 5)
  else (Char.ofNat unit, 5)

def scanEscape : List Char → Option (Char × Nat)
  | '"' :: _ => some ('"', 1)
  | '\\' :: _ => some ('\\', 1)
  | '/' :: _ => some ('/', 1)
  | 'b' :: _ => some ('\x08', 1)
  | 'f' :: _ => some ('\x0c', 1)
  | 'n' :: _ => some ('\n', 1)
  | 'r' :: _ => some ('\r', 1)
  | 't' :: _ => some ('\t', 1)
  | 'u' :: a :: b :: c :: d :: rest => (hexUnit a b c d).map fun unit => runeOfUnit unit rest
  | _ => none

def scanStringAfter : Nat → List Char → Option (List Char × List Char)
  | _, [] => none
  | skip + 1, _ :: rest => scanStringAfter skip rest
  | 0, first :: rest =>
    if first = '"' then some ([], rest)
    else if first = '\\' then
      match scanEscape rest with
      | none => none
      | some (rune, taken) =>
        (scanStringAfter taken rest).map fun (text, rest) => (rune :: text, rest)
    else if first.toNat < 0x20 then none
    else (scanStringAfter 0 rest).map fun (text, rest) => (first :: text, rest)

def scanString (text : List Char) : Option (List Char × List Char) := scanStringAfter 0 text

def isSpace (char : Char) : Bool := char = ' ' || char = '\t' || char = '\n' || char = '\r'

def skipSpace (text : List Char) : List Char := text.dropWhile isSpace

end Json

inductive Json where
  | null
  | bool (value : Bool)
  | number (value : Json.Numeral)
  | string (text : String)
  | array (items : List Json)
  | object (members : List (String × Json))

namespace Json

mutual

def parseValue : Nat → List Char → Option (Json × List Char)
  | 0, _ => none
  | fuel + 1, text =>
    match skipSpace text with
    | 'n' :: 'u' :: 'l' :: 'l' :: rest => some (null, rest)
    | 't' :: 'r' :: 'u' :: 'e' :: rest => some (bool true, rest)
    | 'f' :: 'a' :: 'l' :: 's' :: 'e' :: rest => some (bool false, rest)
    | '"' :: rest => (scanString rest).map fun (text, rest) => (string (String.ofList text), rest)
    | '[' :: rest =>
      match skipSpace rest with
      | ']' :: rest => some (array [], rest)
      | rest => (parseItems fuel rest).map fun (items, rest) => (array items, rest)
    | '{' :: rest =>
      match skipSpace rest with
      | '}' :: rest => some (object [], rest)
      | rest => (parseMembers fuel rest).map fun (members, rest) => (object members, rest)
    | text =>
      match scanNumber text with
      | none => none
      | some (literal, rest) =>
        if valid : scanNumber (String.ofList literal).toList =
            some ((String.ofList literal).toList, []) then
          some (number ⟨String.ofList literal, valid⟩, rest)
        else none

def parseItems : Nat → List Char → Option (List Json × List Char)
  | 0, _ => none
  | fuel + 1, text =>
    match parseValue fuel text with
    | none => none
    | some (item, rest) =>
      match skipSpace rest with
      | ',' :: rest => (parseItems fuel rest).map fun (items, rest) => (item :: items, rest)
      | ']' :: rest => some ([item], rest)
      | _ => none

def parseMembers : Nat → List Char → Option (List (String × Json) × List Char)
  | 0, _ => none
  | fuel + 1, text =>
    match skipSpace text with
    | '"' :: rest =>
      match scanString rest with
      | none => none
      | some (key, rest) =>
        match skipSpace rest with
        | ':' :: rest =>
          match parseValue fuel rest with
          | none => none
          | some (value, rest) =>
            match skipSpace rest with
            | ',' :: rest =>
              (parseMembers fuel rest).map fun (members, rest) =>
                ((String.ofList key, value) :: members, rest)
            | '}' :: rest => some ([(String.ofList key, value)], rest)
            | _ => none
        | _ => none
    | _ => none

end

/-- One value and nothing after it but white space. A value takes at most two calls for each
of its characters. -/
def parseText (text : List Char) : Option Json :=
  match parseValue (2 * text.length + 2) text with
  | some (value, rest) => if skipSpace rest = [] then some value else none
  | none => none

def parse (data : List UInt8) : Option Json := parseText (Utf8.decode data)

mutual

def depth : Json → Nat
  | array items => 1 + depthItems items
  | object members => 1 + depthMembers members
  | _ => 0

def depthItems : List Json → Nat
  | [] => 0
  | item :: items => max (depth item) (depthItems items)

def depthMembers : List (String × Json) → Nat
  | [] => 0
  | (_, value) :: members => max (depth value) (depthMembers members)

end

end Json

end CloudRing.Library
