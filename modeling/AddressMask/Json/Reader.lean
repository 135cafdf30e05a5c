import AddressMask.Json.Escape
import AddressMask.Json.Number
import AddressMask.Numeral

/-!
# Reading JSON

`Json.parse?` reads one JSON text: a value with nothing but blanks around it, in which arrays and
objects are nested at most `maxDepth` deep. Each reader below takes a list of characters and returns
what it read together with the characters it left. A value is read by recursion on the depth that is
left, and the items of an array or object one after the other: each takes at least one character, so
that there are no more of them than characters.
-/

namespace AddressMask.Json

/-- The four blanks of JSON. -/
def isBlank (c : Char) : Bool := c = ' ' || c = '\t' || c = '\n' || c = '\r'

/-- The text without the blanks it starts with. -/
def skipBlanks (text : List Char) : List Char := text.dropWhile isBlank

/-! ### Strings -/

/-- The number written by four hexadecimal digits. -/
def hex4? (a b c d : Char) : Option Nat := do
  let a ← Numeral.hexValue? a
  let b ← Numeral.hexValue? b
  let c ← Numeral.hexValue? c
  let d ← Numeral.hexValue? d
  some (((a * 16 + b) * 16 + c) * 16 + d)

/-- The character with the given code point; half of a surrogate pair has none. -/
def ofCodePoint? (n : Nat) : Option Char :=
  if n.isValidChar then some (Char.ofNat n) else none

/-- The characters of a string after its opening quote, and what follows its closing quote. A
character above U+FFFF may be escaped as a surrogate pair; half a pair, an unknown escape and a
bare control character make the text no string. -/
def readString : List Char → Option (List Char × List Char)
  | [] => none
  | '"' :: rest => some ([], rest)
  | '\\' :: 'u' :: a :: b :: c :: d :: '\\' :: 'u' :: e :: f :: g :: h :: rest => do
    let high ← hex4? a b c d
    if 0xd800 ≤ high ∧ high < 0xdc00 then
      let low ← hex4? e f g h
      if 0xdc00 ≤ low ∧ low < 0xe000 then
        let x ← ofCodePoint? (0x10000 + (high - 0xd800) * 0x400 + (low - 0xdc00))
        (readString rest).map fun (read, left) => (x :: read, left)
      else none
    else
      let x ← ofCodePoint? high
      (readString ('\\' :: 'u' :: e :: f :: g :: h :: rest)).map fun (read, left) => (x :: read, left)
  | '\\' :: 'u' :: a :: b :: c :: d :: rest => do
    let x ← ofCodePoint? (← hex4? a b c d)
    (readString rest).map fun (read, left) => (x :: read, left)
  | '\\' :: c :: rest => do
    let x ← ofShortEscape? c
    (readString rest).map fun (read, left) => (x :: read, left)
  | c :: rest =>
    if c.toNat < 0x20 then none
    else (readString rest).map fun (read, left) => (c :: read, left)

/-! ### Values -/

/-- One or more items with commas between them, up to the closing character. At most `bound` items
are read. -/
def readItems {α : Type} (item : List Char → Option (α × List Char)) (close : Char) :
    (bound : Nat) → List Char → Option (List α × List Char)
  | 0, _ => none
  | bound + 1, text => do
    let (x, rest) ← item text
    match skipBlanks rest with
    | ',' :: rest => (readItems item close bound rest).map fun (read, left) => (x :: read, left)
    | c :: rest => if c = close then some ([x], rest) else none
    | [] => none

/-- Any number of items, after the opening character. -/
def readSequence {α : Type} (item : List Char → Option (α × List Char)) (close : Char)
    (text : List Char) : Option (List α × List Char) :=
  match skipBlanks text with
  | [] => none
  | c :: rest =>
    if c = close then some ([], rest) else readItems item close text.length (c :: rest)

/-- A name, a colon and a value. -/
def readMember (value : List Char → Option (Json × List Char)) (text : List Char) :
    Option ((String × Json) × List Char) :=
  match skipBlanks text with
  | '"' :: rest => do
    let (name, rest) ← readString rest
    match skipBlanks rest with
    | ':' :: rest => (value rest).map fun (v, left) => ((String.ofList name, v), left)
    | _ => none
  | _ => none

/-- The value a text starts with, if it is neither an array nor an object. -/
def readScalar : List Char → Option (Json × List Char)
  | 'n' :: 'u' :: 'l' :: 'l' :: rest => some (.null, rest)
  | 't' :: 'r' :: 'u' :: 'e' :: rest => some (.boolean true, rest)
  | 'f' :: 'a' :: 'l' :: 's' :: 'e' :: rest => some (.boolean false, rest)
  | '"' :: rest => (readString rest).map fun (read, left) => (.string (String.ofList read), left)
  | text => readNumber text

/-- The value a text starts with, after any blanks, with arrays and objects at most `depth` deep. -/
def readValue : (depth : Nat) → List Char → Option (Json × List Char)
  | 0, text => readScalar (skipBlanks text)
  | depth + 1, text =>
    match skipBlanks text with
    | '[' :: rest =>
      (readSequence (readValue depth) ']' rest).map fun (items, left) => (.array items, left)
    | '\x7b' :: rest =>
      (readSequence (readMember (readValue depth)) '\x7d' rest).map fun (members, left) =>
        (.object members, left)
    | rest => readScalar rest

/-- How deep arrays and objects may be nested. -/
def maxDepth : Nat := 127

/-- The value a whole JSON text stands for. -/
def parse? (text : String) : Option Json :=
  match readValue maxDepth text.toList with
  | some (value, rest) => if skipBlanks rest = [] then some value else none
  | none => none

end AddressMask.Json
