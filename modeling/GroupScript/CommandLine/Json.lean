import GroupScript.Decimal.Digits
import GroupScript.Settings.Document

/-!
# JSON documents

The command line reads settings that are written in JSON.  A text with half of a surrogate pair is well formed but
denotes no string.
-/

namespace GroupScript.CommandLine.Json

/-- Whether a character separates the parts of a document. -/
def isGap (c : Char) : Bool :=
  c == ' ' || c == '\n' || c == '\t' || c == '\r'

/-- The text after the gaps at its start. -/
def skipGaps (text : List Char) : List Char :=
  text.dropWhile isGap

/-- The value of a hexadecimal digit. -/
def hexValue? (c : Char) : Option Nat :=
  if '0' ≤ c ∧ c ≤ '9' then some (c.toNat - '0'.toNat)
  else if 'a' ≤ c ∧ c ≤ 'f' then some (c.toNat - 'a'.toNat + 10)
  else if 'A' ≤ c ∧ c ≤ 'F' then some (c.toNat - 'A'.toNat + 10)
  else none

/-- The number of four hexadecimal digits. -/
def hexValueOfFour? (a b c d : Char) : Option Nat := do
  return 4096 * (← hexValue? a) + 256 * (← hexValue? b) + 16 * (← hexValue? c) + (← hexValue? d)

/-- The character of a short escape sequence, by the character after the backslash. -/
def escaped? (c : Char) : Option Char :=
  if c = '"' ∨ c = '\\' ∨ c = '/' then some c
  else if c = 'b' then some (Char.ofNat 8)
  else if c = 'f' then some (Char.ofNat 12)
  else if c = 'n' then some '\n'
  else if c = 'r' then some '\r'
  else if c = 't' then some '\t'
  else none

/-- The units of sixteen bits that a character is written with when it is escaped. -/
inductive Piece
  | char (c : Char)
  | unit (code : Nat)

/-- Reads the inside of a text up to its closing quote. -/
def readPieces : List Char → Option (List Piece × List Char)
  | [] => none
  | '\\' :: 'u' :: a :: b :: c :: d :: rest => do
      let code ← hexValueOfFour? a b c d
      let (pieces, left) ← readPieces rest
      return (.unit code :: pieces, left)
  | '\\' :: c :: rest => do
      let char ← escaped? c
      let (pieces, left) ← readPieces rest
      return (.char char :: pieces, left)
  | c :: rest =>
      if c = '"' then some ([], rest)
      else if c.toNat < 32 then none
      else if c = '\\' then none
      else do
        let (pieces, left) ← readPieces rest
        return (.char c :: pieces, left)

/-- Whether a unit is the first half of a surrogate pair. -/
def isFirstHalf (code : Nat) : Bool := 0xd800 ≤ code && code < 0xdc00

/-- Whether a unit is the second half of a surrogate pair. -/
def isSecondHalf (code : Nat) : Bool := 0xdc00 ≤ code && code < 0xe000

/-- The characters that pieces denote, if no half of a surrogate pair stands alone. -/
def assemble? : List Piece → Option (List Char)
  | [] => some []
  | .char c :: pieces => do return c :: (← assemble? pieces)
  | .unit first :: .unit second :: pieces =>
      if isFirstHalf first then
        if isSecondHalf second then do
          let code := 0x10000 + 0x400 * (first - 0xd800) + (second - 0xdc00)
          return Char.ofNat code :: (← assemble? pieces)
        else none
      else if isSecondHalf first then none
      else do return Char.ofNat first :: (← assemble? (.unit second :: pieces))
  | .unit code :: pieces =>
      if isFirstHalf code || isSecondHalf code then none
      else do return Char.ofNat code :: (← assemble? pieces)

/-- Reads a text after its opening quote. -/
def readText (text : List Char) : Option (Option String × List Char) := do
  let (pieces, rest) ← readPieces text
  return ((assemble? pieces).map String.ofList, rest)

/-- Reads at least one digit. -/
def readDigits (text : List Char) : Option (List Char × List Char) :=
  let digits := text.takeWhile Decimal.isDigit
  if digits.isEmpty then none else some (digits, text.dropWhile Decimal.isDigit)

/-- Reads an optional fraction and tells whether there was one. -/
def readFraction : List Char → Option (Bool × List Char)
  | '.' :: rest => do
      let (_, left) ← readDigits rest
      return (true, left)
  | text => some (false, text)

/-- Reads an optional exponent and tells whether there was one. -/
def readExponent : List Char → Option (Bool × List Char)
  | mark :: rest =>
      if mark = 'e' ∨ mark = 'E' then do
        let (_, left) ← readDigits (Decimal.takeSign rest).2
        return (true, left)
      else some (false, mark :: rest)
  | [] => some (false, [])

/-- The greatest natural number that is not taken for a floating-point number. -/
def maxNatural : Nat := Nat.pow 2 64 - 1

/-- Reads a number.  Leading zeros are refused. -/
def readNumber (text : List Char) : Option (Document × List Char) := do
  let (negative, unsigned) :=
    match text with
    | '-' :: rest => (true, rest)
    | text => (false, text)
  let (digits, afterDigits) ← readDigits unsigned
  if digits.length ≠ 1 ∧ digits.head? = some '0' then none
  else do
    let (fraction, afterFraction) ← readFraction afterDigits
    let (exponent, rest) ← readExponent afterFraction
    let number := Decimal.value digits
    if negative || fraction || exponent || maxNatural < number then return (.otherNumber, rest)
    else return (.natural number, rest)

/-- Reads a given word. -/
def readWord (word : String) (document : Document) (text : List Char) :
    Option (Document × List Char) :=
  let letters := word.toList
  if text.take letters.length = letters then some (document, text.drop letters.length) else none

mutual

/-- Reads a document.  The number bounds the depth and the length of what is read. -/
def readValue : Nat → List Char → Option (Document × List Char)
  | 0, _ => none
  | bound + 1, text =>
      match skipGaps text with
      | '"' :: rest => do
          let (value, left) ← readText rest
          return (.string value, left)
      | '[' :: rest =>
          match skipGaps rest with
          | ']' :: left => some (.array [], left)
          | _ => do
              let (items, left) ← readItems bound rest
              return (.array items, left)
      | '\x7b' :: rest =>
          match skipGaps rest with
          | '\x7d' :: left => some (.object [], left)
          | _ => do
              let (fields, left) ← readFields bound rest
              return (.object fields, left)
      | 't' :: rest => readWord "true" (.bool true) ('t' :: rest)
      | 'f' :: rest => readWord "false" (.bool false) ('f' :: rest)
      | 'n' :: rest => readWord "null" .null ('n' :: rest)
      | text => readNumber text

/-- Reads the items of an array up to its end. -/
def readItems : Nat → List Char → Option (List Document × List Char)
  | 0, _ => none
  | bound + 1, text => do
      let (item, afterItem) ← readValue bound text
      match skipGaps afterItem with
      | ',' :: rest => do
          let (items, left) ← readItems bound rest
          return (item :: items, left)
      | ']' :: left => return ([item], left)
      | _ => none

/-- Reads the fields of an object up to its end. -/
def readFields : Nat → List Char → Option (List (Option String × Document) × List Char)
  | 0, _ => none
  | bound + 1, text =>
      match skipGaps text with
      | '"' :: rest => do
          let (key, afterKey) ← readText rest
          match skipGaps afterKey with
          | ':' :: afterColon => do
              let (value, afterValue) ← readValue bound afterColon
              match skipGaps afterValue with
              | ',' :: rest => do
                  let (fields, left) ← readFields bound rest
                  return ((key, value) :: fields, left)
              | '\x7d' :: left => return ([(key, value)], left)
              | _ => none
          | _ => none
      | _ => none

end

/-- The document that a text denotes.  Every step of reading uses a character, so the length of the text
bounds the reading. -/
def ofText? (text : List Char) : Option Document := do
  let (document, rest) ← readValue (2 * text.length + 2) text
  if (skipGaps rest).isEmpty then some document else none

end GroupScript.CommandLine.Json
