import PriceBoard.Decimal.Numeral
import PriceBoard.Json.Value
import PriceBoard.Text.Scan

/-!
# Reading JSON

The grammar of RFC 8259 with the three words `NaN`, `Infinity` and `-Infinity` added as numbers.
The last of several members of one name counts. A whole number may have at most 4300 digits. A
surrogate without its partner is read as the replacement character.
-/
namespace PriceBoard.Json

open PriceBoard.Decimal PriceBoard.Text

def isBreak (char : Char) : Bool :=
  char = ' ' || char = '\t' || char = '\n' || char = '\r'

def skipBreaks (text : List Char) : List Char := text.dropWhile isBreak

def hexValue? (char : Char) : Option Nat :=
  if '0' ≤ char ∧ char ≤ '9' then some (char.toNat - 0x30)
  else if 'a' ≤ char ∧ char ≤ 'f' then some (char.toNat - 0x61 + 10)
  else if 'A' ≤ char ∧ char ≤ 'F' then some (char.toNat - 0x41 + 10)
  else none

def hexUnit? (a b c d : Char) : Option Nat := do
  let a ← hexValue? a
  let b ← hexValue? b
  let c ← hexValue? c
  let d ← hexValue? d
  some (((a * 16 + b) * 16 + c) * 16 + d)

def isHighSurrogate (unit : Nat) : Bool := 0xd800 ≤ unit && unit < 0xdc00

def isLowSurrogate (unit : Nat) : Bool := 0xdc00 ≤ unit && unit < 0xe000

def pairPoint (high low : Nat) : Nat := 0x10000 + (high - 0xd800) * 0x400 + (low - 0xdc00)

/-- The character of a code point, or the replacement character for a surrogate. -/
def charOfPoint (point : Nat) : Char :=
  if isHighSurrogate point || isLowSurrogate point then '\ufffd' else Char.ofNat point

/-- The characters of code points in which two surrogates may stand for one character. -/
def joinSurrogates : List Nat → List Char
  | [] => []
  | [point] => [charOfPoint point]
  | high :: low :: rest =>
    if isHighSurrogate high && isLowSurrogate low then
      Char.ofNat (pairPoint high low) :: joinSurrogates rest
    else charOfPoint high :: joinSurrogates (low :: rest)

def simpleEscape? : Char → Option Char
  | '"' => some '"'
  | '\\' => some '\\'
  | '/' => some '/'
  | 'b' => some '\x08'
  | 'f' => some '\x0c'
  | 'n' => some '\n'
  | 'r' => some '\r'
  | 't' => some '\t'
  | _ => none

/-- The text up to the closing quote, still escaped, and what follows the quote. -/
def splitQuoted : List Char → Option (List Char × List Char)
  | [] => none
  | '"' :: rest => some ([], rest)
  | '\\' :: char :: rest =>
    (splitQuoted rest).map fun (body, after) => ('\\' :: char :: body, after)
  | char :: rest => (splitQuoted rest).map fun (body, after) => (char :: body, after)

/-- The code points an escaped text stands for. -/
def unescape : List Char → Option (List Nat)
  | [] => some []
  | '\\' :: 'u' :: a :: b :: c :: d :: rest =>
    match hexUnit? a b c d with
    | some unit => (unescape rest).map (unit :: ·)
    | none => none
  | '\\' :: mark :: rest =>
    match simpleEscape? mark with
    | some char => (unescape rest).map (char.toNat :: ·)
    | none => none
  | char :: rest =>
    if char = '\\' || char.toNat < 0x20 then none else (unescape rest).map (char.toNat :: ·)

/-- The string after its opening quote. -/
def readString? (text : List Char) : Option (String × List Char) :=
  match splitQuoted text with
  | none => none
  | some (body, rest) =>
    (unescape body).map fun points => (String.ofList (joinSurrogates points), rest)

/-- A fraction of at least one digit after a point, or nothing. -/
def splitFraction : List Char → List Char × List Char
  | '.' :: rest =>
    match rest.takeWhile isAsciiDigit with
    | [] => ([], '.' :: rest)
    | digits => (digits, rest.dropWhile isAsciiDigit)
  | text => ([], text)

/-- An exponent of at least one digit after its mark and sign, or nothing. -/
def splitExponent : List Char → Option Int × List Char
  | mark :: rest =>
    if mark = 'e' || mark = 'E' then
      match splitSign rest with
      | (negative, digits) =>
        match digits.takeWhile isAsciiDigit with
        | [] => (none, mark :: rest)
        | run =>
          let value : Int := ofDigits (run.map asciiValue)
          (some (if negative then -value else value), digits.dropWhile isAsciiDigit)
    else (none, mark :: rest)
  | [] => (none, [])

/-- The digits before the point: a lone zero, or digits that start with none. -/
def splitWhole : List Char → Option (List Char × List Char)
  | '0' :: rest => some (['0'], rest)
  | text =>
    match text.takeWhile isAsciiDigit with
    | [] => none
    | digits => some (digits, text.dropWhile isAsciiDigit)

def readNumber? (text : List Char) : Option (Json × List Char) := do
  let (negative, unsigned) := match text with
    | '-' :: rest => (true, rest)
    | _ => (false, text)
  let (whole, rest) ← splitWhole unsigned
  match splitFraction rest with
  | (fraction, rest) =>
    match splitExponent rest with
    | (exponent, rest) =>
      if fraction.isEmpty && exponent.isNone then
        if digitLimit < whole.length then none
        else
          let value : Int := ofDigits (whole.map asciiValue)
          some (.integer (if negative then -value else value), rest)
      else
        let value := nearest (ofDigits ((whole ++ fraction).map asciiValue))
          (exponent.getD 0 - fraction.length)
        some (.number (signed negative value), rest)

def readWord? (text : List Char) : Option (Json × List Char) :=
  let words : List (String × Json) := [
    ("null", .null), ("true", .bool true), ("false", .bool false), ("NaN", .number notANumber),
    ("Infinity", .number infinity), ("-Infinity", .number (-infinity))]
  words.findSome? fun (word, value) => (after? word.toList text).map fun rest => (value, rest)

mutual

/-- One value at the start of the text. `budget` bounds the nesting and the number of items. -/
def readValue : Nat → List Char → Option (Json × List Char)
  | 0, _ => none
  | budget + 1, text =>
    match text with
    | '"' :: rest => (readString? rest).map fun (value, rest) => (.string value, rest)
    | '[' :: rest =>
      match skipBreaks rest with
      | ']' :: rest => some (.array [], rest)
      | rest => (readItems budget rest).map fun (items, rest) => (.array items, rest)
    | '{' :: rest =>
      match skipBreaks rest with
      | '}' :: rest => some (.object [], rest)
      | rest =>
        (readMembers budget rest).map fun (entries, rest) => (.object (membersOf entries), rest)
    | _ => (readWord? text).or (readNumber? text)

/-- The items of an array up to its closing bracket. -/
def readItems : Nat → List Char → Option (List Json × List Char)
  | 0, _ => none
  | budget + 1, text =>
    match readValue budget text with
    | none => none
    | some (item, rest) =>
      match skipBreaks rest with
      | ']' :: rest => some ([item], rest)
      | ',' :: rest =>
        (readItems budget (skipBreaks rest)).map fun (items, rest) => (item :: items, rest)
      | _ => none

/-- The members of an object up to its closing brace. -/
def readMembers : Nat → List Char → Option (List (String × Json) × List Char)
  | 0, _ => none
  | budget + 1, text =>
    match text with
    | '"' :: rest =>
      match readString? rest with
      | none => none
      | some (name, rest) =>
        match skipBreaks rest with
        | ':' :: rest =>
          match readValue budget (skipBreaks rest) with
          | none => none
          | some (value, rest) =>
            match skipBreaks rest with
            | '}' :: rest => some ([(name, value)], rest)
            | ',' :: rest =>
              (readMembers budget (skipBreaks rest)).map fun (members, rest) =>
                ((name, value) :: members, rest)
            | _ => none
        | _ => none
    | _ => none

end

/-- The value a whole text holds, with blanks around it. -/
def read? (text : List Char) : Option Json :=
  match readValue (2 * text.length + 2) (skipBreaks text) with
  | some (value, rest) => if (skipBreaks rest).isEmpty then some value else none
  | none => none

end PriceBoard.Json
