import PriceBoard.Decimal.Fixed
import PriceBoard.Decimal.Numeral
import PriceBoard.Json.Display

/-!
# Message templates

A template is a text with conversions. A conversion starts with a percent sign, may name a key, may
have flags, a width and a precision, and ends with a letter; two percent signs stand for one. It takes
the next argument, or the value of its key, and shows it the way its letter says.
-/
namespace PriceBoard.Logging

open PriceBoard.Decimal

/-- A width or a precision. -/
inductive Extent where
  | absent
  | fixed (size : Nat)
  /-- The next argument says. -/
  | argument
  deriving DecidableEq, Repr

inductive Key where
  | absent
  | named (name : List Char)
  /-- The text ends before the closing parenthesis. -/
  | unclosed
  deriving DecidableEq, Repr

structure Conversion where
  key : Key
  flags : List Char
  width : Extent
  precision : Extent
  /-- Nothing, if the text ends before it. -/
  letter : Option Char

inductive Piece where
  | literal (char : Char)
  | conversion (conversion : Conversion)

inductive TemplateError where
  /-- Arguments that do not fit the conversions, in number or in type. -/
  | mismatch
  /-- A conversion that is no conversion. -/
  | malformed
  | missingKey
  | tooLarge
  deriving DecidableEq, Repr

/-- The key up to the closing parenthesis, and what follows it. -/
def keyAfter : Nat → List Char → Option (List Char × List Char)
  | _, [] => none
  | depth, char :: rest =>
    if char = ')' ∧ depth = 0 then some ([], rest)
    else
      let depth := if char = '(' then depth + 1 else if char = ')' then depth - 1 else depth
      (keyAfter depth rest).map fun (key, rest) => (char :: key, rest)

def takeKey : List Char → Key × List Char
  | '(' :: rest =>
    match keyAfter 0 rest with
    | some (key, rest) => (.named key, rest)
    | none => (.unclosed, [])
  | text => (.absent, text)

def takeExtent (fallback : Extent) (text : List Char) : Extent × List Char :=
  match text with
  | '*' :: rest => (.argument, rest)
  | _ =>
    match text.takeWhile isAsciiDigit with
    | [] => (fallback, text)
    | digits => (.fixed (ofDigits (digits.map asciiValue)), text.dropWhile isAsciiDigit)

def takePrecision : List Char → Extent × List Char
  | '.' :: rest => takeExtent (.fixed 0) rest
  | text => (.absent, text)

def isFlag (char : Char) : Bool := ['-', '+', ' ', '#', '0'].contains char

/-- One mark of a size may stand before the letter; it says nothing. -/
def skipSizeMark (text : List Char) : List Char :=
  match text with
  | mark :: rest => if mark = 'h' ∨ mark = 'l' ∨ mark = 'L' then rest else text
  | [] => []

/-- The conversion that follows a percent sign, and what follows it. -/
def takeConversion (text : List Char) : Conversion × List Char :=
  let (key, rest) := takeKey text
  let flags := rest.takeWhile isFlag
  let (width, rest) := takeExtent .absent (rest.dropWhile isFlag)
  let (precision, rest) := takePrecision rest
  match skipSizeMark rest with
  | [] => (⟨key, flags, width, precision, none⟩, [])
  | letter :: rest => (⟨key, flags, width, precision, some letter⟩, rest)

/-- At most `fuel` pieces. -/
def piecesWithin : Nat → List Char → List Piece
  | 0, _ => []
  | _, [] => []
  | fuel + 1, '%' :: '%' :: rest => .literal '%' :: piecesWithin fuel rest
  | fuel + 1, '%' :: rest =>
    let (conversion, rest) := takeConversion rest
    .conversion conversion :: piecesWithin fuel rest
  | fuel + 1, char :: rest => .literal char :: piecesWithin fuel rest

/-- Each piece takes at least one character. -/
def pieces (text : List Char) : List Piece := piecesWithin text.length text

/-- What conversions take their values from. -/
inductive Supply where
  | sequence (values : List Json)
  /-- One value, which can be taken once. -/
  | single (value : Json) (taken : Bool)

structure Arguments where
  supply : Supply
  /-- The values by key, where there are keys. -/
  table : Option (List (String × Json))

/-- A single argument that is a table with members gives the values by key. -/
def argumentsOf : List Json → Arguments
  | [.object (member :: members)] =>
    ⟨.single (.object (member :: members)) false, some (member :: members)⟩
  | values => ⟨.sequence values, none⟩

/-- Truth values are whole numbers. -/
def whole? : Json → Option Int
  | .integer value => some value
  | .bool value => some (if value then 1 else 0)
  | _ => none

namespace Arguments

def next (arguments : Arguments) : Except TemplateError (Json × Arguments) :=
  match arguments.supply with
  | .sequence (value :: values) => .ok (value, { arguments with supply := .sequence values })
  | .single value false => .ok (value, { arguments with supply := .single value true })
  | _ => .error .mismatch

/-- From here on the value of a key is the only one. -/
def select (arguments : Arguments) (key : Key) : Except TemplateError Arguments :=
  match key, arguments.table with
  | .absent, _ => .ok arguments
  | _, none => .error .mismatch
  | .unclosed, some _ => .error .malformed
  | .named name, some members =>
    match members.lookup (String.ofList name) with
    | none => .error .missingKey
    | some value => .ok { arguments with supply := .single value false }

/-- An extent, where it is given, of at most `limit`; one from an argument may be negative. -/
def extent (arguments : Arguments) (limit : Nat) :
    Extent → Except TemplateError (Option Int × Arguments)
  | .absent => .ok (none, arguments)
  | .fixed size => if size ≤ limit then .ok (some size, arguments) else .error .malformed
  | .argument =>
    match arguments.next with
    | .error error => .error error
    | .ok (value, arguments) =>
      match whole? value with
      | none => .error .mismatch
      | some size =>
        if -(limit : Int) - 1 ≤ size ∧ size ≤ limit then .ok (some size, arguments)
        else .error .tooLarge

/-- Whether nothing is left over. -/
def spent (arguments : Arguments) : Bool :=
  match arguments.supply, arguments.table with
  | .sequence (_ :: _), none => false
  | _, _ => true

end Arguments

/-- A conversion with its width and its precision known. -/
structure Layout where
  left : Bool
  plus : Bool
  blank : Bool
  marked : Bool
  zeros : Bool
  width : Nat
  precision : Option Nat

def layoutOf (flags : List Char) (width precision : Option Int) : Layout where
  left := flags.contains '-' || width.any (· < 0)
  plus := flags.contains '+'
  blank := flags.contains ' '
  marked := flags.contains '#'
  zeros := flags.contains '0'
  width := (width.getD 0).natAbs
  precision := precision.map Int.toNat

/-- A sign, a mark of the base and digits, filled up to the width. -/
def number (layout : Layout) (negative : Bool) (mark digits : List Char) : List Char :=
  let sign :=
    if negative then ['-'] else if layout.plus then ['+'] else if layout.blank then [' '] else []
  let fill := layout.width - (sign.length + mark.length + digits.length)
  if layout.left then sign ++ mark ++ digits ++ List.replicate fill ' '
  else if layout.zeros then sign ++ mark ++ List.replicate fill '0' ++ digits
  else List.replicate fill ' ' ++ sign ++ mark ++ digits

def shown (layout : Layout) (text : List Char) : List Char :=
  let fill := List.replicate (layout.width - text.length) ' '
  if layout.left then text ++ fill else fill ++ text

def cut (layout : Layout) (text : List Char) : List Char :=
  match layout.precision with
  | some size => text.take size
  | none => text

/-- The digits of a number in a base up to sixteen. -/
def digitsIn (base value : Nat) : List Char :=
  if value < base ∨ base < 2 then [Text.hexDigit value]
  else digitsIn base (value / base) ++ [Text.hexDigit (value % base)]
termination_by value
decreasing_by exact Nat.div_lt_self (by omega) (by omega)

def wholeText (layout : Layout) (base : Nat) (mark : List Char) (value : Int) : List Char :=
  let digits := digitsIn base value.natAbs
  let digits := List.replicate (layout.precision.getD 0 - digits.length) '0' ++ digits
  number layout (value < 0) (if layout.marked then mark else []) digits

/-- The whole part of a value, where it is a number. -/
def wholePart (value : Json) : Except TemplateError Int :=
  match value with
  | .number value =>
    if value.isNaN then .error .malformed
    else if value.isInf then .error .tooLarge
    else
      let ratio := exact value
      .ok (Int.tdiv ratio.num ratio.den)
  | value =>
    match whole? value with
    | some value => .ok value
    | none => .error .mismatch

def double (value : Json) : Except TemplateError Float :=
  match value with
  | .number value => .ok value
  | value =>
    match whole? value with
    | none => .error .mismatch
    | some value =>
      match ofInteger? value with
      | some value => .ok value
      | none => .error .tooLarge

def decimalText (layout : Layout) (style : Notation) (value : Float) : List Char :=
  let negative := isMinus value
  let digits :=
    if value.isNaN then ['n', 'a', 'n']
    else if value.isInf then ['i', 'n', 'f']
    else lengthText style layout.marked (layout.precision.getD 6) (exact value.abs)
  number layout (negative && !value.isNaN) [] digits

def escapeBeyondAscii (char : Char) : List Char :=
  if char.toNat < 0x80 then [char]
  else if char.toNat < 0x100 then '\\' :: 'x' :: Text.hexDigits 2 char.toNat
  else if char.toNat < 0x10000 then '\\' :: 'u' :: Text.hexDigits 4 char.toNat
  else '\\' :: 'U' :: Text.hexDigits 8 char.toNat

def character (value : Json) : Except TemplateError Char :=
  match value with
  | .string text =>
    match text.toList with
    | [char] => .ok char
    | _ => .error .mismatch
  | value =>
    match whole? value with
    | none => .error .mismatch
    | some point =>
      if 0 ≤ point ∧ point ≤ 0x10ffff then .ok (Char.ofNat point.toNat) else .error .tooLarge

def upper (text : List Char) : List Char := text.map Char.toUpper

/-- The text of a value under a letter. -/
def convert (layout : Layout) (value : Json) : Char → Except TemplateError (List Char)
  | 's' => .ok (shown layout (cut layout value.display))
  | 'r' => .ok (shown layout (cut layout value.quoted))
  | 'a' => .ok (shown layout (cut layout (value.quoted.flatMap escapeBeyondAscii)))
  | 'd' | 'i' | 'u' => (wholePart value).map (wholeText layout 10 [])
  | 'x' => (whole value).map (wholeText layout 16 ['0', 'x'])
  | 'X' => (whole value).map fun value => upper (wholeText layout 16 ['0', 'x'] value)
  | 'o' => (whole value).map (wholeText layout 8 ['0', 'o'])
  | 'e' => (double value).map (decimalText layout .scientific)
  | 'E' => (double value).map fun value => upper (decimalText layout .scientific value)
  | 'f' => (double value).map (decimalText layout .positional)
  | 'F' => (double value).map fun value => upper (decimalText layout .positional value)
  | 'g' => (double value).map (decimalText layout .general)
  | 'G' => (double value).map fun value => upper (decimalText layout .general value)
  | 'c' => (character value).map fun char => shown layout [char]
  | _ => .error .malformed
where
  whole (value : Json) : Except TemplateError Int :=
    match whole? value with
    | some value => .ok value
    | none => .error .mismatch

/-- The widest a value may be asked to be. -/
def widthLimit : Nat := 0x7fffffffffffffff

def precisionLimit : Nat := 0x7fffffff

def fillConversion (arguments : Arguments) (conversion : Conversion) :
    Except TemplateError (List Char × Arguments) := do
  let arguments ← arguments.select conversion.key
  let (width, arguments) ← arguments.extent widthLimit conversion.width
  let (precision, arguments) ← arguments.extent precisionLimit conversion.precision
  match conversion.letter with
  | none => .error .malformed
  | some letter =>
    let (value, arguments) ← arguments.next
    let text ← convert (layoutOf conversion.flags width precision) value letter
    return (text, arguments)

def fillPieces (arguments : Arguments) : List Piece → Except TemplateError (List Char)
  | [] => if arguments.spent then .ok [] else .error .mismatch
  | .literal char :: rest => (fillPieces arguments rest).map (char :: ·)
  | .conversion conversion :: rest =>
    match fillConversion arguments conversion with
    | .error error => .error error
    | .ok (text, arguments) => (fillPieces arguments rest).map (text ++ ·)

/-- A template without arguments is a plain text. -/
def fill (template : String) (arguments : List Json) : Except TemplateError String :=
  if arguments.isEmpty then .ok template
  else (fillPieces (argumentsOf arguments) (pieces template.toList)).map String.ofList

end PriceBoard.Logging
