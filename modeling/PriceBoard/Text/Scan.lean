import PriceBoard.Text.Blank
import PriceBoard.Text.Digit
import PriceBoard.Text.Word

/-!
# Scanning from the left

Each scanner takes what it looks for from the front of a text and returns it with the rest.
-/
namespace PriceBoard.Text

/-- What follows `word` at the front. -/
def after? : List Char → List Char → Option (List Char)
  | [], text => some text
  | _ :: _, [] => none
  | expected :: word, char :: text => if char = expected then after? word text else none

/-- A run of at least one character, as long as possible. -/
def run? (inside : Char → Bool) (text : List Char) : Option (List Char × List Char) :=
  match text.takeWhile inside with
  | [] => none
  | run => some (run, text.dropWhile inside)

def skipBlanks (text : List Char) : List Char := text.dropWhile isBlank

/-- What follows at least one blank. -/
def blanks? (text : List Char) : Option (List Char) := (run? isBlank text).map (·.2)

def word? (text : List Char) : Option (List Char × List Char) := run? isWord text

def digits? (text : List Char) : Option (List Char × List Char) := run? isDigit text

def isNumeralPart (char : Char) : Bool := isDigit char || char = '.'

/-- Digits and points in any order; whether they make a number is seen later. -/
def numeral? (text : List Char) : Option (List Char × List Char) := run? isNumeralPart text

/-- The first place in the text, from the left, that the scanner accepts. -/
def search? {Found : Type} (scan? : List Char → Option Found) : List Char → Option Found
  | [] => scan? []
  | char :: rest =>
    match scan? (char :: rest) with
    | some found => some found
    | none => search? scan? rest

end PriceBoard.Text
