import PriceBoard.Text.Scan

/-!
# Splitting a query

`OR` separates groups and `AND` separates the clauses of a group, wherever they stand alone: with no
word character on either side. Clauses lose the blanks around them.
-/
namespace PriceBoard.Query

open PriceBoard.Text

def startsWord : List Char → Bool
  | [] => false
  | char :: _ => isWord char

/-- Whether `word` stands alone at the front of `text`, after a word character or not. -/
def standsAlone (word : List Char) (afterWord : Bool) (text : List Char) : Bool :=
  !afterWord &&
    match after? word text with
    | some rest => !startsWord rest
    | none => false

def consFirst (char : Char) : List (List Char) → List (List Char)
  | [] => [[char]]
  | part :: parts => (char :: part) :: parts

/-- Cuts at each lone `word`. `skip` counts the letters of a word just found that are still to be
passed over. -/
def cutFrom (word : List Char) : Bool → Nat → List Char → List (List Char)
  | _, _, [] => [[]]
  | _, skip + 1, char :: rest => cutFrom word (isWord char) skip rest
  | afterWord, 0, char :: rest =>
    if standsAlone word afterWord (char :: rest) then
      [] :: cutFrom word (isWord char) (word.length - 1) rest
    else consFirst char (cutFrom word (isWord char) 0 rest)

def cut (word : List Char) (text : List Char) : List (List Char) := cutFrom word false 0 text

def orWord : List Char := ['O', 'R']

def andWord : List Char := ['A', 'N', 'D']

def split (query : List Char) : List (List (List Char)) :=
  (cut orWord query).map fun group => (cut andWord group).map trim

/-- The query as text: groups of clauses. -/
def splitText (query : String) : List (List String) :=
  (split query.toList).map (·.map String.ofList)

end PriceBoard.Query
