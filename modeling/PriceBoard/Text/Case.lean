import PriceBoard.Text.CaseTable

/-!
# Upper and lower case

The full case mappings: one character may become several, and a capital sigma becomes the final
form at the end of a word.
-/
namespace PriceBoard.Text

def lowerChar (char : Char) : Char :=
  if char.toNat < 128 then char.toLower
  else ((lowerRuns.findSome? (·.map? char.toNat)).map Char.ofNat).getD char

/-- The nearest character that case detection does not look through has a case. -/
def meetsCased (text : List Char) : Bool :=
  match text.dropWhile fun char => inRanges caseIgnorableRanges char.toNat with
  | [] => false
  | char :: _ => inRanges casedRanges char.toNat

/-- `before` holds the characters read so far, the last one first. -/
def lowercaseAfter (before : List Char) : List Char → List Char
  | [] => []
  | char :: rest =>
    let image :=
      if char = 'Σ' then [if meetsCased before && !meetsCased rest then 'ς' else 'σ']
      else if char = 'İ' then ['i', '\u0307']
      else [lowerChar char]
    image ++ lowercaseAfter (char :: before) rest

def lowercase (text : List Char) : List Char := lowercaseAfter [] text

def upperImage (char : Char) : List Char :=
  if char.toNat < 128 then [char.toUpper]
  else match upperExpansions.lookup char.toNat with
    | some points => points.map Char.ofNat
    | none => [((upperRuns.findSome? (·.map? char.toNat)).map Char.ofNat).getD char]

def uppercase (text : List Char) : List Char := text.flatMap upperImage

def lowercaseString (text : String) : String := String.ofList (lowercase text.toList)

def uppercaseString (text : String) : String := String.ofList (uppercase text.toList)

end PriceBoard.Text
