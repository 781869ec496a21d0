import PriceBoard.Text.Ranges

/-!
# Blanks and trimming

White space of any script, and the four information separators `\x1c` … `\x1f`. The narrower set
without those four is what may surround a numeral.
-/
namespace PriceBoard.Text

def blankRanges : List (Nat × Nat) := [
  (0x09, 0x0d), (0x1c, 0x20), (0x85, 0x85), (0xa0, 0xa0), (0x1680, 0x1680), (0x2000, 0x200a),
  (0x2028, 0x2029), (0x202f, 0x202f), (0x205f, 0x205f), (0x3000, 0x3000)]

def isBlank (char : Char) : Bool := inRanges blankRanges char.toNat

/-- White space proper, which may surround a numeral. -/
def isSpace (char : Char) : Bool :=
  isBlank char && !(0x1c ≤ char.toNat && char.toNat ≤ 0x1f)

def trimWith (drop : Char → Bool) (text : List Char) : List Char :=
  ((text.dropWhile drop).reverse.dropWhile drop).reverse

def trim (text : List Char) : List Char := trimWith isBlank text

end PriceBoard.Text
