/-!
# Ranges of code points

A property of characters is given by the closed ranges of code points that have it.
-/
namespace PriceBoard.Text

def inRanges (ranges : List (Nat × Nat)) (point : Nat) : Bool :=
  ranges.any fun range => range.1 ≤ point && point ≤ range.2

end PriceBoard.Text
