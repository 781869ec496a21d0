/-!
# Powers of two and ten
-/
namespace PriceBoard.Decimal

def twoTo (exponent : Nat) : Nat := Nat.pow 2 exponent

def tenTo (exponent : Nat) : Nat := Nat.pow 10 exponent

end PriceBoard.Decimal
