/-!
# Encoded text

Bytes are read as UTF-8, UTF-16 or UTF-32. A byte order mark or the zero bytes among the first four
tell which. A code point of the surrogates is let through; any other ill-formed sequence is refused.
-/
namespace PriceBoard.Text

def isContinuation (byte : Nat) : Bool := 0x80 ≤ byte && byte < 0xc0

/-- Whether the second byte of a sequence keeps it short, and within the code points. -/
def secondAllowed (first second : Nat) : Bool :=
  isContinuation second &&
    (first ≠ 0xe0 || 0xa0 ≤ second) && (first ≠ 0xf0 || 0x90 ≤ second) &&
    (first ≠ 0xf4 || second < 0x90)

def decodeUtf8? : List Nat → Option (List Nat)
  | [] => some []
  | first :: rest =>
    if first < 0x80 then (decodeUtf8? rest).map (first :: ·)
    else
      match rest with
      | second :: rest =>
        if 0xc2 ≤ first ∧ first < 0xe0 then
          if isContinuation second then
            (decodeUtf8? rest).map (((first - 0xc0) * 0x40 + (second - 0x80)) :: ·)
          else none
        else
          match rest with
          | third :: rest =>
            if 0xe0 ≤ first ∧ first < 0xf0 then
              if secondAllowed first second && isContinuation third then
                (decodeUtf8? rest).map
                  (((first - 0xe0) * 0x1000 + (second - 0x80) * 0x40 + (third - 0x80)) :: ·)
              else none
            else
              match rest with
              | fourth :: rest =>
                if 0xf0 ≤ first ∧ first < 0xf5 then
                  if secondAllowed first second && isContinuation third && isContinuation fourth then
                    (decodeUtf8? rest).map
                      (((first - 0xf0) * 0x40000 + (second - 0x80) * 0x1000 +
                        (third - 0x80) * 0x40 + (fourth - 0x80)) :: ·)
                  else none
                else none
              | [] => none
          | [] => none
      | [] => none

inductive ByteOrder where
  | big
  | little
  deriving DecidableEq, Repr

def units16? (order : ByteOrder) : List Nat → Option (List Nat)
  | [] => some []
  | [_] => none
  | first :: second :: rest =>
    let unit := match order with
      | .big => first * 0x100 + second
      | .little => second * 0x100 + first
    (units16? order rest).map (unit :: ·)

def units32? (order : ByteOrder) : List Nat → Option (List Nat)
  | [] => some []
  | a :: b :: c :: d :: rest =>
    let unit := match order with
      | .big => ((a * 0x100 + b) * 0x100 + c) * 0x100 + d
      | .little => ((d * 0x100 + c) * 0x100 + b) * 0x100 + a
    if unit < 0x110000 then (units32? order rest).map (unit :: ·) else none
  | _ => none

/-- The code points of encoded text; the units of UTF-16 are not joined to pairs yet. -/
def decodeBytes? (bytes : List Nat) : Option (List Nat) :=
  match bytes with
  | 0x00 :: 0x00 :: 0xfe :: 0xff :: rest => units32? .big rest
  | 0xff :: 0xfe :: 0x00 :: 0x00 :: rest => units32? .little rest
  | 0xfe :: 0xff :: rest => units16? .big rest
  | 0xff :: 0xfe :: rest => units16? .little rest
  | 0xef :: 0xbb :: 0xbf :: rest => decodeUtf8? rest
  | 0x00 :: 0x00 :: _ :: _ :: _ => units32? .big bytes
  | 0x00 :: _ :: _ :: _ :: _ => units16? .big bytes
  | _ :: 0x00 :: 0x00 :: 0x00 :: _ => units32? .little bytes
  | _ :: 0x00 :: _ :: _ :: _ => units16? .little bytes
  | [0x00, _] => units16? .big bytes
  | [_, 0x00] => units16? .little bytes
  | _ => decodeUtf8? bytes

end PriceBoard.Text
