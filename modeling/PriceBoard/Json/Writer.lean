import PriceBoard.Decimal.Layout
import PriceBoard.Json.Value
import PriceBoard.Text.Quoted

/-!
# Writing JSON

One line with a blank after each comma and colon. All but the printable ASCII characters are
escaped, those beyond the basic plane as a pair of surrogates.
-/
namespace PriceBoard.Json

open PriceBoard.Decimal

/-- One unit of sixteen bits. -/
def escapeUnit (unit : Nat) : List Char := '\\' :: 'u' :: Text.hexDigits 4 unit

def escapeChar (char : Char) : List Char :=
  if char = '"' then ['\\', '"']
  else if char = '\\' then ['\\', '\\']
  else if char = '\n' then ['\\', 'n']
  else if char = '\r' then ['\\', 'r']
  else if char = '\t' then ['\\', 't']
  else if char = '\x0c' then ['\\', 'f']
  else if char = '\x08' then ['\\', 'b']
  else
    let point := char.toNat
    if 0x20 ≤ point ∧ point ≤ 0x7e then [char]
    else if point < 0x10000 then escapeUnit point
    else
      escapeUnit (0xd800 + (point - 0x10000) / 0x400) ++
        escapeUnit (0xdc00 + (point - 0x10000) % 0x400)

def writeString (text : String) : List Char :=
  '"' :: text.toList.flatMap escapeChar ++ ['"']

mutual

def write : Json → List Char
  | .null => ['n', 'u', 'l', 'l']
  | .bool value => if value then ['t', 'r', 'u', 'e'] else ['f', 'a', 'l', 's', 'e']
  | .integer value => intDigits value
  | .number value => floatDigits messageStyle value
  | .string value => writeString value
  | .array [] => ['[', ']']
  | .array (item :: items) => '[' :: write item ++ writeItems items
  | .object [] => ['\x7b', '\x7d']
  | .object ((name, value) :: members) =>
    '\x7b' :: writeString name ++ [':', ' '] ++ write value ++ writeMembers members

def writeItems : List Json → List Char
  | [] => [']']
  | item :: items => [',', ' '] ++ write item ++ writeItems items

def writeMembers : List (String × Json) → List Char
  | [] => ['\x7d']
  | (name, value) :: members =>
    [',', ' '] ++ writeString name ++ [':', ' '] ++ write value ++ writeMembers members

end

def text (value : Json) : String := String.ofList (write value)

end PriceBoard.Json
