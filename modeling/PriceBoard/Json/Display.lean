import PriceBoard.Decimal.Layout
import PriceBoard.Json.Value
import PriceBoard.Text.Quoted

/-!
# Values in messages

A text stands for itself; inside a list or a table it is quoted. Truth values are `True` and `False`,
and null is `None`.
-/
namespace PriceBoard.Json

open PriceBoard.Decimal PriceBoard.Text

mutual

/-- The text of a value with its own texts quoted. -/
def quoted : Json → List Char
  | .null => "None".toList
  | .bool value => if value then "True".toList else "False".toList
  | .integer value => intDigits value
  | .number value => floatDigits plainStyle value
  | .string text => quote text.toList
  | .array [] => "[]".toList
  | .array (item :: items) => '[' :: quoted item ++ quotedItems items
  | .object [] => ['\x7b', '\x7d']
  | .object ((name, value) :: members) =>
    '\x7b' :: quote name.toList ++ ':' :: ' ' :: quoted value ++ quotedMembers members

def quotedItems : List Json → List Char
  | [] => [']']
  | item :: items => ',' :: ' ' :: quoted item ++ quotedItems items

def quotedMembers : List (String × Json) → List Char
  | [] => ['\x7d']
  | (name, value) :: members =>
    ',' :: ' ' :: quote name.toList ++ ':' :: ' ' :: quoted value ++ quotedMembers members

end

def display : Json → List Char
  | .string text => text.toList
  | value => quoted value

end PriceBoard.Json
