/-!
# JSON values

Objects keep the order of their members. Whole numbers and doubles are told apart, as in the text.
-/
namespace PriceBoard

inductive Json where
  | null
  | bool (value : Bool)
  | integer (value : Int)
  | number (value : Float)
  | string (value : String)
  | array (items : List Json)
  | object (members : List (String × Json))

/-- Sets a member: a new name goes last, a known one keeps its place. -/
def setMember {Value : Type} (name : String) (value : Value) :
    List (String × Value) → List (String × Value)
  | [] => [(name, value)]
  | (other, old) :: rest =>
    if other = name then (name, value) :: rest else (other, old) :: setMember name value rest

/-- Members in order of their first mention, each with its last value. -/
def membersOf {Value : Type} (entries : List (String × Value)) : List (String × Value) :=
  entries.foldl (fun members entry => setMember entry.1 entry.2 members) []

namespace Json

def member? (name : String) : Json → Option Json
  | .object members => members.lookup name
  | _ => none

end Json
end PriceBoard
