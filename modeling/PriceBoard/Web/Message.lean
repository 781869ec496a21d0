import PriceBoard.Json.Value

/-!
# Requests and responses

Of a parameter that is given several times the last counts. Header names do not depend on case.
-/
namespace PriceBoard.Web

structure Request where
  method : String
  path : String
  params : List (String × String)
  headers : List (String × String)

inductive Body where
  | json (value : Json)
  | text (text : String)
  /-- A text whose content is left open. -/
  | report

structure Response where
  status : Nat
  body : Body
  /-- The origin whose pages may read the response. -/
  allowOrigin : Option String

namespace Request

def param? (request : Request) (name : String) : Option String :=
  request.params.reverse.lookup name

def asciiLower (text : String) : String := String.ofList (text.toList.map Char.toLower)

def header? (request : Request) (name : String) : Option String :=
  (request.headers.find? fun header => asciiLower header.1 = name).map (·.2)

end Request

namespace Response

def json (status : Nat) (value : Json) : Response := ⟨status, .json value, none⟩

def text (status : Nat) (text : String) : Response := ⟨status, .text text, none⟩

/-- The body names what went wrong. -/
def failure (status : Nat) (member message : String) : Response :=
  json status (.object [(member, .string message)])

end Response
end PriceBoard.Web
