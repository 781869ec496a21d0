import PriceBoard.Json.Value
import PriceBoard.Text.Case
import PriceBoard.Text.Scan

/-!
# Redaction

A key is sensitive if it contains one of the patterns, whatever the case of the letters. What stands
under a sensitive key is replaced, in a table and in the tables in it; lists are left as they are. A
message that contains a pattern is replaced as a whole.
-/
namespace PriceBoard.Logging

open PriceBoard.Text

def contains (part text : List Char) : Bool := (search? (after? part) text).isSome

def mentions (patterns : List String) (text : String) : Bool :=
  patterns.any fun pattern => contains (lowercase pattern.toList) (lowercase text.toList)

def redactedValue : Json := .string "[REDACTED]"

def redactedMessage : String := "[REDACTED SENSITIVE LOG CONTENT]"

mutual

def redactValue (patterns : List String) : Json → Json
  | .object members => .object (redact patterns members)
  | value => value

def redact (patterns : List String) : List (String × Json) → List (String × Json)
  | [] => []
  | (key, value) :: rest =>
    (key, if mentions patterns key then redactedValue else redactValue patterns value) ::
      redact patterns rest

end

def redactMessage? (patterns : List String) (message : String) : Option String :=
  if mentions patterns message then some redactedMessage else none

end PriceBoard.Logging
