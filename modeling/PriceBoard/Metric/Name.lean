/-!
# Names of metrics

A name is in lower case, with digits and underscores but no digit in front. It starts with its
service's name. A counter is stored without the word `total` at its end.
-/
namespace PriceBoard.Metric

inductive Instrument where
  | counter
  | gauge
  | histogram
  deriving DecidableEq, Repr

inductive NameError where
  | invalid (name : String)
  /-- Nothing is left of a counter's name. -/
  | empty
  | label (label : String)
  /-- Bounds of buckets out of order, or too few of them. -/
  | buckets
  deriving DecidableEq, Repr

def NameError.message? : NameError → Option String
  | .invalid name =>
    some ("Invalid metric name '" ++ name ++ "'. Use snake_case alphanumerics/underscores.")
  | _ => none

def isNameStart (char : Char) : Bool := ('a' ≤ char && char ≤ 'z') || char = '_'

def isNamePart (char : Char) : Bool := isNameStart char || ('0' ≤ char && char ≤ '9')

/-- A line break may end a name. -/
def isName (text : List Char) : Bool :=
  match text with
  | [] => false
  | first :: rest =>
    isNameStart first &&
      (match rest.dropWhile isNamePart with
        | [] => true
        | tail => tail = ['\n'])

def isLabelStart (char : Char) : Bool := isNameStart char || ('A' ≤ char && char ≤ 'Z')

def isLabelPart (char : Char) : Bool := isLabelStart char || ('0' ≤ char && char ≤ '9')

/-- Labels may have capitals, but not two underscores in front. -/
def isLabel (text : List Char) : Bool :=
  match text with
  | [] => false
  | '_' :: '_' :: _ => false
  | first :: rest =>
    isLabelStart first &&
      (match rest.dropWhile isLabelPart with
        | [] => true
        | tail => tail = ['\n'])

/-- The name with the service's in front, once. -/
def fullName (service : Option String) (name : String) : String :=
  match service with
  | none => name
  | some service =>
    if service = "" ∨ name.startsWith (service ++ "_") then name else service ++ "_" ++ name

/-- A counter's name without one `_total` at its end. -/
def storedName (instrument : Instrument) (name : String) : String :=
  if instrument = .counter ∧ name.endsWith "_total" then
    String.ofList (name.toList.take (name.length - 6))
  else name

def checkLabels (instrument : Instrument) (labels : List String) : Except NameError Unit :=
  match labels.find? fun label =>
    !isLabel label.toList || (instrument = .histogram && label = "le") with
  | some label => .error (.label label)
  | none => .ok ()

/-- Bounds in ascending order, with infinity as the last one if it is not there already. -/
def checkBuckets (bounds : List Float) : Except NameError Unit :=
  let ascending := (bounds.zip bounds.tail).all fun (left, right) => left ≤ right
  let closed := bounds.getLast?.any fun bound => bound.isInf && 0 < bound
  let size := if bounds.isEmpty || !closed then bounds.length + 1 else bounds.length
  if ascending && 2 ≤ size then .ok () else .error .buckets

/-- The name under which a metric is stored. -/
def declare (instrument : Instrument) (service : Option String) (name : String)
    (labels : List String) (buckets : Option (List Float)) : Except NameError String :=
  let full := fullName service name
  if !isName full.toList then .error (.invalid full)
  else
    match if instrument = .histogram then checkBuckets? buckets else .ok () with
    | .error error => .error error
    | .ok () =>
      match checkLabels instrument labels with
      | .error error => .error error
      | .ok () =>
        let stored := storedName instrument full
        if stored = "" then .error .empty else .ok stored
where
  checkBuckets? : Option (List Float) → Except NameError Unit
    | none => .ok ()
    | some bounds => checkBuckets bounds

end PriceBoard.Metric
