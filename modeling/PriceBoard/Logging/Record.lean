import PriceBoard.Logging.Redaction
import PriceBoard.Logging.Template
import PriceBoard.Settings.Basic

/-!
# Log records

A record shows its message, where it comes from, and whatever its writer adds. The service's own name
and environment take the place of added members of those names.
-/
namespace PriceBoard.Logging

structure Level where
  names : List String
  number : Int

def levels : List Level := [
  ⟨["DEBUG"], 10⟩, ⟨["INFO"], 20⟩, ⟨["WARNING", "WARN"], 30⟩, ⟨["ERROR"], 40⟩,
  ⟨["CRITICAL", "FATAL"], 50⟩, ⟨["NOTSET"], 0⟩]

def levelNumber? (name : String) : Option Int :=
  (levels.find? fun level => level.names.contains name).map (·.number)

/-- The first name of a level's number. -/
def levelName (number : Int) : String :=
  ((levels.find? fun level => level.number = number).bind (·.names.head?)).getD
    ("Level " ++ Decimal.intText number)

/-- The level a name asks for, in any case of letters; `INFO` if it names none. -/
def thresholdOf (name : String) : Int := (levelNumber? (Text.uppercaseString name)).getD 20

def isDevelopment (environment : String) : Bool :=
  Text.lowercaseString environment = "development"

/-- What logging is set up to do. -/
structure Configuration where
  threshold : Int
  /-- Plain lines are written in development, JSON elsewhere. -/
  json : Bool
  deriving DecidableEq, Repr

def configure (environment level : String) : Configuration :=
  ⟨thresholdOf level, !isDevelopment environment⟩

/-- The name of a logger; the one without a name is the root. -/
def loggerName (name : String) : String := if name = "" then "root" else name

/-- A message as it is logged, with the arguments that stay with it: none, if the message is
redacted. -/
def screen (patterns : List String) (template : String) (arguments : List Json) :
    Except TemplateError (String × List Json) :=
  (fill template arguments).map fun message =>
    match redactMessage? patterns message with
    | some redacted => (redacted, [])
    | none => (message, arguments)

/-- A failure that is logged. -/
structure Failure where
  kind : String
  text : String
  /-- The text is a key that was not found. -/
  isKey : Bool

/-- A key is shown quoted. -/
def Failure.message (failure : Failure) : String :=
  if failure.isKey then String.ofList (Text.quote failure.text.toList) else failure.text

structure Record where
  service : String
  environment : String
  logger : String
  level : Int
  template : String
  arguments : List Json
  file : String
  line : Int
  failure : Option Failure
  /-- What the writer adds. -/
  extra : List (String × Json)

/-- A file's name without its last dot and what follows it. -/
def stem (file : String) : String :=
  match (file.splitOn ".").dropLast with
  | [] => file
  | parts => ".".intercalate parts

/-- The members of a record, before redaction. -/
def Record.members (record : Record) : Except TemplateError (List (String × Json)) :=
  (fill record.template record.arguments).map fun message =>
    let failure := record.failure.map fun failure =>
      ("exception", Json.object [("type", .string failure.kind), ("message", .string failure.message)])
    membersOf ([
      ("name", .string record.logger), ("msg", .string record.template),
      ("levelname", .string (levelName record.level)), ("levelno", .integer record.level),
      ("pathname", .string record.file), ("filename", .string record.file),
      ("module", .string (stem record.file)), ("lineno", .integer record.line)] ++
      record.extra ++ [
      ("message", .string message), ("service", .string record.service),
      ("environment", .string record.environment)] ++ failure.toList)

def Record.show (record : Record) (patterns : List String) :
    Except TemplateError (List (String × Json)) :=
  record.members.map (redact patterns)

end PriceBoard.Logging
