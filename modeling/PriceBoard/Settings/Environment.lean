import PriceBoard.Json.Reader
import PriceBoard.Settings.Basic
import PriceBoard.Snapshot.Input
import PriceBoard.Text.Case

/-!
# Settings from the environment

Each setting is read from the variable of its name, in any case of letters; of several such variables
the last one counts. Lists and tables are written in JSON. Every value that cannot be read is
reported, except that a text which is not JSON is an error of its own.
-/
namespace PriceBoard

open PriceBoard.Decimal PriceBoard.Text

abbrev Environment := List (String × String)

inductive SettingsError where
  | notJson (setting : String)
  | faults (faults : List Fault)

namespace Environment

def entry? (environment : Environment) (name : String) : Option String :=
  (environment.reverse.find? fun entry => lowercaseString entry.1 = name).map (·.2)

end Environment

/-- A value with the faults found on the way to it. -/
structure Checked (Value : Type) where
  value : Value
  faults : List Fault

namespace Checked

def ok {Value : Type} (value : Value) : Checked Value := ⟨value, []⟩

/-- The value that was read, or a fallback and a fault. -/
def ofRead {Value : Type} (name kind : String) (fallback : Value) : Option Value → Checked Value
  | some value => ok value
  | none => ⟨fallback, [⟨[name], kind⟩]⟩

end Checked

/-- Drops zeros after a point at the end, and the point. -/
def dropZeroFraction (text : List Char) : List Char :=
  match text.dropWhile (· ≠ '.') with
  | _ :: fraction => if fraction.all (· = '0') then text.takeWhile (· ≠ '.') else text
  | [] => text

/-- The digits of a whole number without the zeros in front. Underscores among those zeros go with
them; a last zero before a point or the end stays. -/
def dropLeadingZeros? : List Char → Option (List Char)
  | [] => none
  | '0' :: rest =>
    match rest.dropWhile fun char => char = '0' || char = '_' with
    | [] => some [rest.getLastD '0']
    | '.' :: fraction => some ('0' :: '.' :: fraction)
    | digits => if digits.head?.any isAsciiDigit then some digits else none
  | char :: rest => if isAsciiDigit char then some (char :: rest) else none

def wholeDigits? (text : List Char) : Option Nat :=
  (dropInnerUnderscores? text).or (some text) |>.bind fun digits =>
    if digits.isEmpty || !digits.all isAsciiDigit then none
    else some (ofDigits (digits.map asciiValue))

inductive WholeError where
  | notWhole
  | tooLong
  deriving DecidableEq, Repr

def WholeError.kind : WholeError → String
  | .notWhole => "int_parsing"
  | .tooLong => "int_parsing_size"

/-- Reads a whole number: ASCII digits with an optional sign, white space around it, single
underscores inside, and zeros after a point. -/
def readLooseWhole (text : List Char) : Except WholeError Int :=
  let text := trimWith isSpace text
  let value? : Option Int := match text with
    | '-' :: rest => (wholeDigits? (dropZeroFraction rest)).map fun value => -(value : Int)
    | '+' :: rest =>
      ((dropLeadingZeros? rest).map dropZeroFraction).bind wholeDigits? |>.map fun value => value
    | rest =>
      ((dropLeadingZeros? rest).map dropZeroFraction).bind wholeDigits? |>.map fun value => value
  if digitLimit < text.length then .error .tooLong
  else
    match value? with
    | some value => .ok value
    | none => .error .notWhole

def truthWords : List String := ["1", "on", "t", "true", "y", "yes"]

def falsehoodWords : List String := ["0", "off", "f", "false", "n", "no"]

def readFlag? (text : String) : Option Bool :=
  let word := String.ofList (text.toList.map Char.toLower)
  if truthWords.contains word then some true
  else if falsehoodWords.contains word then some false
  else none

namespace Environment

variable (environment : Environment)

def text (name fallback : String) : String := (environment.entry? name).getD fallback

def whole (name : String) (fallback : Int) : Checked Int :=
  match (environment.entry? name).map fun text => readLooseWhole text.toList with
  | none => .ok fallback
  | some (.ok value) => .ok value
  | some (.error error) => ⟨fallback, [⟨[name], error.kind⟩]⟩

def real (name : String) (fallback : Float) : Checked Float :=
  match environment.entry? name with
  | none => .ok fallback
  | some text => .ofRead name "float_parsing" fallback (readLooseFloat? text.toList)

def flag (name : String) (fallback : Bool) : Checked Bool :=
  match environment.entry? name with
  | none => .ok fallback
  | some text => .ofRead name "bool_parsing" fallback (readFlag? text)

/-- A JSON setting; nothing is set by `null`. -/
def json? (name : String) : Except SettingsError (Option Json) :=
  match environment.entry? name with
  | none => .ok none
  | some text =>
    match Json.read? text.toList with
    | none => .error (.notJson name)
    | some .null => .ok none
    | some value => .ok (some value)

end Environment

def textAt (place : List String) : Json → Checked String
  | .string text => .ok text
  | _ => ⟨"", [⟨place, "string_type"⟩]⟩

def textsAt (name : String) (place : Nat) : List Json → Checked (List String)
  | [] => .ok []
  | item :: items =>
    let text := textAt [name, natText place] item
    let rest := textsAt name (place + 1) items
    ⟨text.value :: rest.value, text.faults ++ rest.faults⟩

def texts (name : String) (fallback : List String) : Option Json → Checked (List String)
  | none => .ok fallback
  | some (.array items) => textsAt name 0 items
  | some _ => ⟨fallback, [⟨[name], "list_type"⟩]⟩

def tableAt (name : String) : List (String × Json) → Checked (List (String × String))
  | [] => .ok []
  | (key, value) :: rest =>
    let text := textAt [name, key] value
    let rest := tableAt name rest
    ⟨(key, text.value) :: rest.value, text.faults ++ rest.faults⟩

def table (name : String) (fallback : List (String × String)) :
    Option Json → Checked (List (String × String))
  | none => .ok fallback
  | some (.object members) => tableAt name members
  | some _ => ⟨fallback, [⟨[name], "dict_type"⟩]⟩

/-- A value without faults. -/
def Checked.settle {Value : Type} (checked : Checked Value) : Except SettingsError Value :=
  if checked.faults.isEmpty then .ok checked.value else .error (.faults checked.faults)

namespace BaseSettings

def check (environment : Environment) (serviceName : String) (patterns : Option Json) :
    Checked BaseSettings :=
  let patterns := texts "app_log_redaction_patterns" default.redactionPatterns patterns
  let storePort := environment.whole "redis_port" default.storePort
  let database := environment.whole "redis_db" default.storeDatabase
  { value := {
      logLevel := environment.text "app_log_level" default.logLevel
      redactionPatterns := patterns.value
      environment := environment.text "app_environment" default.environment
      storeHost := environment.text "redis_host" default.storeHost
      storePort := storePort.value
      storeDatabase := database.value
      serviceName := environment.text "otel_service_name" serviceName }
    faults := patterns.faults ++ storePort.faults ++ database.faults }

def ofEnvironment (environment : Environment) : Except SettingsError BaseSettings :=
  (environment.json? "app_log_redaction_patterns").bind fun patterns =>
    (check environment default.serviceName patterns).settle

def toJson (settings : BaseSettings) : List (String × Json) := [
  ("app_log_level", .string settings.logLevel),
  ("app_log_redaction_patterns", .array (settings.redactionPatterns.map .string)),
  ("app_environment", .string settings.environment),
  ("redis_host", .string settings.storeHost),
  ("redis_port", .integer settings.storePort),
  ("redis_db", .integer settings.storeDatabase),
  ("otel_service_name", .string settings.serviceName)]

end BaseSettings

namespace Settings

/-- The settings that an environment gives, once its JSON values have been read. -/
def check (environment : Environment) (patterns symbols origins : Option Json) :
    Checked Settings :=
  let base := BaseSettings.check environment default.serviceName patterns
  let symbols := table "feed_symbols" default.symbols symbols
  let listens := environment.flag "enable_feed_listeners" default.listens
  let initial :=
    environment.real "feed_reconnect_initial_delay_seconds" default.reconnect.initial
  let cap := environment.real "feed_reconnect_max_delay_seconds" default.reconnect.cap
  let interval := environment.real "aggregation_interval_seconds" default.interval
  let grace := environment.real "aggregation_shutdown_grace_seconds" default.grace
  let retention := environment.whole "snapshot_retention_seconds" default.retention
  let limit := environment.whole "query_result_limit" default.resultLimit
  let timeout := environment.real "query_timeout_seconds" default.queryTimeout
  let batch := environment.whole "query_scan_batch_size" default.scanBatch
  let origins := texts "cors_allow_origins" default.allowedOrigins origins
  { value := {
      toBaseSettings := base.value
      streamBase := environment.text "feed_ws_base_url" default.streamBase
      symbols := symbols.value
      listens := listens.value
      reconnect := ⟨initial.value, cap.value⟩
      interval := interval.value
      grace := grace.value
      retention := retention.value
      defaultWindow := environment.text "history_default_filter" default.defaultWindow
      resultLimit := limit.value
      queryTimeout := timeout.value
      scanBatch := batch.value
      allowedOrigins := origins.value }
    faults := base.faults ++ symbols.faults ++ listens.faults ++ initial.faults ++ cap.faults ++
      interval.faults ++ grace.faults ++ retention.faults ++ limit.faults ++ timeout.faults ++
      batch.faults ++ origins.faults }

def ofEnvironment (environment : Environment) : Except SettingsError Settings :=
  (environment.json? "app_log_redaction_patterns").bind fun patterns =>
    (environment.json? "feed_symbols").bind fun symbols =>
      (environment.json? "cors_allow_origins").bind fun origins =>
        (check environment patterns symbols origins).settle

def toJson (settings : Settings) : List (String × Json) :=
  settings.toBaseSettings.toJson ++ [
    ("feed_ws_base_url", .string settings.streamBase),
    ("feed_symbols", .object (settings.symbols.map fun (feed, symbol) => (feed, .string symbol))),
    ("feed_names", .array (settings.feeds.map .string)),
    ("enable_feed_listeners", .bool settings.listens),
    ("feed_reconnect_initial_delay_seconds", .number settings.reconnect.initial),
    ("feed_reconnect_max_delay_seconds", .number settings.reconnect.cap),
    ("aggregation_interval_seconds", .number settings.interval),
    ("aggregation_shutdown_grace_seconds", .number settings.grace),
    ("snapshot_retention_seconds", .integer settings.retention),
    ("history_default_filter", .string settings.defaultWindow),
    ("query_result_limit", .integer settings.resultLimit),
    ("query_timeout_seconds", .number settings.queryTimeout),
    ("query_scan_batch_size", .integer settings.scanBatch),
    ("cors_allow_origins", .array (settings.allowedOrigins.map .string))]

end Settings
end PriceBoard
