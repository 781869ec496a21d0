import PriceBoard.Decimal.Numeral
import PriceBoard.Query.Dates
import PriceBoard.Query.Phrase
import PriceBoard.Query.Split

/-!
# From queries to predicates

Each clause gives a predicate or nothing. The clauses of a group must all hold, and one of the groups
must; what gives nothing is left out, and a query that gives nothing at all matches nothing. The
whole query is read against one instant.
-/
namespace PriceBoard.Query

open PriceBoard.Decimal PriceBoard.Text

inductive ClauseError where
  /-- Digits and points that make no number. -/
  | invalidNumber (text : List Char)
  | tooManyDigits
  | time (error : TimeError)
  deriving DecidableEq, Repr

/-- The error of a query, with the query as it was given. -/
structure QueryError where
  query : List Char
  cause : ClauseError
  deriving DecidableEq, Repr

def invalidNumberMessage (text : List Char) : String :=
  "Invalid number '" ++ String.ofList text ++ "'"

structure Context where
  now : DateTime
  fields : List String

def number (text : List Char) : Except ClauseError Float :=
  match readFloat? text with
  | some value => .ok value
  | none => .error (.invalidNumber text)

def span (amount : List Char) (unit : SpanUnit) : Except ClauseError Span :=
  match readDigits amount with
  | .error _ => .error .tooManyDigits
  | .ok amount => (Span.ofMicros (amount * unit.ms * 1000 : Nat)).mapError .time

/-- The time `amount` units before the present. -/
def cutoff (context : Context) (amount : List Char) (unit : SpanUnit) :
    Except ClauseError DateTime :=
  (span amount unit).bind fun span => (context.now.minus span).mapError .time

/-- A drop that says no time is looked for in the last hour. -/
def dropCutoff (context : Context) : Option (List Char × SpanUnit) → Except ClauseError DateTime
  | some (amount, unit) => cutoff context amount unit
  | none => cutoff context ['1'] .hour

/-- What a phrase asks for; a date that cannot be read asks for nothing. -/
def Phrase.predicate (context : Context) : Phrase → Except ClauseError (Option Predicate)
  | .dropped value ago =>
    (dropCutoff context ago).bind fun cutoff =>
      (number value).map fun value =>
        some (.all [.timeWithinLast cutoff, .anyFieldBelow value context.fields])
  | .rose value => (number value).map fun value => some (.anyFieldAbove value context.fields)
  | .fell value => (number value).map fun value => some (.anyFieldBelow value context.fields)
  | .sided field side value =>
    (number value).map fun value =>
      some (.comparison (String.ofList field) (if side = .above then .greater else .less) value)
  | .between field low high =>
    (number low).bind fun low =>
      (number high).map fun high => some (.range (String.ofList field) low high)
  | .withinLast amount unit =>
    (cutoff context amount unit).map fun cutoff => some (.timeWithinLast cutoff)
  | .dated edge date =>
    ((readDate date context.now).mapError .time).map fun date =>
      date.map (if edge = .after then .timeAfter else .timeBefore)
  | .compared field comparator value =>
    (number value).map fun value => some (.comparison (String.ofList field) comparator value)

def readClause (rules : List Rule) (context : Context) (clause : List Char) :
    Except ClauseError (Option Predicate) :=
  match recognise? rules (lowercase (trim clause)) with
  | none => .ok none
  | some phrase => phrase.predicate context

/-- The predicates of the clauses that give one, in order. -/
def readClauses (rules : List Rule) (context : Context) :
    List (List Char) → Except ClauseError (List Predicate)
  | [] => .ok []
  | clause :: clauses =>
    match readClause rules context clause with
    | .error error => .error error
    | .ok none => readClauses rules context clauses
    | .ok (some predicate) => (readClauses rules context clauses).map (predicate :: ·)

def groupPredicate? : List Predicate → Option Predicate
  | [] => none
  | [predicate] => some predicate
  | predicates => some (.all predicates)

def readGroups (rules : List Rule) (context : Context) :
    List (List (List Char)) → Except ClauseError (List Predicate)
  | [] => .ok []
  | group :: groups =>
    match readClauses rules context group with
    | .error error => .error error
    | .ok predicates =>
      (readGroups rules context groups).map fun rest =>
        match groupPredicate? predicates with
        | none => rest
        | some predicate => predicate :: rest

/-- Of a query in which nothing is understood nothing is left, and no snapshot matches it. -/
def compile (context : Context) (query : List Char) : Except QueryError Predicate :=
  match readGroups Rule.all context (split query) with
  | .error cause => .error ⟨query, cause⟩
  | .ok groups => .ok (.any groups)

end PriceBoard.Query
