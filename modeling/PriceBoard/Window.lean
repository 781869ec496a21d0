import PriceBoard.Calendar.DateTime
import PriceBoard.Decimal.Integer

/-!
# Relative windows

A window is a positive number of a unit of time. Its short form is the number in decimal and one of
the suffixes `m`, `h`, `d`, `w`, `mo`; a month is thirty days.
-/
namespace PriceBoard

open PriceBoard.Decimal PriceBoard.Text

inductive WindowUnit where
  | minute
  | hour
  | day
  | week
  | month
  deriving DecidableEq, Repr

namespace WindowUnit

def all : List WindowUnit := [.minute, .hour, .day, .week, .month]

def name : WindowUnit → String
  | .minute => "minute"
  | .hour => "hour"
  | .day => "day"
  | .week => "week"
  | .month => "month"

def ofName? (name : String) : Option WindowUnit := all.find? (·.name = name)

def suffix : WindowUnit → List Char
  | .minute => ['m']
  | .hour => ['h']
  | .day => ['d']
  | .week => ['w']
  | .month => ['m', 'o']

def ofSuffix? (suffix : List Char) : Option WindowUnit := all.find? (·.suffix = suffix)

def seconds : WindowUnit → Nat
  | .minute => 60
  | .hour => 3600
  | .day => 86400
  | .week => 604800
  | .month => 2592000

end WindowUnit

structure Window where
  amount : Nat
  unit : WindowUnit
  positive : 1 ≤ amount
  deriving DecidableEq

inductive WindowError where
  | unknownUnit
  | notPositive (amount : Int)
  deriving DecidableEq, Repr

def WindowError.message : WindowError → String
  | .unknownUnit => "unknown unit"
  | .notPositive amount => "window amount must be >= 1, got " ++ intText amount

namespace Window

def make (amount : Int) (unit : WindowUnit) : Except WindowError Window :=
  if positive : 1 ≤ amount.toNat then .ok ⟨amount.toNat, unit, positive⟩
  else .error (.notPositive amount)

/-- The unit's name is looked at before the amount. -/
def ofNamed (amount : Int) (unit : String) : Except WindowError Window :=
  match WindowUnit.ofName? unit with
  | none => .error .unknownUnit
  | some unit => make amount unit

def seconds (window : Window) : Nat := window.unit.seconds * window.amount

def span (window : Window) : Except TimeError Span := Span.ofMicros (window.seconds * 1000000 : Nat)

def cutoff (window : Window) (now : DateTime) : Except TimeError DateTime :=
  window.span.bind now.minus

/-- The short form. -/
def token (window : Window) : List Char := natDigits window.amount ++ window.unit.suffix

/-- Reads the short form, with digits of any script and blanks around it. Nothing is read from any
other text; an amount of too many digits is an error. -/
def read (token : List Char) : Except IntegerError (Option Window) :=
  let token := trim token
  match token.takeWhile isDigit, WindowUnit.ofSuffix? (token.dropWhile isDigit) with
  | [], _ => .ok none
  | _ :: _, none => .ok none
  | digits, some unit =>
    (readDigits digits).map fun amount =>
      if positive : 1 ≤ amount then some ⟨amount, unit, positive⟩ else none

def read? : Option String → Except IntegerError (Option Window)
  | none => .ok none
  | some token => read token.toList

/-- One hour. -/
def default : Window := ⟨60, .minute, by decide⟩

/-- The window of a short form, or the default where it gives none. -/
def readOrDefault (token : Option String) : Except IntegerError Window :=
  (read? token).map (·.getD default)

end Window
end PriceBoard
