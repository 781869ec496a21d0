import PriceBoard.Timeline

/-!
# Commands of the store

Each command may take time, and may fail with a message once that time has passed.
-/
namespace PriceBoard

inductive Command where
  | ascending
  | descending
  | trim
  | publish
  | ping
  | write
  | load
  deriving DecidableEq, Repr

namespace Command

def all : List Command := [.ascending, .descending, .trim, .publish, .ping, .write, .load]

def name : Command → String
  | .ascending => "zrangebyscore"
  | .descending => "zrevrangebyscore"
  | .trim => "zremrangebyscore"
  | .publish => "publish"
  | .ping => "ping"
  | .write => "write"
  | .load => "load"

def ofName? (name : String) : Option Command := all.find? (·.name = name)

end Command

structure Condition (Time : Type) where
  delay : Time
  failure : Option String

abbrev Conditions (Time : Type) := Command → Condition Time

namespace Conditions

variable {Time : Type}

def calm [Timeline Time] : Conditions Time := fun _ => ⟨0, none⟩

def withFailure (conditions : Conditions Time) (command : Command) (failure : Option String) :
    Conditions Time :=
  fun other => if other = command then { conditions other with failure } else conditions other

def withDelay (conditions : Conditions Time) (command : Command) (delay : Time) : Conditions Time :=
  fun other => if other = command then { conditions other with delay } else conditions other

end Conditions
end PriceBoard
