import PriceBoard.Calendar.Iso
import PriceBoard.Json.Value

/-!
# Snapshots

One instant in UTC with the value of every feed at that instant. Feeds keep their order.
-/
namespace PriceBoard

structure Snapshot where
  /-- What a clock in UTC shows. -/
  wall : WallTime
  values : List (String × Float)

namespace Snapshot

def timestamp (snapshot : Snapshot) : DateTime := ⟨snapshot.wall, some Offset.utc⟩

/-- Moves the time to UTC; a time without an offset is taken as UTC. -/
def make (timestamp : DateTime) (values : List (String × Float)) : Except TimeError Snapshot :=
  timestamp.toUtc.map fun utc => ⟨utc.wall, values⟩

def ms (snapshot : Snapshot) : Int := snapshot.timestamp.epochMs

def value? (snapshot : Snapshot) (feed : String) : Option Float := snapshot.values.lookup feed

/-- What clients receive: the time and then the feeds, in one flat object. A feed named `timestamp`
takes the place of the time. -/
def wire (snapshot : Snapshot) : Json :=
  .object (membersOf (("timestamp", .string snapshot.timestamp.isoText) ::
    snapshot.values.map fun (feed, value) => (feed, .number value)))

end Snapshot
end PriceBoard
