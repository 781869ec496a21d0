import PriceBoard.Json.Writer
import PriceBoard.Snapshot.Basic

/-!
# Live messages

What subscribers of the live channel receive: the name of an event and the snapshot it is about.
-/
namespace PriceBoard

/-- The event of a new snapshot. -/
def newData : String := "newData"

def eventNames : List String := [newData]

namespace Snapshot

def messageJson (event : String) (snapshot : Snapshot) : Json :=
  .object [("event", .string event), ("data", snapshot.wire)]

def message (event : String) (snapshot : Snapshot) : String := (snapshot.messageJson event).text

end Snapshot
end PriceBoard
