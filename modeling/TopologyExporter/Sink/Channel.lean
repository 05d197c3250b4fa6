import TopologyExporter.Collector.Error
import TopologyExporter.Metric.Family

/-!
# The metrics channel

A queue of bounded length between the collectors, which send families, and the one that receives
them. Sending waits while the queue is full and fails once no one receives.

* `Channel.send` and `Channel.sendAll` add to the end;
* `Channel.receive` takes from the front;
* `Channel.close` ends receiving.
-/

namespace TopologyExporter

/-- A capacity that no channel can have. -/
inductive CapacityError
  | none
  | tooGreat
deriving Repr, DecidableEq, Inhabited

/-- The greatest capacity of a channel. -/
def maxCapacity : Nat := Nat.pow 2 61 - 1

/-- The text of the error. -/
def CapacityError.message : CapacityError → String
  | none => "mpsc bounded channel requires buffer > 0"
  | tooGreat =>
    "a semaphore may not have more than MAX_PERMITS permits (" ++ toString maxCapacity ++ ")"

/-- A channel: how many items can wait in it, those that do, and whether anyone receives them. -/
structure Channel (α : Type) where
  capacity : Nat
  waiting : List α
  isOpen : Bool
deriving Repr, DecidableEq, Inhabited

/-- How sending ended: the items were taken, there was no room for the next one, or no one
receives. -/
inductive Sending
  | done
  | blocked
  | closed
deriving Repr, DecidableEq, Inhabited

/-- The error of a collector that cannot send because no one receives. -/
def Sending.error? : Sending → Option CollectorError
  | closed => some .sinkClosed
  | _ => none

namespace Channel

variable {α : Type}

/-- A channel without items. -/
def make (capacity : Nat) : Except CapacityError (Channel α) :=
  if capacity = 0 then .error .none
  else if maxCapacity < capacity then .error .tooGreat
  else .ok ⟨capacity, [], true⟩

/-- Sends an item. -/
def send (c : Channel α) (item : α) : Sending × Channel α :=
  -- a full channel that no one receives from is closed, not full
  if !c.isOpen then (.closed, c)
  else if c.waiting.length < c.capacity then (.done, { c with waiting := c.waiting ++ [item] })
  else (.blocked, c)

/-- Sends items one after the other, up to the first that is not taken. -/
def sendAll (c : Channel α) : List α → Sending × Channel α
  | [] => (.done, c)
  | item :: rest =>
    match c.send item with
    | (.done, c) => c.sendAll rest
    | refused => refused

/-- Takes the item that has waited longest. -/
def receive (c : Channel α) : Option (α × Channel α) :=
  match c.waiting with
  | [] => none
  | item :: rest => some (item, { c with waiting := rest })

/-- Ends receiving; what waits is lost. -/
def close (c : Channel α) : Channel α := { c with waiting := [], isOpen := false }

end Channel

/-- A family with the name of the collector that sent it. -/
structure SinkItem where
  collector : String
  family : Family
deriving Repr, DecidableEq, Inhabited

/-- The families that a collector sent, in the order in which they were received. -/
def familiesOf (collector : String) (items : List SinkItem) : List Family :=
  (items.filter (·.collector = collector)).map SinkItem.family

/-- Sends families under the name of a collector, up to the first that is not taken. -/
def sendFamilies (collector : String) (families : List Family) (c : Channel SinkItem) :
    Sending × Channel SinkItem :=
  c.sendAll (families.map (SinkItem.mk collector))

end TopologyExporter
