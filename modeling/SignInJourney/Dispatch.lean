/-!
Dispatch of events and queries through queues of bounded capacity. Whoever sends never waits: what
finds its queue full is dropped.
-/

namespace SignInJourney

structure Queue (α : Type) where
  capacity : Nat
  /-- What waits to be delivered, in the order in which it was sent. -/
  waiting : List α
  deriving DecidableEq, Repr

namespace Queue

variable {α : Type}

/-- The greatest capacity that a queue can have. -/
def maxCapacity : Nat := Nat.pow 2 61 - 1

/-- An empty queue, if there can be one of this capacity. -/
def ofCapacity? (capacity : UInt64) : Option (Queue α) :=
  if 0 < capacity.toNat ∧ capacity.toNat ≤ maxCapacity then
    some { capacity := capacity.toNat, waiting := [] }
  else none

/-- Sends one item. -/
def send (q : Queue α) (a : α) : Queue α :=
  if q.waiting.length < q.capacity then { q with waiting := q.waiting ++ [a] } else q

def sendAll (q : Queue α) (items : List α) : Queue α :=
  items.foldl send q

/-- The queue once everything in it has been delivered. -/
def drained (q : Queue α) : Queue α :=
  { q with waiting := [] }

/-- What is delivered of some bursts, each sent whole before the queue is drained. -/
def delivered (q : Queue α) : List (List α) → List α
  | [] => []
  | burst :: rest => (q.sendAll burst).waiting ++ delivered (q.sendAll burst).drained rest

end Queue

end SignInJourney
