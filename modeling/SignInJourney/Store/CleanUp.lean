import SignInJourney.Store.Basic

/-!
The clean-up task: it sweeps the store each time that its interval has passed. A task without an
interval never runs, and one that cannot finish a sweep runs no more.
-/

namespace SignInJourney

open Time

structure CleanUp where
  /-- Seconds from one sweep to the next. -/
  interval : Nat
  retention : Span
  store : Store
  running : Bool
  /-- Seconds since the start. -/
  elapsed : Nat

namespace CleanUp

def start (interval : Nat) (retention : Span) (store : Store) : CleanUp :=
  { interval := interval
    retention := retention
    store := store
    running := 0 < interval
    elapsed := 0 }

/-- A sweep is due once a whole number of intervals has passed. -/
def isDue (c : CleanUp) : Bool :=
  c.running && c.elapsed % c.interval == 0

def sweep (c : CleanUp) (now : Instant) : CleanUp :=
  let swept := c.store.sweep now c.retention
  { c with store := swept.2, running := swept.1.isSome }

/-- One more second, at the end of which the calendar shows `now`. -/
def tick (c : CleanUp) (now : Instant) : CleanUp :=
  let c := { c with elapsed := c.elapsed + 1 }
  if c.isDue then c.sweep now else c

/-- The number of records after each of some seconds, while the calendar stands still. -/
def counts (c : CleanUp) (now : Instant) : Nat → List Nat × CleanUp
  | 0 => ([], c)
  | n + 1 =>
    let c := c.tick now
    let (rest, last) := c.counts now n
    (c.store.size :: rest, last)

end CleanUp

end SignInJourney
