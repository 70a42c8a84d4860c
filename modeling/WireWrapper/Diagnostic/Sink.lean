import WireWrapper.Diagnostic
import WireWrapper.Text.Replace

/-!
# Keeping diagnostics

* `Sink`             the diagnostics kept, and how many had to go; with a capacity only the newest stay;
* `Sink.record`      keeps one more;
* `Sink.take`        gives what is kept and starts anew;
* `Capture`          a sink behind a least level;
* `Capture.receive`  keeps an event if it is urgent enough.
-/

namespace WireWrapper

/-- Diagnostics in the order recorded. -/
structure Sink where
  /-- How many are kept at most; `none` for any number. -/
  capacity : Option Nat
  entries : List Diagnostic
  /-- How many older ones had to go. -/
  dropped : Nat
deriving DecidableEq, Repr

namespace Sink

def ofCapacity (capacity : Option Nat) : Sink := ⟨capacity, [], 0⟩

/-- The capacity of the sink of a whole program. -/
def stockCapacity : Nat := 10000

/-- How many of `n` entries are too many. -/
def excess (s : Sink) (n : Nat) : Nat :=
  match s.capacity with
  | some capacity => n - capacity
  | none => 0

/-- Keeps one more diagnostic; the oldest go if there are too many. -/
def record (s : Sink) (d : Diagnostic) : Sink :=
  let n := s.excess (s.entries.length + 1)
  ⟨s.capacity, (s.entries ++ [d]).drop n, s.dropped + n⟩

/-- What is kept, and the sink without it. -/
def take (s : Sink) : List Diagnostic × Sink := (s.entries, ofCapacity s.capacity)

def countAtLeast (s : Sink) (level : LogLevel) : Nat :=
  s.entries.countP fun d => d.level.atLeast level

/-- The entries whose message contains a text. -/
def matching (s : Sink) (needle : String) : List Diagnostic :=
  s.entries.filter fun d => Text.occursIn needle.toList d.message.toList

end Sink

/-- A sink that takes in events from a least level on. -/
structure Capture where
  threshold : LogLevel
  sink : Sink
deriving DecidableEq, Repr

namespace Capture

def receive (c : Capture) (e : Event) : Capture :=
  if e.level.atLeast c.threshold then ⟨c.threshold, c.sink.record (.ofEvent e)⟩ else c

def receiveAll (c : Capture) (es : List Event) : Capture := es.foldl receive c

/-- The diagnostics that are kept of some events when there is room for all. -/
def diagnostics (threshold : LogLevel) (es : List Event) : List Diagnostic :=
  (receiveAll ⟨threshold, .ofCapacity none⟩ es).sink.entries

end Capture
end WireWrapper
