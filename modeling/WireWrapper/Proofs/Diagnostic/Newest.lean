import Mathlib.Data.List.DropRight
import WireWrapper.Diagnostic.Sink

/-!
# A capture keeps the newest diagnostics

A sink is changed by one call after the other: an event is fired, or all is taken out.  What it holds
then is not a matter of the order in which old entries had to go.  It is a function of the diagnostics
that were worth keeping since the last take: the newest of them, as many as there is room for, and
the number of the others.

* `Sink.newest`              the last entries, as many as there is room for;
* `Sink.ofHistory`           the sink that has kept these of some diagnostics;
* `record_ofHistory`         one more diagnostic is one more in the history;
* `CaptureCall`              an event, or a take;
* `Capture.after`, `Capture.answers`   what calls in turn make of a capture, and what they give back;
* `Capture.pending`          the diagnostics worth keeping since the last take;
* `after_start`              after any calls the sink is that of its pending diagnostics;
* `Diagnostic.visit`         one value of an event, put where it belongs;
* `after_keeps_newest`       all of this, for every run of calls.
-/

namespace WireWrapper

/-! ## histories -/

namespace Sink

/-- the last entries, as many as there is room for -/
def newest (capacity : Option Nat) (ds : List Diagnostic) : List Diagnostic :=
  match capacity with
  | none => ds
  | some room => ds.rtake room

/-- the sink that has kept the newest of some diagnostics, and let the others go -/
def ofHistory (capacity : Option Nat) (ds : List Diagnostic) : Sink :=
  ⟨capacity, newest capacity ds, ds.length - (newest capacity ds).length⟩

theorem length_newest (capacity : Option Nat) (ds : List Diagnostic) :
    (newest capacity ds).length = capacity.elim ds.length (min ds.length) := by
  cases capacity with
  | none => rfl
  | some room =>
    show (ds.drop (ds.length - room)).length = min ds.length room
    rw [List.length_drop]
    omega

theorem ofHistory_nil (capacity : Option Nat) : ofHistory capacity [] = ofCapacity capacity := by
  cases capacity with
  | none => rfl
  | some room =>
    show (⟨some room, List.rtake [] room, 0 - _⟩ : Sink) = _
    rw [List.rtake_nil, Nat.zero_sub]
    rfl

/-- **One more diagnostic is one more in the history**: the oldest entry goes if all room is taken, and
with no room at all the new one goes itself. -/
theorem record_ofHistory (capacity : Option Nat) (ds : List Diagnostic) (d : Diagnostic) :
    (ofHistory capacity ds).record d = ofHistory capacity (ds ++ [d]) := by
  cases capacity with
  | none =>
    show (⟨none, ds ++ [d], ds.length - ds.length + 0⟩ : Sink)
      = ⟨none, ds ++ [d], (ds ++ [d]).length - (ds ++ [d]).length⟩
    rw [Nat.sub_self, Nat.sub_self]
  | some room =>
    have hlength := length_newest (some room) ds
    have hlength' := length_newest (some room) (ds ++ [d])
    simp only [Option.elim_some, List.length_append, List.length_singleton] at hlength hlength'
    -- dropping twice is dropping once
    have hentries : (newest (some room) ds ++ [d]).drop (min ds.length room + 1 - room)
        = newest (some room) (ds ++ [d]) := by
      show (ds.drop (ds.length - room) ++ [d]).drop _
        = (ds ++ [d]).drop ((ds ++ [d]).length - room)
      rw [← List.drop_append_of_le_length (Nat.sub_le ds.length room), List.drop_drop,
        List.length_append, List.length_singleton]
      congr 1
      omega
    have hexcess : (ofHistory (some room) ds).excess ((newest (some room) ds).length + 1)
        = min ds.length room + 1 - room := by
      rw [hlength]
      rfl
    have hdropped : ds.length - (newest (some room) ds).length + (min ds.length room + 1 - room)
        = (ds ++ [d]).length - (newest (some room) (ds ++ [d])).length := by
      rw [hlength, hlength', List.length_append, List.length_singleton]
      omega
    unfold record
    show Sink.mk (some room)
      ((newest (some room) ds ++ [d]).drop
        ((ofHistory (some room) ds).excess ((newest (some room) ds).length + 1)))
      (ds.length - (newest (some room) ds).length
        + (ofHistory (some room) ds).excess ((newest (some room) ds).length + 1)) = _
    rw [hexcess, hentries, hdropped]
    rfl

end Sink

/-! ## calls -/

/-- what is done with a capture: an event is fired, or all is taken out of its sink -/
inductive CaptureCall where
  | fire (e : Event)
  | take
deriving DecidableEq, Repr

def CaptureCall.event? : CaptureCall → Option Event
  | fire e => some e
  | take => none

namespace Capture

def start (threshold : LogLevel) (capacity : Option Nat) : Capture :=
  ⟨threshold, .ofCapacity capacity⟩

/-- what a call gives back, and the capture behind it -/
def call (c : Capture) : CaptureCall → Option (List Diagnostic) × Capture
  | .fire e => (none, c.receive e)
  | .take => (some c.sink.take.1, ⟨c.threshold, c.sink.take.2⟩)

def after (c : Capture) (calls : List CaptureCall) : Capture :=
  calls.foldl (fun c call => (c.call call).2) c

/-- what calls in turn give back, one answer for each of them -/
def answers (c : Capture) : List CaptureCall → List (Option (List Diagnostic))
  | [] => []
  | call :: calls => (c.call call).1 :: (c.call call).2.answers calls

def sinceTake (calls : List CaptureCall) : List Event :=
  (calls.rtakeWhile fun call => call.event?.isSome).filterMap CaptureCall.event?

/-- the diagnostics worth keeping since the last take -/
def pending (threshold : LogLevel) (calls : List CaptureCall) : List Diagnostic :=
  ((sinceTake calls).filter (·.level.atLeast threshold)).map .ofEvent

theorem after_concat (c : Capture) (calls : List CaptureCall) (call : CaptureCall) :
    c.after (calls ++ [call]) = ((c.after calls).call call).2 := List.foldl_concat ..

/-- each call answers for the calls in front of it -/
theorem answers_getElem? (c : Capture) (calls : List CaptureCall) (i : Nat) :
    (c.answers calls)[i]? = calls[i]?.map fun call => ((c.after (calls.take i)).call call).1 := by
  induction calls generalizing c i with
  | nil => rfl
  | cons call calls ih =>
    cases i with
    | zero => rfl
    | succ i => exact ih (c.call call).2 i

section
variable (threshold : LogLevel) (capacity : Option Nat) (calls : List CaptureCall)

theorem pending_fire (e : Event) :
    pending threshold (calls ++ [.fire e])
      = pending threshold calls ++ if e.level.atLeast threshold then [.ofEvent e] else [] := by
  have hsince : sinceTake (calls ++ [.fire e]) = sinceTake calls ++ [e] := by
    unfold sinceTake
    rw [List.rtakeWhile_concat_pos _ _ _ rfl, List.filterMap_append]
    rfl
  unfold pending
  rw [hsince, List.filter_append, List.map_append]
  congr 1
  cases he : e.level.atLeast threshold <;> simp [he]

theorem pending_take : pending threshold (calls ++ [.take]) = [] := by
  have hsince : sinceTake (calls ++ [.take]) = [] := by
    unfold sinceTake
    rw [List.rtakeWhile_concat_neg _ _ _ Bool.false_ne_true]
    rfl
  rw [pending, hsince]
  rfl

/-- **After any calls the sink is that of its pending diagnostics.**  Induction from the end of the
run: a call sees nothing but the capture that the calls in front of it have left. -/
theorem after_start :
    (start threshold capacity).after calls
      = ⟨threshold, .ofHistory capacity (pending threshold calls)⟩ := by
  induction calls using List.reverseRecOn with
  | nil =>
    show start threshold capacity = ⟨threshold, .ofHistory capacity []⟩
    rw [Sink.ofHistory_nil]
    rfl
  | append_singleton calls call ih =>
    rw [after_concat, ih]
    cases call with
    | take =>
      rw [pending_take, Sink.ofHistory_nil]
      rfl
    | fire e =>
      rw [pending_fire]
      show receive _ e = _
      unfold receive
      by_cases he : e.level.atLeast threshold = true
      · rw [if_pos he, if_pos he, ← Sink.record_ofHistory]
      · rw [if_neg he, if_neg he, List.append_nil]

end

end Capture

/-! ## values of an event -/

namespace Diagnostic

/-- one value of an event, put where it belongs: a message takes the place of an earlier one, any
other value goes behind the fields recorded so far -/
def visit (d : Diagnostic) (value : String × Recorded) : Diagnostic :=
  if value.1 = messageName then { d with message := value.2.display }
  else { d with fields := d.fields ++ [(value.1, value.2.display)] }

/-- **An event is split value by value**, in the order recorded. -/
theorem ofEvent_eq_visits (e : Event) :
    ofEvent e = e.values.foldl visit ⟨e.level, e.target, "", []⟩ := by
  have hsplit : ∀ values : List (String × Recorded),
      values.foldl visit ⟨e.level, e.target, "", []⟩
        = ⟨e.level, e.target, messageIn values, fieldsIn values⟩ := by
    intro values
    induction values using List.reverseRecOn with
    | nil => rfl
    | append_singleton values value ih =>
      rw [List.foldl_concat, ih, visit, messageIn, messageIn, fieldsIn, fieldsIn,
        List.filter_append, List.filter_append, List.map_append]
      by_cases hname : value.1 = messageName
      · simp [hname]
      · simp [hname]
  exact (hsplit e.values).symm

end Diagnostic

/-! ## runs -/

/-- **A capture keeps the newest diagnostics.**  After any run of events and takes the sink holds, in
order, the last of the diagnostics that are urgent enough and came behind the last take, as many as
there is room for, and counts the others; a take gives back what is held and leaves the capture as it
was before any event. -/
theorem after_keeps_newest (threshold : LogLevel) (capacity : Option Nat)
    (calls : List CaptureCall) :
    ((Capture.start threshold capacity).after calls).sink.entries
        = Sink.newest capacity (Capture.pending threshold calls) ∧
      ((Capture.start threshold capacity).after calls).sink.entries.length
        = capacity.elim (Capture.pending threshold calls).length
            (min (Capture.pending threshold calls).length) ∧
      ((Capture.start threshold capacity).after calls).sink.dropped
        = (Capture.pending threshold calls).length
          - ((Capture.start threshold capacity).after calls).sink.entries.length ∧
      (∀ i, calls[i]? = some .take →
        ((Capture.start threshold capacity).answers calls)[i]?
            = some (some ((Capture.start threshold capacity).after (calls.take i)).sink.entries) ∧
          (Capture.start threshold capacity).after (calls.take (i + 1))
            = Capture.start threshold capacity) ∧
      ∀ e : Event,
        Diagnostic.ofEvent e = e.values.foldl Diagnostic.visit ⟨e.level, e.target, "", []⟩ := by
  rw [Capture.after_start]
  refine ⟨rfl, Sink.length_newest _ _, rfl, fun i hi => ⟨?_, ?_⟩, Diagnostic.ofEvent_eq_visits⟩
  · rw [Capture.answers_getElem?, hi]
    rfl
  · have hlast : calls.take (i + 1) = calls.take i ++ [.take] := by
      rw [List.take_add_one, hi]
      rfl
    rw [hlast, Capture.after_start, Capture.pending_take, Sink.ofHistory_nil]
    rfl

/-! ## a sink with room for one -/

/-- two warnings with a take behind them, then a message that is not urgent and one that is -/
def busyCalls : List CaptureCall :=
  [.fire (.ofMessage .warn "reader" "first" []), .fire (.ofMessage .error "reader" "second" []), .take,
    .fire (.ofMessage .info "reader" "third" []), .fire (.ofMessage .warn "reader" "fourth" [])]

/-- The take gives back the second warning, and the sink starts anew behind it. -/
theorem after_keeps_newest_busy :
    busyCalls[2]? = some .take ∧
    ((Capture.start .warn (some 1)).answers busyCalls)[2]?
      = some (some [⟨.error, "reader", "second", []⟩]) ∧
    (Capture.start .warn (some 1)).after (busyCalls.take 3) = Capture.start .warn (some 1) ∧
    ((Capture.start .warn (some 1)).after busyCalls).sink.entries
      = [⟨.warn, "reader", "fourth", []⟩] := by
  obtain ⟨hentries, -, -, htake, -⟩ := after_keeps_newest .warn (some 1) busyCalls
  have hanswer := htake 2 rfl
  exact ⟨rfl, hanswer.1.trans rfl, hanswer.2, hentries.trans (by decide)⟩

end WireWrapper
