import WireWrapper.Diagnostic

/-!
# Counting warnings

What cannot be read or written costs a warning, so the number of warnings on the way to a result is
part of every balance of what went in and what came out.

* `Event.isWarning`      an event that is kept as a warning;
* `Logged.warnings`      how many of them there are on the way to a result;
* `warnings_bind`        those of two steps add up.
-/

namespace WireWrapper

/-- whether the diagnostic that is kept of an event is a warning -/
def Event.isWarning (e : Event) : Bool := (Diagnostic.ofEvent e).level == .warn

theorem Event.isWarning_ofMessage (level : LogLevel) (target message : String)
    (values : List (String × Recorded)) :
    (Event.ofMessage level target message values).isWarning = (level == .warn) := rfl

namespace Logged
variable {α β : Type}

def warnings (x : Logged α) : Nat := x.events.countP Event.isWarning

theorem warnings_pure (a : α) : (pure a : Logged α).warnings = 0 := rfl

theorem warnings_bind (x : Logged α) (f : α → Logged β) :
    (x >>= f).warnings = x.warnings + (f x.value).warnings := List.countP_append

theorem warnings_log (e : Event) : (log e).warnings = if e.isWarning then 1 else 0 :=
  List.countP_singleton

theorem warnings_logWhen (condition : Bool) (e : Event) :
    (logWhen condition e).warnings = if condition && e.isWarning then 1 else 0 := by
  cases condition with
  | true => exact warnings_log e
  | false => rfl

end Logged
end WireWrapper
