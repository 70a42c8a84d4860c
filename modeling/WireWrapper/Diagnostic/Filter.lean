import WireWrapper.Diagnostic.Directive
import WireWrapper.Diagnostic.Sink

/-!
# Which events a program lets through

A setting is a list of directives with commas in between.

* `Filter.parse?`        the directives of a setting; one malformed directive spoils all;
* `Filter.threshold?`    the least level that passes for an event;
* `Filter.ofSetting`     the directives of a setting if they are well formed, else a single level;
* `Filter.capture`       what a sink for warnings keeps of the events that pass.
-/

namespace WireWrapper

/-- Directives in the order given. -/
abbrev Filter := List Directive

namespace Filter

def parse? (setting : String) : Option Filter :=
  ((Text.pieces (· == ',') setting.toList).filter (!·.isEmpty)).mapM Directive.parse?

/-- The narrower one of two directives, the second one if neither is. -/
def narrower (best : Option Directive) (d : Directive) : Option Directive :=
  match best with
  | some b => if d.isWider b then some b else some d
  | none => some d

/-- The least level that passes for an event, if any directive is for it. -/
def threshold? (f : Filter) (e : Event) : Option LogLevel :=
  ((f.filter (·.covers e)).foldl narrower none).map (·.level)

def passes (f : Filter) (e : Event) : Bool :=
  match f.threshold? e with
  | some level => e.level.atLeast level
  | none => false

/-- The directives of a setting if it is well formed, else one level for all. -/
def ofSetting (setting : Option String) (level : LogLevel) : Filter :=
  (setting.bind parse?).getD [.ofLevel level]

/-- The sink of a whole program after some events: it keeps the warnings and errors that pass. -/
def capture (f : Filter) (es : List Event) : Sink :=
  (Capture.receiveAll ⟨.warn, .ofCapacity (some Sink.stockCapacity)⟩ (es.filter f.passes)).sink

example : (parse? "").isSome ∧ (parse? "warn, ").isNone := by decide

end Filter
end WireWrapper
