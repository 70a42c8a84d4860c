import WireWrapper.Text.Blank
import WireWrapper.Text.Case

/-!
# Log levels

* `LogLevel`          five levels of urgency, and `off` above all of them;
* `LogLevel.rank`     the order of the levels;
* `LogLevel.parse?`   a level by name, in any case, with blanks around it.
-/

namespace WireWrapper

/-- How urgent an event is; as a threshold, `off` lets nothing pass. -/
inductive LogLevel where
  | trace
  | debug
  | info
  | warn
  | error
  | off
deriving DecidableEq, Repr

namespace LogLevel

/-- The place of a level, the least urgent first. -/
def rank : LogLevel → Nat
  | trace => 0
  | debug => 1
  | info => 2
  | warn => 3
  | error => 4
  | off => 5

def display : LogLevel → String
  | trace => "TRACE"
  | debug => "DEBUG"
  | info => "INFO"
  | warn => "WARN"
  | error => "ERROR"
  | off => "OFF"

def word : LogLevel → String
  | trace => "trace"
  | debug => "debug"
  | info => "info"
  | warn => "warn"
  | error => "error"
  | off => "off"

def ofWord? : String → Option LogLevel
  | "trace" => some trace
  | "debug" => some debug
  | "info" => some info
  | "warn" => some warn
  | "warning" => some warn
  | "error" => some error
  | "off" => some off
  | _ => none

def parse? (name : String) : Option LogLevel :=
  ofWord? (String.ofList (Text.lowerAscii (Text.trim name.toList)))

/-- Whether an event of this level passes a threshold. -/
def atLeast (level threshold : LogLevel) : Bool := threshold.rank ≤ level.rank

example : parse? " Warning\n" = some warn ∧ parse? "verbose" = none := by decide

end LogLevel
end WireWrapper
