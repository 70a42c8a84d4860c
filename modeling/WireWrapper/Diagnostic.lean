import WireWrapper.LogLevel
import WireWrapper.Text.Quoted

/-!
# Events and diagnostics

* `Event`              something worth logging: a level, the part of the program it comes from, and
                       named values in the order recorded, the message among them; some of the
                       names it declares may be left without a value;
* `Diagnostic`         an event as it is kept, with the message apart from the other values as text;
* `Diagnostic.ofEvent` the one from the other;
* `Logged`             a result together with the events on the way to it.
-/

namespace WireWrapper

/-- A value that goes with an event. -/
inductive Recorded where
  /-- A text, shown as it is. -/
  | text (value : String)
  /-- A text, shown in quotes with its special characters escaped. -/
  | quoted (value : String)
  | integer (value : Int)
  | flag (value : Bool)
deriving DecidableEq, Repr

def Recorded.display : Recorded → String
  | text s => s
  | quoted s => String.ofList (Text.quote s.toList)
  | integer n => toString n
  | flag b => if b then "true" else "false"

/-- Something worth logging. -/
structure Event where
  level : LogLevel
  target : String
  /-- The names under which it may hold values. -/
  declared : List String
  values : List (String × Recorded)
deriving DecidableEq, Repr

/-- The name under which an event holds its message. -/
def messageName : String := "message"

/-- An event with a message and other values. -/
def Event.ofMessage (level : LogLevel) (target message : String)
    (values : List (String × Recorded)) : Event :=
  ⟨level, target, messageName :: values.map (·.1), (messageName, .text message) :: values⟩

/-- An event as it is kept. -/
structure Diagnostic where
  level : LogLevel
  target : String
  message : String
  /-- The values apart from the message, in the order recorded. -/
  fields : List (String × String)
deriving DecidableEq, Repr

namespace Diagnostic

/-- The message among the values of an event, empty if there is none. -/
def messageIn (values : List (String × Recorded)) : String :=
  match (values.filter (·.1 == messageName)).getLast? with
  | some (_, value) => value.display
  | none => ""

/-- The other values of an event as text. -/
def fieldsIn (values : List (String × Recorded)) : List (String × String) :=
  (values.filter (·.1 != messageName)).map fun (name, value) => (name, value.display)

def ofEvent (e : Event) : Diagnostic :=
  ⟨e.level, e.target, messageIn e.values, fieldsIn e.values⟩

def field? (d : Diagnostic) (name : String) : Option String :=
  (d.fields.find? (·.1 == name)).map (·.2)

end Diagnostic

/-- A result and the events on the way to it. -/
structure Logged (α : Type) where
  value : α
  events : List Event
deriving Repr

namespace Logged

variable {α β : Type}

instance : Monad Logged where
  pure a := ⟨a, []⟩
  bind x f := ⟨(f x.value).value, x.events ++ (f x.value).events⟩

instance : LawfulMonad Logged := LawfulMonad.mk' Logged
  (fun x => congrArg (Logged.mk x.value) (List.append_nil x.events))
  (fun a f => congrArg (Logged.mk (f a).value) (List.nil_append (f a).events))
  (fun x f g => congrArg (Logged.mk (g (f x.value).value).value)
    (List.append_assoc x.events (f x.value).events (g (f x.value).value).events))

def log (e : Event) : Logged Unit := ⟨(), [e]⟩

def logAll (es : List Event) : Logged Unit := ⟨(), es⟩

def logWhen (condition : Bool) (e : Event) : Logged Unit := ⟨(), if condition then [e] else []⟩

@[simp] theorem value_pure (a : α) : (pure a : Logged α).value = a := rfl

@[simp] theorem events_pure (a : α) : (pure a : Logged α).events = [] := rfl

@[simp] theorem value_bind (x : Logged α) (f : α → Logged β) :
    (x >>= f).value = (f x.value).value := rfl

@[simp] theorem events_bind (x : Logged α) (f : α → Logged β) :
    (x >>= f).events = x.events ++ (f x.value).events := rfl

@[simp] theorem events_log (e : Event) : (log e).events = [e] := rfl

@[simp] theorem events_logAll (es : List Event) : (logAll es).events = es := rfl

end Logged
end WireWrapper
