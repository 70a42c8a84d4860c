import WireWrapper.Failure
import WireWrapper.Message

/-!
# The registry of known messages

* `Registry`            the known messages by key;
* `Registry.insert`     one more message under its own key;
* `Registry.register`   adds a message whose key is free;
* `Registry.resolve?`   the message with a key;
* `Registry.messages`   all messages in key order.
-/

namespace WireWrapper

/-- The known messages, each under its key. -/
structure Registry where
  byKey : KeyMap MessageType
  keyed : ∀ (key : MessageKey) (m : MessageType), byKey[key]? = some m → m.key = key

namespace Registry

def empty : Registry where
  byKey := ∅
  keyed := by
    intro key m h
    rw [Std.ExtTreeMap.getElem?_empty] at h
    cases h

def resolve? (r : Registry) (key : MessageKey) : Option MessageType := r.byKey[key]?

/-- A message that is found by a key has this key. -/
theorem resolve?_key {r : Registry} {key : MessageKey} {m : MessageType}
    (h : r.resolve? key = some m) : m.key = key := r.keyed key m h

/-- One more message under its own key. -/
def insert (r : Registry) (m : MessageType) : Registry where
  byKey := r.byKey.insert m.key m
  keyed := by
    intro key found h
    rw [KeyMap.getElem?_insert] at h
    split at h
    · next hkey => rw [← Option.some.inj h, hkey]
    · exact r.keyed key found h

/-- What is said of a key that two messages claim. -/
def claimText (existing added : MessageType) : String :=
  added.key.display ++ " (" ++ existing.name ++ " and " ++ added.name ++ ")"

/-- Adds a message.  A key belongs to the message that was registered first. -/
def register (r : Registry) (m : MessageType) : Except RegistryFailure Registry :=
  match r.resolve? m.key with
  | some existing => .error (.duplicateKey (claimText existing m))
  | none => .ok (r.insert m)

/-- Adds messages in turn, up to the first that cannot be added. -/
def registerAll (r : Registry) (ms : List MessageType) : Except RegistryFailure Registry :=
  ms.foldlM register r

/-- All messages in key order. -/
def messages (r : Registry) : List MessageType := r.byKey.toList.map (·.2)

def size (r : Registry) : Nat := r.byKey.size

end Registry
end WireWrapper
