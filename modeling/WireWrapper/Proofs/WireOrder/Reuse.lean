import WireWrapper.WireOrder

/-!
# One scanner for many methods

A scanner keeps the state of its selector from one method to the next: a stream may end behind a line
marker, and a failure breaks off in the middle of a line, or before the stream was looked at.  None of
this reaches the next method if the selector forgets: then every stream starts from one state, and a
method gives what it gives a new scanner.

* `Selector.Forgets`       at the start of a stream all states are one;
* `Scanner.scanOnce`       result and log of a method;
* `Scanner.scanMethods`    those of methods in turn, with one scanner;
* `scanMethod_setup`       a method changes nothing of a scanner but its state;
* `scanOnce_state`         and this state does not matter to the next method;
* `scanMethods_eq_map`     so methods in turn give what each of them gives alone;
* `reused_scanner`         the usual scanner, for every row of methods.
-/

namespace WireWrapper

/-- at the start of a stream the selector does not tell one state from another -/
def Selector.Forgets {σ : Type} (selector : Selector σ) : Prop :=
  ∀ a b : σ, selector.reset a = selector.reset b

theorem firstReadPerLine_forgets : firstReadPerLine.Forgets := fun _ _ => rfl

namespace Scanner
variable {σ : Type}

/-- result and log of a method -/
def scanOnce (s : Scanner σ) (m : MethodBody) : Logged (Except ScanFailure ScanResult) :=
  ⟨(s.scanMethod m).value.1, (s.scanMethod m).events⟩

/-- result and log of methods in turn, each scanned by what the one before has left -/
def scanMethods (s : Scanner σ) : List MethodBody → List (Logged (Except ScanFailure ScanResult))
  | [] => []
  | m :: ms => s.scanOnce m :: (s.scanMethod m).value.2.scanMethods ms

/-- a stream changes nothing of a scanner but its state -/
theorem scan_setup (s : Scanner σ) (is : List Instruction) (type : String) :
    ∃ state, (s.scan is type).value.2 = { s with state } := by
  unfold scan
  by_cases hknown : s.hierarchy.contains type = true
  · rw [if_pos hknown]
    refine ⟨(walk s.hierarchy s.selector s.accepts (s.hierarchy.memoryOrder type) type
      (s.selector.reset s.state) is).value.2, ?_⟩
    simp only [Logged.value_bind]
    rcases (walk s.hierarchy s.selector s.accepts (s.hierarchy.memoryOrder type) type
      (s.selector.reset s.state) is).value with ⟨_ | fields, state⟩ <;> rfl
  · rw [if_neg hknown]
    exact ⟨s.state, rfl⟩

theorem scanMethod_setup (s : Scanner σ) (m : MethodBody) :
    ∃ state, (s.scanMethod m).value.2 = { s with state } := s.scan_setup m.instructions m.declaringType

section
variable {s : Scanner σ} (hforgets : s.selector.Forgets) (state : σ)
include hforgets

theorem scan_state (is : List Instruction) (type : String) :
    ({ s with state }.scan is type).value.1 = (s.scan is type).value.1 ∧
      ({ s with state }.scan is type).events = (s.scan is type).events := by
  by_cases hknown : s.hierarchy.contains type = true
  · have hsame : { s with state }.scan is type = s.scan is type := by
      unfold scan
      rw [if_pos hknown, if_pos hknown, hforgets state s.state]
    rw [hsame]
    exact ⟨rfl, rfl⟩
  · unfold scan
    rw [if_neg hknown, if_neg hknown]
    exact ⟨rfl, rfl⟩

/-- **What a method gives does not depend on the state that an earlier one has left.** -/
theorem scanOnce_state (m : MethodBody) : { s with state }.scanOnce m = s.scanOnce m := by
  obtain ⟨hvalue, hevents⟩ := scan_state hforgets state m.instructions m.declaringType
  obtain ⟨left, hleft⟩ := s.scan_setup m.instructions m.declaringType
  obtain ⟨left', hleft'⟩ := { s with state }.scan_setup m.instructions m.declaringType
  unfold scanOnce scanMethod
  simp only [Logged.value_bind, Logged.events_bind, Logged.value_pure, Logged.events_pure, hvalue,
    hevents, hleft, hleft']

/-- **Methods in turn give what each of them gives alone.**  Induction on the methods with the state
free: the first of them leaves some state, and that is all it leaves. -/
theorem scanMethods_eq_map (ms : List MethodBody) :
    { s with state }.scanMethods ms = ms.map s.scanOnce := by
  induction ms generalizing state with
  | nil => rfl
  | cons m ms ih =>
    obtain ⟨left, hleft⟩ := { s with state }.scanMethod_setup m
    rw [scanMethods, List.map_cons, scanOnce_state hforgets, hleft]
    exact congrArg (s.scanOnce m :: ·) (ih left)

end

end Scanner

/-- **One scanner for many methods is a new one for each of them**: whatever it has scanned before,
and whether that went well or failed, each method of a row has the result and the log that a new
scanner gives for this method alone. -/
theorem reused_scanner (h : Hierarchy) (accepts : FieldDescriptor → Bool) (bit : Bool)
    (ms : List MethodBody) (i : Nat) :
    ((Scanner.mk h firstReadPerLine accepts bit).scanMethods ms)[i]?
      = ms[i]?.map (Scanner.mk h firstReadPerLine accepts firstReadPerLine.initial).scanOnce := by
  have hmap := Scanner.scanMethods_eq_map
    (s := Scanner.mk h firstReadPerLine accepts firstReadPerLine.initial) firstReadPerLine_forgets
    bit ms
  rw [← List.getElem?_map, ← hmap]

end WireWrapper
