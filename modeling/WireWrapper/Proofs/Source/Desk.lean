import Mathlib.Logic.Function.Basic
import WireWrapper.Proofs.Source.Edits

/-!
# Sources on the side

While a source is written, others may be begun beside it: at the depth of any source that is there, or
empty.  They are written in turn with it and with each other, and put into it, or into one another,
at any time.  None of these moves asks what text a source has.  So a source that starts with some text
and one that starts without it go the same way, and at the end they differ in this text only.

* `Desk`, `Move`, `Desk.run`   a source and those on the side, and what may be done with them;
* `Source.after`               a source after moves that started with nothing on the side;
* `Source.Reachable`           a source that moves may lead to;
* `Source.Linked`              the bit for the start of a line says what the text says;
* `linked_of_reachable`        so it does in all sources that moves lead to;
* `Source.behind`, `after_behind`   a text in front, before the moves or after them;
* `append_after`               moves on the side, put into a source at the start of a line.
-/

namespace WireWrapper

/-- a source, at `none`, and those on the side of it -/
abbrev Desk := Option Nat → Source

/-- what may be done with the sources on a desk; to put one into another leaves an empty one behind -/
inductive Move where
  | edit (place : Option Nat) (e : Edit)
  | scratch (place : Option Nat) (side : Nat)
  | fresh (side : Nat)
  | append (place : Option Nat) (side : Nat)
deriving DecidableEq, Repr

namespace Desk

def ofSource (w : Source) : Desk
  | none => w
  | some _ => .empty

def move (d : Desk) : Move → Desk
  | .edit place e => Function.update d place ((d place).edit e)
  | .scratch place side => Function.update d (some side) (d place).scratch
  | .fresh side => Function.update d (some side) .empty
  | .append place side =>
    let rest := Function.update d (some side) .empty
    Function.update rest place ((rest place).append (d (some side)))

def run (d : Desk) (ms : List Move) : Desk := ms.foldl move d

theorem run_cons (d : Desk) (m : Move) (ms : List Move) : d.run (m :: ms) = (d.move m).run ms := rfl

end Desk

namespace Source

/-- a source after moves -/
def after (w : Source) (ms : List Move) : Source := (Desk.ofSource w).run ms none

def Reachable (w : Source) : Prop := ∃ ms place, (Desk.ofSource empty).run ms place = w

/-! ## the start of a line -/

def Linked (w : Source) : Prop :=
  w.atLineStart = true ↔ w.text = "" ∨ endsWithBreak w.text = true

theorem endsWithBreak_append_of_ne (s : String) {t : String} (ht : t ≠ "") :
    endsWithBreak (s ++ t) = endsWithBreak t := by
  have hlast : t.toList.getLast?.isSome := by
    rw [List.getLast?_isSome]
    exact mt String.toList_eq_nil_iff.mp ht
  rw [endsWithBreak, String.toList_append, List.getLast?_append, Option.or_of_isSome hlast,
    endsWithBreak]

theorem append_ne_empty (s : String) {t : String} (ht : t ≠ "") : s ++ t ≠ "" := by
  intro h
  exact ht (String.append_eq_empty_iff.mp h).2

theorem empty_linked : empty.Linked := iff_of_true rfl (.inl rfl)

theorem scratch_linked (w : Source) : w.scratch.Linked := iff_of_true rfl (.inl rfl)

theorem newline_linked (w : Source) : w.newline.Linked :=
  iff_of_true rfl (.inr (endsWithBreak_append w.text (by decide)))

theorem typeChar_linked (w : Source) (c : Char) : (w.typeChar c).Linked := by
  rw [typeChar]
  split
  · exact newline_linked w
  · next hc =>
    have hne : String.ofList [c] ≠ "" := by simp [← String.toList_eq_nil_iff]
    have hopen : endsWithBreak (String.ofList [c]) = false := by simpa [endsWithBreak] using hc
    rw [push_of_ne w hne]
    apply iff_of_false Bool.false_ne_true
    rintro (hempty | hbreak)
    · exact append_ne_empty _ hne hempty
    · rw [endsWithBreak_append_of_ne _ hne, hopen] at hbreak
      cases hbreak

theorem append_linked {w : Source} (hw : w.Linked) (staged : Source) :
    (w.append staged).Linked := by
  by_cases hs : staged.text = ""
  · rw [append, if_pos (String.isEmpty_iff.mpr hs)]
    exact hw
  · rw [append, if_neg (mt String.isEmpty_iff.mp hs)]
    show endsWithBreak staged.text = true
      ↔ w.text ++ staged.text = "" ∨ endsWithBreak (w.text ++ staged.text) = true
    rw [endsWithBreak_append_of_ne _ hs]
    simp [append_ne_empty _ hs]

theorem foldl_linked {α : Type} {step : Source → α → Source} (hstep : ∀ w x, (step w x).Linked)
    (xs : List α) {w : Source} (hw : w.Linked) : (xs.foldl step w).Linked := by
  induction xs generalizing w with
  | nil => exact hw
  | cons x xs ih => exact ih (hstep w x)

theorem edit_linked {w : Source} (hw : w.Linked) (e : Edit) : (w.edit e).Linked := by
  cases e with
  | line s => exact newline_linked _
  | lines ss => exact foldl_linked (fun v s => newline_linked _) ss hw
  | newline => exact newline_linked w
  | write s =>
    show (w.write s).Linked
    rw [write_eq_foldl]
    exact foldl_linked typeChar_linked _ hw
  | indent => exact hw
  | dedent => exact hw

end Source

namespace Desk

theorem move_linked {d : Desk} (hd : ∀ place, (d place).Linked) (m : Move) (place : Option Nat) :
    (d.move m place).Linked := by
  have hupdate : ∀ {d : Desk}, (∀ place, (d place).Linked) → ∀ (p : Option Nat) {w : Source},
      w.Linked → ∀ place, (Function.update d p w place).Linked := by
    intro d hd p w hw place
    by_cases hp : place = p
    · rw [hp, Function.update_self]
      exact hw
    · rw [Function.update_of_ne hp]
      exact hd place
  cases m with
  | edit p e => exact hupdate hd p (Source.edit_linked (hd p) e) place
  | scratch p i => exact hupdate hd (some i) (Source.scratch_linked (d p)) place
  | fresh i => exact hupdate hd (some i) Source.empty_linked place
  | append p i =>
    have hrest := hupdate hd (some i) Source.empty_linked
    exact hupdate hrest p (Source.append_linked (hrest p) (d (some i))) place

theorem run_linked {d : Desk} (hd : ∀ place, (d place).Linked) (ms : List Move)
    (place : Option Nat) : (d.run ms place).Linked := by
  induction ms generalizing d with
  | nil => exact hd place
  | cons m ms ih => exact ih (move_linked hd m)

theorem ofSource_linked {w : Source} (hw : w.Linked) (place : Option Nat) :
    (ofSource w place).Linked := by
  cases place with
  | none => exact hw
  | some i => exact Source.empty_linked

end Desk

/-- **The bit follows the text** in all sources that moves lead to. -/
theorem Source.linked_of_reachable {w : Source} (hw : w.Reachable) : w.Linked := by
  obtain ⟨ms, place, rfl⟩ := hw
  exact Desk.run_linked (Desk.ofSource_linked empty_linked) ms place

/-! ## a text in front -/

namespace Source

def behind (w : Source) (front : String) : Source := ⟨front ++ w.text, w.depth, w.atLineStart⟩

variable (w : Source) (front : String)

theorem push_behind (s : String) : (w.behind front).push s = (w.push s).behind front := by
  by_cases hs : s = ""
  · rw [hs, push_empty, push_empty]
  · rw [push_of_ne _ hs, push_of_ne _ hs]
    show Source.mk (front ++ w.text ++ (if w.atLineStart then padding w.depth else "") ++ s) _ _ = _
    rw [String.append_assoc, String.append_assoc, String.append_assoc]
    rfl

theorem newline_behind : (w.behind front).newline = w.newline.behind front := by
  simp [newline, behind, String.append_assoc]

theorem typeChar_behind (c : Char) :
    (w.behind front).typeChar c = (w.typeChar c).behind front := by
  rw [typeChar, typeChar, newline_behind, push_behind]
  split <;> rfl

theorem append_behind (staged : Source) :
    (w.behind front).append staged = (w.append staged).behind front := by
  rw [append, append]
  split
  · rfl
  · simp [behind, String.append_assoc]

theorem foldl_behind {α : Type} {step : Source → α → Source}
    (hstep : ∀ w x, step (w.behind front) x = (step w x).behind front) (xs : List α) :
    xs.foldl step (w.behind front) = (xs.foldl step w).behind front := by
  induction xs generalizing w with
  | nil => rfl
  | cons x xs ih => rw [List.foldl_cons, hstep, ih, List.foldl_cons]

theorem line_behind (s : String) : (w.behind front).line s = (w.line s).behind front := by
  rw [line, line, push_behind, newline_behind]

theorem edit_behind (e : Edit) : (w.behind front).edit e = (w.edit e).behind front := by
  cases e with
  | line s => exact line_behind w front s
  | lines ss => exact foldl_behind w front (fun v s => line_behind v front s) ss
  | newline => exact newline_behind w front
  | write s =>
    show (w.behind front).write s = (w.write s).behind front
    rw [write_eq_foldl, write_eq_foldl]
    exact foldl_behind w front (fun v c => typeChar_behind v front c) s.toList
  | indent => rfl
  | dedent => rfl

end Source

namespace Desk
variable (d : Desk) (front : String)

def behind : Desk := Function.update d none ((d none).behind front)

theorem behind_none : d.behind front none = (d none).behind front := Function.update_self ..

theorem behind_some (i : Nat) : d.behind front (some i) = d (some i) :=
  Function.update_of_ne (by simp) ..

theorem update_none_behind (w : Source) :
    Function.update (d.behind front) none (w.behind front)
      = behind (Function.update d none w) front := by
  rw [behind, behind, Function.update_idem, Function.update_idem, Function.update_self]

theorem update_some_behind (i : Nat) (w : Source) :
    Function.update (d.behind front) (some i) w = behind (Function.update d (some i) w) front := by
  have hne : (none : Option Nat) ≠ some i := by simp
  rw [behind, behind, Function.update_of_ne hne, Function.update_comm hne]

/-- no move asks for the text of the source, so it makes no difference when some is put in front -/
theorem move_behind (m : Move) : (d.behind front).move m = (d.move m).behind front := by
  cases m with
  | edit place e =>
    cases place with
    | none =>
      rw [move, behind_none, Source.edit_behind, update_none_behind, move]
    | some j => rw [move, behind_some, update_some_behind, move]
  | scratch place i =>
    have hscratch : (d.behind front place).scratch = (d place).scratch := by
      cases place with
      | none =>
        rw [behind_none]
        rfl
      | some j => rw [behind_some]
    rw [move, hscratch, update_some_behind, move]
  | fresh i => exact update_some_behind d front i .empty
  | append place i =>
    rw [move, move, behind_some, update_some_behind]
    cases place with
    | none => rw [behind_none, Source.append_behind, update_none_behind]
    | some j => rw [behind_some, update_some_behind]

theorem run_behind (ms : List Move) : (d.behind front).run ms = (d.run ms).behind front := by
  induction ms generalizing d with
  | nil => rfl
  | cons m ms ih => rw [run_cons, run_cons, move_behind, ih]

theorem ofSource_behind (w : Source) : ofSource (w.behind front) = (ofSource w).behind front := by
  funext place
  cases place with
  | none => rw [behind_none, ofSource, ofSource]
  | some i => rw [behind_some, ofSource, ofSource]

end Desk

namespace Source

theorem after_behind (w : Source) (front : String) (ms : List Move) :
    (w.behind front).after ms = (w.after ms).behind front := by
  rw [after, Desk.ofSource_behind, Desk.run_behind, Desk.behind_none, after]

theorem after_linked {w : Source} (hw : w.Linked) (ms : List Move) : (w.after ms).Linked :=
  Desk.run_linked (Desk.ofSource_linked hw) ms none

theorem scratch_behind {w : Source} (hstart : w.atLineStart = true) :
    w.scratch.behind w.text = w := by
  rw [behind, scratch, String.append_empty]
  obtain ⟨text, depth, start⟩ := w
  obtain rfl : start = true := hstart
  rfl

theorem append_eq_behind {w staged : Source} (hstart : w.atLineStart = true)
    (hstaged : staged.Linked) :
    w.append staged = { staged.behind w.text with depth := w.depth } := by
  by_cases hs : staged.text = ""
  · have hbit : staged.atLineStart = true := hstaged.mpr (.inl hs)
    rw [append, if_pos (String.isEmpty_iff.mpr hs), behind, hs, String.append_empty, hbit]
    obtain ⟨text, depth, start⟩ := w
    obtain rfl : start = true := hstart
    rfl
  · have hbit : staged.atLineStart = endsWithBreak staged.text := by
      rw [Bool.eq_iff_iff]
      exact hstaged.trans (or_iff_right hs)
    rw [append, if_neg (mt String.isEmpty_iff.mp hs), behind, hbit]

/-- **Moves on the side**, put into a source at the start of a line, are these moves on the source,
except that its depth is kept. -/
theorem append_after {w : Source} (hstart : w.atLineStart = true) (ms : List Move) :
    w.append (w.scratch.after ms) = { w.after ms with depth := w.depth } := by
  rw [append_eq_behind hstart (after_linked (scratch_linked w) ms), ← after_behind,
    scratch_behind hstart]

end Source
end WireWrapper
