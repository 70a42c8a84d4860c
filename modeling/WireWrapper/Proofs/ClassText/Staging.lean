import WireWrapper.Proofs.ClassText.Members
import WireWrapper.Proofs.Source.Desk
import WireWrapper.Proofs.Source.TextLines

/-!
# Accessors are staged

An accessor is written on the side first.  When it is complete, the class goes on as if it had been
written in place; when a step of it fails, whatever was written before that step is given up, and the
class has one comment line more.

* `attempt`         moves in turn, up to the first that fails;
* `line_unbroken`   a line without breaks is one line more;
* `staging_exact`   the class after an attempt on the side.
-/

namespace WireWrapper

section
variable {ε : Type}

def Desk.tryMove (d : Desk) : Except ε Move → Except ε Desk
  | .ok m => .ok (d.move m)
  | .error failure => .error failure

/-- moves in turn, up to the first that fails -/
def attempt (steps : List (Except ε Move)) (w : Source) : Except ε Source :=
  (steps.foldlM Desk.tryMove (Desk.ofSource w)).map (· none)

theorem foldlM_tryMove (d : Desk) (ms : List Move) (steps : List (Except ε Move)) :
    (ms.map Except.ok ++ steps).foldlM Desk.tryMove d = steps.foldlM Desk.tryMove (d.run ms) := by
  induction ms generalizing d with
  | nil => rfl
  | cons m ms ih => exact ih (d.move m)

theorem attempt_ok (ms : List Move) (w : Source) :
    attempt (ms.map (Except.ok (ε := ε))) w = .ok (w.after ms) := by
  rw [attempt, ← List.append_nil (ms.map _), foldlM_tryMove]
  rfl

theorem attempt_error (ms : List Move) (failure : ε) (rest : List (Except ε Move)) (w : Source) :
    attempt (ms.map Except.ok ++ .error failure :: rest) w = .error failure := by
  rw [attempt, foldlM_tryMove]
  rfl

end

section
variable (m : MessageType) (field : FieldDescriptor) (kind : String) {w : Source}
  {render : Source → Except FieldFailure Source}

theorem stageAccessor_complete {staged : Source} (hr : render w.scratch = .ok staged) :
    ClassWriter.stageAccessor m field kind render w = ⟨w.append staged, []⟩ := by
  rw [ClassWriter.stageAccessor, Source.stage, hr]
  rfl

theorem stageAccessor_given_up {failure : FieldFailure} (hr : render w.scratch = .error failure) :
    (ClassWriter.stageAccessor m field kind render w).value = w.line (stubComment kind field) := by
  rw [ClassWriter.stageAccessor, Source.stage, hr]
  rfl

end

theorem stubComment_ne_empty (kind : String) (field : FieldDescriptor) :
    stubComment kind field ≠ "" := by
  unfold stubComment
  intro h
  simp only [String.append_eq_empty_iff, and_assoc] at h
  have hempty : "// Cannot generate " = "" := h.1
  exact absurd hempty (by decide)

theorem line_unbroken {w : Source} (hline : w.text = "" ∨ Source.endsWithBreak w.text = true)
    {s : String} (hs : Unbroken s) (hne : s ≠ "") :
    sourceLines (w.text ++ lineText w.depth s)
      = sourceLines w.text ++ [Source.padding w.depth ++ s] := by
  have hown := sourceLines_lineText w.depth hs hne
  rcases hline with hempty | hbreak
  · rw [hempty, String.empty_append, hown]
    rfl
  · rw [sourceLines_append hbreak, hown]

/-- **Staging is exact.**  Into a source at the start of a line, moves on the side are put as if they
had been made in place, provided that they come back to its depth; and if they fail, be it after part
of the text, the source has one line more and nothing else. -/
theorem staging_exact {w : Source} (hw : w.Reachable)
    (hline : w.text = "" ∨ Source.endsWithBreak w.text = true) (ms : List Move) :
    (w.append (w.scratch.after ms) = w.after ms ↔ (w.after ms).depth = w.depth) ∧
    ∀ (m : MessageType) (field : FieldDescriptor) (kind : String),
      ((w.after ms).depth = w.depth →
        ClassWriter.stageAccessor m field kind (attempt (ms.map .ok)) w = ⟨w.after ms, []⟩) ∧
      ∀ (failure : FieldFailure) (rest : List (Except FieldFailure Move)),
        let staged := ClassWriter.stageAccessor m field kind
          (attempt (ms.map .ok ++ .error failure :: rest)) w
        staged.value = ⟨w.text ++ lineText w.depth (stubComment kind field), w.depth, true⟩ ∧
          (Unbroken (stubComment kind field) → sourceLines staged.value.text
            = sourceLines w.text ++ [Source.padding w.depth ++ stubComment kind field]) := by
  have hstart : w.atLineStart = true := (Source.linked_of_reachable hw).mpr hline
  have happend : w.append (w.scratch.after ms) = { w.after ms with depth := w.depth } :=
    Source.append_after hstart ms
  have hwhole : w.append (w.scratch.after ms) = w.after ms ↔ (w.after ms).depth = w.depth := by
    rw [happend]
    constructor
    · intro h
      rw [← h]
    · intro h
      rw [← h]
  refine ⟨hwhole, fun m field kind => ⟨?_, ?_⟩⟩
  · intro hdepth
    rw [stageAccessor_complete m field kind (attempt_ok ms w.scratch), hwhole.mpr hdepth]
  · intro failure rest staged
    have hvalue : staged.value
        = ⟨w.text ++ lineText w.depth (stubComment kind field), w.depth, true⟩ := by
      have hsource : w = Source.atLine w.text w.depth := by rw [Source.atLine, ← hstart]
      have hstub : staged.value = w.line (stubComment kind field) :=
        stageAccessor_given_up m field kind (attempt_error ms failure rest w.scratch)
      rw [hsource, Source.line_atLine] at hstub
      exact hstub
    refine ⟨hvalue, fun hs => ?_⟩
    rw [hvalue]
    exact line_unbroken hline hs (stubComment_ne_empty kind field)

def openClass : Source := ⟨"class A \x7b\n", 1, true⟩

/-- a method whose body is written on the side, and the tail of its last line on the side of that -/
def nestedMoves : List Move :=
  [.edit none (.line "int f() \x7b"), .edit none .indent, .scratch none 0,
    .edit (some 0) (.line "g();"), .edit (some 0) (.write "return"), .edit (some 0) .dedent,
    .fresh 1, .edit (some 1) (.write " 1;\n"), .append (some 0) 1, .append none 0,
    .edit none .dedent, .edit none (.line "\x7d")]

theorem staging_exact_nested :
    openClass.Reachable ∧
      (openClass.text = "" ∨ Source.endsWithBreak openClass.text = true) ∧
      (openClass.after nestedMoves).depth = openClass.depth ∧
      openClass.append (openClass.scratch.after nestedMoves)
        = ⟨"class A \x7b\n    int f() \x7b\n        g();\n        return 1;\n    \x7d\n", 1, true⟩ := by
  have hreachable : openClass.Reachable :=
    ⟨[.edit none (.line "class A \x7b"), .edit none .indent], none, by decide⟩
  have hline : openClass.text = "" ∨ Source.endsWithBreak openClass.text = true := by decide
  have hdepth : (openClass.after nestedMoves).depth = openClass.depth := by decide
  refine ⟨hreachable, hline, hdepth, ?_⟩
  rw [(staging_exact hreachable hline nestedMoves).1.mpr hdepth]
  decide

end WireWrapper
