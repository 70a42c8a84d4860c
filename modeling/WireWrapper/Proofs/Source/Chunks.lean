import WireWrapper.Proofs.Source.Desk

/-!
# Text in chunks

Formatted text arrives in chunks, and where they are cut is nobody's choice.  A cut may fall next to a
line break, or between the breaks of an empty line, or leave an empty chunk.  None of this can be told
from the source afterwards, since a text is written as its characters in turn.  Whether the next
character is indented is read off the bit for the start of a line; that it says what the text says
holds of all sources that moves lead to.

* `write_empty`, `write_write`   no chunk, and one more;
* `move_write_write`, `run_chunks`   the same on a desk, in the middle of other moves;
* `write_chunks`                 chunks, and the bit.
-/

namespace WireWrapper

namespace Source

theorem write_empty (w : Source) : w.write "" = w := by
  rw [write_eq_foldl]
  rfl

theorem write_write (w : Source) (s t : String) : (w.write s).write t = w.write (s ++ t) := by
  rw [write_eq_foldl, write_eq_foldl, write_eq_foldl, String.toList_append, List.foldl_append]

end Source

/-- a text in chunks, written in one place -/
def chunkMoves (place : Option Nat) (chunks : List String) : List Move :=
  chunks.map fun s => .edit place (.write s)

namespace Desk

theorem run_append (d : Desk) (ms ns : List Move) : d.run (ms ++ ns) = (d.run ms).run ns :=
  List.foldl_append

theorem move_write (d : Desk) (place : Option Nat) (s : String) :
    d.move (.edit place (.write s)) = Function.update d place ((d place).write s) := rfl

theorem move_write_write (d : Desk) (place : Option Nat) (s t : String) :
    (d.move (.edit place (.write s))).move (.edit place (.write t))
      = d.move (.edit place (.write (s ++ t))) := by
  rw [move_write, move_write, move_write, Function.update_idem, Function.update_self,
    Source.write_write]

theorem run_chunkMoves (d : Desk) (place : Option Nat) (chunks : List String) :
    d.run (chunkMoves place chunks) = d.move (.edit place (.write (String.join chunks))) := by
  -- the first two chunks are written as one, so the row gets shorter
  have hrow : ∀ (s : String) (d : Desk),
      (d.move (.edit place (.write s))).run (chunkMoves place chunks)
        = d.move (.edit place (.write (s ++ String.join chunks))) := by
    induction chunks with
    | nil =>
      intro s d
      rw [String.join_nil, String.append_empty]
      rfl
    | cons t chunks ih =>
      intro s d
      show ((d.move (.edit place (.write s))).move (.edit place (.write t))).run
        (chunkMoves place chunks) = _
      rw [move_write_write, ih, String.join_cons, String.append_assoc]
  have hnone : d.move (.edit place (.write "")) = d := by
    rw [move_write, Source.write_empty, Function.update_eq_self]
  have hrest := hrow "" d
  rwa [hnone, String.empty_append] at hrest

theorem run_chunks (d : Desk) (place : Option Nat) (chunks : List String)
    (before after : List Move) :
    d.run (before ++ chunkMoves place chunks ++ after)
      = d.run (before ++ .edit place (.write (String.join chunks)) :: after) := by
  rw [run_append, run_append, run_chunkMoves, run_append, run_cons]

end Desk

/-- **Where text is cut cannot be told.**  Two texts in turn are one text, in any source; chunks are
their whole text, in any place and among any other moves, on the side or not.  And in a source that
moves lead to, the bit for the start of a line is set exactly if the text is empty or ends with a
break. -/
theorem write_chunks :
    (∀ (w : Source) (s t : String), (w.write s).write t = w.write (s ++ t)) ∧
    (∀ (d : Desk) (place : Option Nat) (chunks : List String) (before after : List Move),
      d.run (before ++ chunkMoves place chunks ++ after)
        = d.run (before ++ .edit place (.write (String.join chunks)) :: after)) ∧
    ∀ w : Source, w.Reachable →
      (w.atLineStart = true ↔ w.text = "" ∨ Source.endsWithBreak w.text = true) :=
  ⟨Source.write_write, Desk.run_chunks, fun _ hw => Source.linked_of_reachable hw⟩

/-- chunks that are cut on both sides of a break, on the side of a method that is open -/
def cutMoves : List Move :=
  [.edit none (.line "int f() \x7b"), .edit none .indent, .scratch none 0]
    ++ chunkMoves (some 0) ["ret", "urn 1;", "", "\n", "\n", "// end"]
    ++ [.append none 0]

theorem write_chunks_cut :
    (Source.empty.after cutMoves).Reachable ∧
      Source.empty.after cutMoves
        = ⟨"int f() \x7b\n    return 1;\n\n    // end", 1, false⟩ ∧
      ¬ ((Source.empty.after cutMoves).text = ""
        ∨ Source.endsWithBreak (Source.empty.after cutMoves).text = true) := by
  have hreachable : (Source.empty.after cutMoves).Reachable := ⟨cutMoves, none, rfl⟩
  have hsource : Source.empty.after cutMoves
      = ⟨"int f() \x7b\n    return 1;\n\n    // end", 1, false⟩ := by
    rw [Source.after, cutMoves, write_chunks.2.1]
    decide
  refine ⟨hreachable, hsource, ?_⟩
  rw [← write_chunks.2.2 _ hreachable, hsource]
  exact Bool.false_ne_true

end WireWrapper
