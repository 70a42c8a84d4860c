import WireWrapper.Proofs.Source.Lines

/-!
# Edits of a source

Six things can be done to a source: three write lines, one writes text in which breaks count, two
change the depth.  Text in which breaks count is written character by character, so that a proof about
it needs two facts only, one for a break and one for text that is pushed.

* `Edit`, `Source.edit`, `Source.edits`   what can be done, and a source after it;
* `Edit.depthAfter`                       the depth that is left;
* `push_push`, `write_eq_foldl`           text in parts, and character by character.
-/

namespace WireWrapper

/-- what can be done to a source -/
inductive Edit where
  | line (s : String)
  | lines (ss : List String)
  | newline
  | write (s : String)
  | indent
  | dedent
deriving DecidableEq, Repr

def Edit.depthAfter (depth : Nat) : Edit → Nat
  | .indent => depth + 1
  | .dedent => depth - 1
  | _ => depth

namespace Source

def edit (w : Source) : Edit → Source
  | .line s => w.line s
  | .lines ss => w.lines ss
  | .newline => w.newline
  | .write s => w.write s
  | .indent => w.indent
  | .dedent => w.dedent

def edits (w : Source) (es : List Edit) : Source := es.foldl edit w

/-- one character; a break ends the line -/
def typeChar (w : Source) (c : Char) : Source :=
  if c = '\n' then w.newline else w.push (String.ofList [c])

/-! ## text in parts -/

theorem push_empty (w : Source) : w.push "" = w := rfl

theorem push_of_ne (w : Source) {s : String} (hs : s ≠ "") :
    w.push s = ⟨w.text ++ (if w.atLineStart then padding w.depth else "") ++ s, w.depth, false⟩ := by
  rw [push, if_neg (mt String.isEmpty_iff.mp hs)]
  cases w.atLineStart with
  | true => rfl
  | false => simp

theorem push_push (w : Source) (s t : String) : (w.push s).push t = w.push (s ++ t) := by
  by_cases hs : s = ""
  · rw [hs, push_empty, String.empty_append]
  by_cases ht : t = ""
  · rw [ht, push_empty, String.append_empty]
  have hst : s ++ t ≠ "" := by
    intro h
    exact hs (String.append_eq_empty_iff.mp h).1
  rw [push_of_ne _ ht, push_of_ne w hs, push_of_ne w hst]
  simp [String.append_assoc]

theorem pushPieces_cons (w : Source) (c : Char) (cs : List Char) :
    w.pushPieces (Text.pieces (· == '\n') (c :: cs))
      = (w.typeChar c).pushPieces (Text.pieces (· == '\n') cs) := by
  obtain ⟨p, ps, hp⟩ := List.exists_cons_of_ne_nil (Text.pieces_ne_nil (· == '\n') cs)
  rw [Text.pieces, hp, typeChar]
  by_cases hc : c = '\n'
  · rw [if_pos (beq_iff_eq.mpr hc), if_pos hc]
    rfl
  · rw [if_neg (by simp [hc]), if_neg hc]
    show ps.foldl _ (w.push (String.ofList (c :: p))) = ps.foldl _ ((w.push _).push _)
    rw [push_push, ← String.ofList_append]
    rfl

/-- text whose breaks count is its characters in turn -/
theorem write_eq_foldl (w : Source) (s : String) : w.write s = s.toList.foldl typeChar w := by
  rw [write]
  induction s.toList generalizing w with
  | nil => rfl
  | cons c cs ih => rw [pushPieces_cons, ih, List.foldl_cons]

end Source
end WireWrapper
