import Mathlib.Data.List.Chain
import WireWrapper.Proofs.Source.Edits
import WireWrapper.Proofs.Source.TextLines

/-!
# Where indentation stands

The edits of a source write characters, each at the depth that is in force there.  Laid out line by
line, a line that has a character starts with four spaces for each level of its first one, and a line
without characters stays empty.

A source lays out what it is given in this way, but it does not look into the text of a line: a break
inside of it is written as it is, and what follows on the next line has no indentation.  So there are
two ways to cut the characters into lines, and the text of a source follows the first.

* `Stroke`, `written`      the characters that edits write, in turn;
* `Stroke.ends`            a break that the source knows of, and `Stroke.isBreak` any break;
* `laidOut`                characters cut into lines, each behind its indentation;
* `lay`                    the same as one walk, with a bit for the start of a line;
* `edits_typed`            what edits add to a source;
* `lay_eq_iff`             when it does not matter where the lines are cut;
* `edits_layout`           the text of a source.
-/

namespace WireWrapper

/-- a character that was written, and the depth it was written at -/
structure Stroke where
  char : Char
  depth : Nat
  /-- whether the source looks for breaks here -/
  seen : Bool
deriving DecidableEq, Repr

namespace Stroke

def isBreak (k : Stroke) : Bool := k.char == '\n'

/-- a break that ends the line for the source too -/
def ends (k : Stroke) : Bool := k.seen && k.isBreak

/-- a break in the text of a line -/
def hidden (k : Stroke) : Bool := !k.seen && k.isBreak

end Stroke

/-! ## what is written -/

def strokesOf (seen : Bool) (depth : Nat) (s : String) : List Stroke :=
  s.toList.map (⟨·, depth, seen⟩)

def lineEnd (depth : Nat) : Stroke := ⟨'\n', depth, true⟩

def lineStrokes (depth : Nat) (s : String) : List Stroke := strokesOf false depth s ++ [lineEnd depth]

def Edit.strokes (depth : Nat) : Edit → List Stroke
  | .line s => lineStrokes depth s
  | .lines ss => ss.flatMap (lineStrokes depth)
  | .newline => [lineEnd depth]
  | .write s => strokesOf true depth s
  | .indent => []
  | .dedent => []

/-- the texts and line ends of edits, in turn -/
def written (depth : Nat) : List Edit → List Stroke
  | [] => []
  | e :: es => e.strokes depth ++ written (e.depthAfter depth) es

def Edit.lineTexts : Edit → List String
  | .line s => [s]
  | .lines ss => ss
  | _ => []

/-! ## lines -/

/-- a line that has a character starts with the indentation of the first one -/
def indentedLine : List Stroke → List Char
  | [] => []
  | k :: ks => List.replicate (4 * k.depth) ' ' ++ (k :: ks).map Stroke.char

/-- characters cut into lines, each behind its indentation -/
def laidOut (ends : Stroke → Bool) (ks : List Stroke) : String :=
  String.ofList (List.intercalate ['\n'] ((ks.splitOnP ends).map indentedLine))

/-- the same as one walk; the bit says whether the next character is the first of its line -/
def lay (ends : Stroke → Bool) : Bool → List Stroke → List Char
  | _, [] => []
  | start, k :: ks =>
    (if start && !ends k then List.replicate (4 * k.depth) ' ' else [])
      ++ k.char :: lay ends (ends k) ks

def startsBehind (ends : Stroke → Bool) : Bool → List Stroke → Bool
  | start, [] => start
  | _, k :: ks => startsBehind ends (ends k) ks

section
variable (ends : Stroke → Bool)

theorem lay_append (start : Bool) (xs ys : List Stroke) :
    lay ends start (xs ++ ys)
      = lay ends start xs ++ lay ends (startsBehind ends start xs) ys := by
  induction xs generalizing start with
  | nil => rfl
  | cons x xs ih => simp [lay, startsBehind, ih]

theorem startsBehind_append (start : Bool) (xs ys : List Stroke) :
    startsBehind ends start (xs ++ ys) = startsBehind ends (startsBehind ends start xs) ys := by
  induction xs generalizing start with
  | nil => rfl
  | cons x xs ih => exact ih _

theorem intercalate_append_cons {α : Type} (sep front l : List α) (ls : List (List α)) :
    List.intercalate sep ((front ++ l) :: ls) = front ++ List.intercalate sep (l :: ls) := by
  cases ls with
  | nil => simp
  | cons m ls => simp [List.intercalate_cons_cons, List.append_assoc]

/-- with the bit set the walk starts a line, with the bit clear it goes on with one -/
theorem splitOnP_lay (hends : ∀ k, ends k = true → k.char = '\n') (ks : List Stroke) :
    ∃ line rest, ks.splitOnP ends = line :: rest ∧
      lay ends true ks = List.intercalate ['\n'] (indentedLine line :: rest.map indentedLine) ∧
      lay ends false ks
        = List.intercalate ['\n'] (line.map Stroke.char :: rest.map indentedLine) := by
  induction ks with
  | nil => exact ⟨[], [], rfl, rfl, rfl⟩
  | cons k ks ih =>
    obtain ⟨line, rest, hsplit, hstart, hon⟩ := ih
    cases hk : ends k with
    | true =>
      refine ⟨[], line :: rest, ?_, ?_, ?_⟩
      · rw [List.splitOnP_cons_eq_if_modifyHead, if_pos hk, hsplit]
      · simp [lay, hk, hstart, hends k hk, indentedLine, List.intercalate_cons_cons]
      · simp [lay, hk, hstart, hends k hk, List.intercalate_cons_cons]
    | false =>
      refine ⟨k :: line, rest, ?_, ?_, ?_⟩
      · rw [List.splitOnP_cons_eq_if_modifyHead, if_neg (by simp [hk]), hsplit]
        rfl
      · have hline : indentedLine (k :: line)
            = (List.replicate (4 * k.depth) ' ' ++ [k.char]) ++ line.map Stroke.char := by
          simp [indentedLine]
        rw [hline, intercalate_append_cons, ← hon]
        simp [lay, hk]
      · have hline : (k :: line).map Stroke.char = [k.char] ++ line.map Stroke.char := rfl
        rw [hline, intercalate_append_cons, ← hon]
        simp [lay, hk]

theorem laidOut_eq_lay (hends : ∀ k, ends k = true → k.char = '\n') (ks : List Stroke) :
    laidOut ends ks = String.ofList (lay ends true ks) := by
  obtain ⟨line, rest, hsplit, hstart, -⟩ := splitOnP_lay ends hends ks
  rw [laidOut, hsplit, hstart, List.map_cons]

end

/-! ## what edits add -/

namespace Source

/-- a source behind characters -/
def typed (w : Source) (ks : List Stroke) : Source :=
  ⟨w.text ++ String.ofList (lay Stroke.ends w.atLineStart ks), w.depth,
    startsBehind Stroke.ends w.atLineStart ks⟩

theorem typed_nil (w : Source) : w.typed [] = w := by
  simp [typed, lay, startsBehind]

theorem typed_append (w : Source) (xs ys : List Stroke) :
    w.typed (xs ++ ys) = (w.typed xs).typed ys := by
  simp [typed, lay_append, startsBehind_append, String.append_assoc]

theorem lay_unseen (start : Bool) (depth : Nat) (c : Char) (cs : List Char) :
    lay Stroke.ends start ((c :: cs).map (⟨·, depth, false⟩))
      = (if start then List.replicate (4 * depth) ' ' else []) ++ c :: cs := by
  have hon : ∀ cs : List Char, lay Stroke.ends false (cs.map (⟨·, depth, false⟩)) = cs := by
    intro cs
    induction cs with
    | nil => rfl
    | cons c cs ih => simpa [lay, Stroke.ends] using ih
  simp [lay, Stroke.ends, hon]

theorem startsBehind_unseen (start : Bool) (depth : Nat) (c : Char) (cs : List Char) :
    startsBehind Stroke.ends start ((c :: cs).map (⟨·, depth, false⟩)) = false := by
  induction cs generalizing c start with
  | nil => rfl
  | cons d cs ih => exact ih false d

theorem push_typed (w : Source) (s : String) : w.push s = w.typed (strokesOf false w.depth s) := by
  by_cases hs : s = ""
  · rw [hs, push_empty]
    exact (typed_nil w).symm
  obtain ⟨c, cs, hcs⟩ := List.exists_cons_of_ne_nil (mt String.toList_eq_nil_iff.mp hs)
  have htext : s = String.ofList (c :: cs) := by rw [← hcs, String.ofList_toList]
  rw [push_of_ne w hs, typed, strokesOf, hcs, lay_unseen, startsBehind_unseen, htext,
    String.append_assoc, String.ofList_append]
  cases w.atLineStart <;> rfl

theorem newline_typed (w : Source) : w.newline = w.typed [lineEnd w.depth] := by
  simp [newline, typed, lay, startsBehind, lineEnd, Stroke.ends, Stroke.isBreak]

theorem line_typed (w : Source) (s : String) : w.line s = w.typed (lineStrokes w.depth s) := by
  rw [line, newline_typed, push_typed, lineStrokes, typed_append]
  rfl

theorem lines_typed (w : Source) (ss : List String) :
    w.lines ss = w.typed (ss.flatMap (lineStrokes w.depth)) := by
  induction ss generalizing w with
  | nil => exact (typed_nil w).symm
  | cons s ss ih =>
    have hrest : w.lines (s :: ss) = (w.line s).lines ss := rfl
    rw [hrest, ih, line_typed, List.flatMap_cons, typed_append]
    rfl

theorem typeChar_typed (w : Source) (c : Char) : w.typeChar c = w.typed [⟨c, w.depth, true⟩] := by
  rw [typeChar]
  by_cases hc : c = '\n'
  · rw [if_pos hc, hc]
    exact newline_typed w
  · rw [if_neg hc, push_typed]
    simp [typed, strokesOf, lay, startsBehind, Stroke.ends, Stroke.isBreak, hc]

theorem write_typed (w : Source) (s : String) :
    w.write s = w.typed (strokesOf true w.depth s) := by
  rw [write_eq_foldl, strokesOf]
  induction s.toList generalizing w with
  | nil => exact (typed_nil w).symm
  | cons c cs ih =>
    have hsplit : (c :: cs).map (Stroke.mk · w.depth true)
        = [⟨c, w.depth, true⟩] ++ cs.map (Stroke.mk · w.depth true) := rfl
    rw [List.foldl_cons, ih, typeChar_typed, hsplit, typed_append]
    rfl

theorem edit_typed (w : Source) (e : Edit) :
    w.edit e = { w.typed (e.strokes w.depth) with depth := e.depthAfter w.depth } := by
  cases e with
  | line s => exact line_typed w s
  | lines ss => exact lines_typed w ss
  | newline => exact newline_typed w
  | write s => exact write_typed w s
  | indent =>
    show _ = { w.typed [] with depth := w.depth + 1 }
    rw [typed_nil]
    rfl
  | dedent =>
    show _ = { w.typed [] with depth := w.depth - 1 }
    rw [typed_nil]
    rfl

/-- **Edits add their characters**, each at the depth in force there. -/
theorem edits_typed (w : Source) (es : List Edit) :
    (w.edits es).text
      = w.text ++ String.ofList (lay Stroke.ends w.atLineStart (written w.depth es)) := by
  induction es generalizing w with
  | nil => simp [edits, written, lay]
  | cons e es ih =>
    have hrest : w.edits (e :: es) = (w.edit e).edits es := rfl
    rw [hrest, ih, edit_typed, written, lay_append, String.ofList_append]
    exact String.append_assoc

end Source

/-! ## where the lines are cut -/

/-- neighbours between which it does not matter whether a break is seen -/
def Harmless (j k : Stroke) : Prop :=
  (j.ends = true → k.hidden = true → k.depth = 0) ∧
    (j.hidden = true → k.isBreak = false → k.depth = 0)

theorem takeWhile_lay {ends : Stroke → Bool} (hends : ∀ k, ends k = true → k.isBreak = true)
    (ks : List Stroke) :
    (lay ends false ks).takeWhile (· != '\n')
      = (ks.takeWhile fun k => !k.isBreak).map Stroke.char := by
  induction ks with
  | nil => rfl
  | cons k ks ih =>
    cases hk : k.isBreak with
    | true =>
      have hchar : k.char = '\n' := beq_iff_eq.mp hk
      simp [lay, hk, hchar]
    | false =>
      have hchar : k.char ≠ '\n' := beq_eq_false_iff_ne.mp hk
      have hopen : ends k = false := by
        cases hek : ends k with
        | false => rfl
        | true => rw [hends k hek] at hk; cases hk
      simp [lay, hk, hchar, hopen, ih]

theorem isBreak_of_ends (k : Stroke) (hk : k.ends = true) : k.isBreak = true :=
  (Bool.and_eq_true_iff.mp hk).2

/-- spaces in front of a break are seen at once -/
theorem padding_break_iff {n : Nat} {xs ys : List Char} :
    List.replicate n ' ' ++ '\n' :: xs = '\n' :: ys ↔ n = 0 ∧ xs = ys := by
  cases n with
  | zero => simp
  | succ n => simp [List.replicate_succ]

/-- spaces in front of another character make its line longer -/
theorem padding_char_iff {n : Nat} {c : Char} {xs ys : List Char} (hc : c ≠ '\n')
    (hline : xs.takeWhile (· != '\n') = ys.takeWhile (· != '\n')) :
    c :: xs = List.replicate n ' ' ++ c :: ys ↔ n = 0 ∧ xs = ys := by
  constructor
  · intro h
    have hlines := congrArg (List.takeWhile (· != '\n')) h
    rw [List.takeWhile_append_of_pos (by simp), List.takeWhile_cons_of_pos (by simpa using hc),
      List.takeWhile_cons_of_pos (by simpa using hc), hline] at hlines
    have hlength := congrArg List.length hlines
    simp only [List.length_append, List.length_replicate, List.length_cons] at hlength
    obtain rfl : n = 0 := by omega
    exact ⟨rfl, List.tail_eq_of_cons_eq h⟩
  · rintro ⟨rfl, rfl⟩
    rfl

/-- **The two ways to cut lines** differ exactly where a hidden break starts a line, or is followed
by the first character of one, at a depth past zero. -/
theorem lay_eq_iff (j : Stroke) (ks : List Stroke) :
    lay Stroke.ends j.ends ks = lay Stroke.isBreak j.isBreak ks
      ↔ (j :: ks).IsChain Harmless := by
  induction ks generalizing j with
  | nil => simp [lay]
  | cons k ks ih =>
    rw [List.isChain_cons_cons, ← ih k, lay, lay]
    have hdepth : 4 * k.depth = 0 ↔ k.depth = 0 := by omega
    cases hk : k.isBreak with
    | true =>
      have hchar : k.char = '\n' := beq_iff_eq.mp hk
      cases hseen : k.seen with
      | true => simp [Harmless, Stroke.ends, Stroke.hidden, hk, hseen]
      | false =>
        -- only the source's own reading indents a hidden break
        have hends : k.ends = false := by simp [Stroke.ends, hseen]
        have hhidden : k.hidden = true := by simp [Stroke.hidden, hseen, hk]
        cases hj : j.ends with
        | true => simp [Harmless, hj, hk, hends, hhidden, hchar, padding_break_iff, hdepth]
        | false => simp [Harmless, hj, hk, hends, hchar]
    | false =>
      have hchar : k.char ≠ '\n' := beq_eq_false_iff_ne.mp hk
      have hends : k.ends = false := by simp [Stroke.ends, hk]
      have hhidden : k.hidden = false := by simp [Stroke.hidden, hk]
      cases hj : j.isBreak with
      | false =>
        have hjends : j.ends = false := by simp [Stroke.ends, hj]
        have hjhidden : j.hidden = false := by simp [Stroke.hidden, hj]
        simp [Harmless, hjends, hjhidden, hends]
      | true =>
        cases hseen : j.seen with
        | true => simp [Harmless, Stroke.ends, Stroke.hidden, hj, hseen, hk]
        | false =>
          have hjends : j.ends = false := by simp [Stroke.ends, hseen]
          have hjhidden : j.hidden = true := by simp [Stroke.hidden, hseen, hj]
          have hline : (lay Stroke.ends false ks).takeWhile (· != '\n')
              = (lay Stroke.isBreak false ks).takeWhile (· != '\n') := by
            rw [takeWhile_lay isBreak_of_ends, takeWhile_lay fun _ h => h]
          simp [Harmless, hjends, hjhidden, hends, hhidden, hk, padding_char_iff hchar hline, hdepth]

/-! ## texts without breaks -/

theorem lineStrokes_unbroken {depth : Nat} {s : String} (hs : Unbroken s) :
    ∀ k ∈ lineStrokes depth s, k.hidden = false := by
  intro k hk
  rcases List.mem_append.mp hk with hk | hk
  · obtain ⟨c, hc, rfl⟩ := List.mem_map.mp hk
    have hne : c ≠ '\n' := by
      rintro rfl
      exact hs hc
    simp [Stroke.hidden, Stroke.isBreak, hne]
  · rw [List.mem_singleton.mp hk]
    rfl

theorem strokes_unbroken {depth : Nat} {e : Edit} (he : ∀ s ∈ e.lineTexts, Unbroken s) :
    ∀ k ∈ e.strokes depth, k.hidden = false := by
  intro k hk
  cases e with
  | line s => exact lineStrokes_unbroken (he s List.mem_cons_self) k hk
  | lines ss =>
    obtain ⟨s, hs, hk⟩ := List.mem_flatMap.mp hk
    exact lineStrokes_unbroken (he s hs) k hk
  | newline =>
    rw [List.mem_singleton.mp hk]
    rfl
  | write s =>
    obtain ⟨c, -, rfl⟩ := List.mem_map.mp hk
    rfl
  | indent => cases hk
  | dedent => cases hk

theorem written_unbroken {es : List Edit} (hes : ∀ e ∈ es, ∀ s ∈ e.lineTexts, Unbroken s)
    (depth : Nat) : ∀ k ∈ written depth es, k.hidden = false := by
  induction es generalizing depth with
  | nil => intro k hk; cases hk
  | cons e es ih =>
    intro k hk
    rcases List.mem_append.mp hk with hk | hk
    · exact strokes_unbroken (hes e List.mem_cons_self) k hk
    · exact ih (fun e he => hes e (List.mem_cons_of_mem _ he)) _ k hk

theorem isChain_harmless {ks : List Stroke} (hks : ∀ k ∈ ks, k.hidden = false) :
    ks.IsChain Harmless := by
  apply List.Pairwise.isChain
  apply List.pairwise_of_forall_mem_list
  intro j hj k hk
  simp [Harmless, hks j hj, hks k hk]

/-! ## the text of a source -/

/-- **The text of a source** that was empty at first is what was written, laid out in the lines that
the source knows of.  It is laid out in the lines that a reader sees exactly if hidden breaks do no
harm, and so it is if no break stands in the text of a line. -/
theorem edits_layout (es : List Edit) :
    (Source.empty.edits es).text = laidOut Stroke.ends (written 0 es) ∧
      ((Source.empty.edits es).text = laidOut Stroke.isBreak (written 0 es) ↔
        (lineEnd 0 :: written 0 es).IsChain Harmless) ∧
      ((∀ e ∈ es, ∀ s ∈ e.lineTexts, Unbroken s) →
        (Source.empty.edits es).text = laidOut Stroke.isBreak (written 0 es)) := by
  have htext : (Source.empty.edits es).text
      = String.ofList (lay Stroke.ends true (written 0 es)) := by
    rw [Source.edits_typed]
    exact String.empty_append
  have hread : laidOut Stroke.isBreak (written 0 es)
      = String.ofList (lay Stroke.isBreak true (written 0 es)) :=
    laidOut_eq_lay _ (fun k hk => beq_iff_eq.mp hk) _
  have hcut : (Source.empty.edits es).text = laidOut Stroke.isBreak (written 0 es) ↔
      (lineEnd 0 :: written 0 es).IsChain Harmless := by
    rw [htext, hread, String.ofList_inj]
    exact lay_eq_iff (lineEnd 0) (written 0 es)
  refine ⟨?_, hcut, ?_⟩
  · rw [htext, laidOut_eq_lay _ fun k hk => beq_iff_eq.mp (isBreak_of_ends k hk)]
  · intro hes
    rw [hcut]
    apply isChain_harmless
    intro k hk
    rcases List.mem_cons.mp hk with rfl | hk
    · rfl
    · exact written_unbroken hes 0 k hk

/-- a line in parts, an empty line, and more levels back than there are -/
def scatteredEdits : List Edit :=
  [.dedent, .write "if x", .write " \x7b\n", .indent, .write "\n", .line "y();", .indent,
    .lines ["z(", "", "1);"], .dedent, .dedent, .dedent, .write "\x7d", .newline]

theorem edits_layout_scattered :
    (∀ e ∈ scatteredEdits, ∀ s ∈ e.lineTexts, Unbroken s) ∧
      (Source.empty.edits scatteredEdits).text
        = "if x \x7b\n\n    y();\n        z(\n\n        1);\n\x7d\n" := by
  have hunbroken : ∀ e ∈ scatteredEdits, ∀ s ∈ e.lineTexts, Unbroken s := by decide
  refine ⟨hunbroken, ?_⟩
  rw [(edits_layout scatteredEdits).2.2 hunbroken]
  decide

/-- a break in the text of a line leaves what follows without indentation -/
theorem broken_line_unindented :
    (Source.empty.edits [.indent, .line "a\nb"]).text = "    a\nb\n" ∧
      laidOut Stroke.isBreak (written 0 [.indent, .line "a\nb"]) = "    a\n    b\n" ∧
      ¬ ∀ es : List Edit, (Source.empty.edits es).text = laidOut Stroke.isBreak (written 0 es) := by
  have htext : (Source.empty.edits [.indent, .line "a\nb"]).text = "    a\nb\n" := by decide
  have hread : laidOut Stroke.isBreak (written 0 [.indent, .line "a\nb"]) = "    a\n    b\n" := by
    decide
  refine ⟨htext, hread, ?_⟩
  intro h
  have hsame := h [.indent, .line "a\nb"]
  rw [htext, hread] at hsame
  exact absurd hsame (by decide)

end WireWrapper
