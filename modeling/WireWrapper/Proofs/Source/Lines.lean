import WireWrapper.Source

/-!
# Sources that stand at the start of a line

Every piece of a class starts and ends where a line starts, and at the depth where it started.  On
such sources each operation only adds text, and this text depends on nothing but the depth.

* `joinMap`                       texts of things, one behind the other;
* `Source.atLine`                 a text at whose end a line starts, at some depth;
* `lineText`, `paragraph`         a line as `Source.line` writes it; text whose line breaks count;
* `foldl_atLine`                  operations in turn add their texts in turn;
* `line_atLine`, `writeLine_atLine`, `append_atLine`   what the operations add;
* `stage_atLine_ok`, `stage_atLine_error`              what staging adds.
-/

namespace WireWrapper

/-! ## texts -/

/-- the texts of things, one behind the other -/
def joinMap {α : Type} (f : α → String) (xs : List α) : String := String.join (xs.map f)

section
variable {α β : Type} (f : α → String)

theorem joinMap_nil : joinMap f [] = "" := rfl

theorem joinMap_cons (x : α) (xs : List α) : joinMap f (x :: xs) = f x ++ joinMap f xs := by
  rw [joinMap, List.map_cons, String.join_cons, joinMap]

theorem joinMap_singleton (x : α) : joinMap f [x] = f x := by
  rw [joinMap_cons, joinMap_nil, String.append_empty]

theorem joinMap_append (xs ys : List α) : joinMap f (xs ++ ys) = joinMap f xs ++ joinMap f ys := by
  rw [joinMap, List.map_append, String.join_append, joinMap, joinMap]

theorem joinMap_map (g : β → α) (xs : List β) : joinMap f (xs.map g) = joinMap (f ∘ g) xs := by
  rw [joinMap, List.map_map, joinMap]

theorem joinMap_flatMap (g : β → List α) (xs : List β) :
    joinMap f (xs.flatMap g) = joinMap (fun x => joinMap f (g x)) xs := by
  induction xs with
  | nil => rfl
  | cons x xs ih => rw [List.flatMap_cons, joinMap_append, ih, joinMap_cons]

end

/-- one line behind its indentation; a line without characters has none -/
def lineText (depth : Nat) (s : String) : String :=
  (if s.isEmpty then "" else Source.padding depth ++ s) ++ "\n"

/-- a text whose line breaks count, and the end of its last line -/
def paragraph (depth : Nat) (s : String) : String :=
  joinMap (lineText depth) ((Text.pieces (· == '\n') s.toList).map String.ofList)

namespace Source

/-- a text at whose end a line starts -/
def atLine (text : String) (depth : Nat) : Source := ⟨text, depth, true⟩

/-! ## ends of lines -/

theorem endsWithBreak_append (s : String) {t : String} (ht : endsWithBreak t = true) :
    endsWithBreak (s ++ t) = true := by
  rw [endsWithBreak, beq_iff_eq] at ht ⊢
  rw [String.toList_append, List.getLast?_append, ht]
  rfl

theorem endsWithBreak_joinMap {α : Type} {f : α → String} (hf : ∀ x, endsWithBreak (f x) = true)
    {xs : List α} (hxs : xs ≠ []) : endsWithBreak (joinMap f xs) = true := by
  rw [← List.dropLast_concat_getLast hxs, joinMap_append, joinMap_singleton]
  exact endsWithBreak_append _ (hf _)

theorem lineText_endsWithBreak (depth : Nat) (s : String) :
    endsWithBreak (lineText depth s) = true := endsWithBreak_append _ (by decide)

/-! ## operations -/

theorem foldl_atLine {α : Type} {step : Source → α → Source} {f : α → String} {depth : Nat}
    (hstep : ∀ text x, step (atLine text depth) x = atLine (text ++ f x) depth) (xs : List α)
    (text : String) :
    xs.foldl step (atLine text depth) = atLine (text ++ joinMap f xs) depth := by
  induction xs generalizing text with
  | nil => rw [joinMap_nil, String.append_empty]; rfl
  | cons x xs ih => rw [List.foldl_cons, hstep, ih, joinMap_cons, String.append_assoc]

theorem empty_eq_atLine : empty = atLine "" 0 := rfl

section
variable (text : String) (depth : Nat)

theorem scratch_atLine : (atLine text depth).scratch = atLine "" depth := rfl

theorem indent_atLine : (atLine text depth).indent = atLine text (depth + 1) := rfl

theorem dedent_atLine : (atLine text (depth + 1)).dedent = atLine text depth := rfl

theorem newline_atLine : (atLine text depth).newline = atLine (text ++ "\n") depth := rfl

theorem line_atLine (s : String) :
    (atLine text depth).line s = atLine (text ++ lineText depth s) depth := by
  rw [line, push, lineText]
  cases hs : s.isEmpty with
  | true =>
    rw [if_pos rfl, if_pos rfl, String.empty_append]
    rfl
  | false =>
    rw [if_neg Bool.false_ne_true, if_neg Bool.false_ne_true]
    show atLine (text ++ padding depth ++ s ++ "\n") depth = _
    rw [String.append_assoc, String.append_assoc, String.append_assoc]

theorem lines_atLine (ss : List String) :
    (atLine text depth).lines ss = atLine (text ++ joinMap (lineText depth) ss) depth :=
  foldl_atLine (fun text s => line_atLine text depth s) ss text

end

/-- a text whose line breaks count is a row of lines: each break ends what was written before it -/
theorem writeLine_eq_lines (w : Source) (s : String) :
    w.writeLine s = w.lines ((Text.pieces (· == '\n') s.toList).map String.ofList) := by
  have hrow : ∀ (ps : List (List Char)) (v : Source),
      (ps.foldl (fun w p => w.newline.push (String.ofList p)) v).newline
        = v.newline.lines (ps.map String.ofList) := by
    intro ps
    induction ps with
    | nil => intro v; rfl
    | cons p ps ih =>
      intro v
      rw [List.foldl_cons, ih, List.map_cons]
      rfl
  obtain ⟨p, ps, hp⟩ := List.exists_cons_of_ne_nil (Text.pieces_ne_nil (· == '\n') s.toList)
  rw [writeLine, write, hp, pushPieces, hrow, List.map_cons]
  rfl

section
variable (text : String) (depth : Nat)

theorem writeLine_atLine (s : String) :
    (atLine text depth).writeLine s = atLine (text ++ paragraph depth s) depth := by
  rw [writeLine_eq_lines, lines_atLine, paragraph]

theorem writeLines_atLine (ss : List String) :
    (atLine text depth).writeLines ss = atLine (text ++ joinMap (paragraph depth) ss) depth :=
  foldl_atLine (fun text s => writeLine_atLine text depth s) ss text

theorem append_atLine {staged : String} (hs : endsWithBreak staged = true) (deep : Nat) :
    (atLine text depth).append (atLine staged deep) = atLine (text ++ staged) depth := by
  have hne : ¬ staged.isEmpty = true := by
    intro h
    rw [String.isEmpty_iff.mp h] at hs
    exact absurd hs (by decide)
  show (if staged.isEmpty then _ else _) = _
  rw [if_neg hne]
  show Source.mk _ _ (endsWithBreak staged) = _
  rw [hs]
  rfl

theorem stage_atLine_ok {ε : Type} (render : Source → Except ε Source) {staged : String}
    (hr : render (atLine "" depth) = .ok (atLine staged depth)) (hs : endsWithBreak staged = true)
    (stub : String) :
    (stage (atLine text depth) stub render).1 = atLine (text ++ staged) depth := by
  rw [stage, scratch_atLine, hr]
  exact append_atLine text depth hs depth

theorem stage_atLine_error {ε : Type} (render : Source → Except ε Source) {failure : ε}
    (hr : render (atLine "" depth) = .error failure) (stub : String) :
    (stage (atLine text depth) stub render).1
      = atLine (text ++ lineText depth stub) depth := by
  rw [stage, scratch_atLine, hr]
  exact line_atLine text depth stub

end

end Source
end WireWrapper
