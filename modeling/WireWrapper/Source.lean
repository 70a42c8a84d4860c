import WireWrapper.Text.Replace

/-!
# Indented source text

Text that is written line by line.  A line that has a character starts with four spaces for each
level of depth; a line without characters stays empty.

* `Source`                        the text so far, the depth, and whether a line starts here;
* `Source.line`, `Source.write`   a whole line as it is; text whose line breaks count;
* `Source.indent`, `Source.dedent`   one level deeper and back;
* `Source.scratch`, `Source.append`  text on the side, and its place in the whole;
* `Source.stage`                  text that is kept only if it can be completed.
-/

namespace WireWrapper

/-- Source text that is being written. -/
structure Source where
  text : String
  depth : Nat
  /-- Whether the next character is the first of its line. -/
  atLineStart : Bool
deriving DecidableEq, Repr

namespace Source

def empty : Source := ⟨"", 0, true⟩

/-- The spaces in front of a line. -/
def padding (depth : Nat) : String := String.ofList (List.replicate (4 * depth) ' ')

/-- Adds text to the current line, behind the indentation if it is the first. -/
def push (w : Source) (s : String) : Source :=
  if s.isEmpty then w
  else if w.atLineStart then ⟨w.text ++ padding w.depth ++ s, w.depth, false⟩
  else ⟨w.text ++ s, w.depth, false⟩

def newline (w : Source) : Source := ⟨w.text ++ "\n", w.depth, true⟩

def line (w : Source) (s : String) : Source := (w.push s).newline

def lines (w : Source) (ss : List String) : Source := ss.foldl line w

/-- Adds pieces of text, each on a line of its own. -/
def pushPieces (w : Source) : List (List Char) → Source
  | [] => w
  | p :: ps => ps.foldl (fun w p => w.newline.push (String.ofList p)) (w.push (String.ofList p))

/-- Adds text in which a line break ends the line. -/
def write (w : Source) (s : String) : Source :=
  w.pushPieces (Text.pieces (· == '\n') s.toList)

/-- Adds text in which a line break ends the line, and ends the last line. -/
def writeLine (w : Source) (s : String) : Source := (w.write s).newline

def writeLines (w : Source) (ss : List String) : Source := ss.foldl writeLine w

def indent (w : Source) : Source := { w with depth := w.depth + 1 }

/-- One level back, if there is one. -/
def dedent (w : Source) : Source := { w with depth := w.depth - 1 }

/-- An empty text at the same depth. -/
def scratch (w : Source) : Source := ⟨"", w.depth, true⟩

def endsWithBreak (s : String) : Bool := s.toList.getLast? == some '\n'

/-- Adds text that was written on the side, as it is. -/
def append (w staged : Source) : Source :=
  if staged.text.isEmpty then w
  else ⟨w.text ++ staged.text, w.depth, endsWithBreak staged.text⟩

/-- Adds what `render` writes on the side; if it fails, the line `stub` takes its place, and the
failure is given back. -/
def stage {ε : Type} (w : Source) (stub : String) (render : Source → Except ε Source) :
    Source × Option ε :=
  match render w.scratch with
  | .ok staged => (w.append staged, none)
  -- nothing is kept of what was written up to the failure
  | .error failure => (w.line stub, some failure)

example : ((empty.line "class A \x7b").indent.writeLine "a\n\nb").text =
    "class A \x7b\n    a\n\n    b\n" := by decide

end Source
end WireWrapper
