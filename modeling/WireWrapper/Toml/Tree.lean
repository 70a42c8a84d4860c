import WireWrapper.Toml

/-!
# Tables under construction

A TOML document defines its tables piece by piece: by a header, by the way to another header, or by
a dotted key.  What may still be added to a table depends on which of them made it.

* `Toml.Origin`     how a table came about;
* `Toml.Node`       a member under construction;
* `Toml.update?`    a change at the end of a path, with the tables on the way made where missing;
* `Toml.assign?`    `path = value` in the table at `here`;
* `Toml.openTable?` the header `[path]`;
* `Toml.openItem?`  the header `[[path]]`;
* `Toml.close`      the finished table.

All of them answer `none` when a name is defined twice or leads through what is no table.
-/

namespace WireWrapper
namespace Toml

/-- How a table came about: by its own header, on the way to another header, or by a dotted key. -/
inductive Origin where
  | header
  | implied
  | dotted
deriving DecidableEq, Repr

/-- A member under construction: a finished value, a table, or the tables of an array that headers
fill. -/
inductive Node where
  | leaf (value : Toml)
  | table (origin : Origin) (members : List (String × Node))
  | tables (items : List (List (String × Node)))

abbrev Members := List (String × Node)

/-- Puts a node in the place of the one with the same name. -/
def Members.set (ms : Members) (name : String) (node : Node) : Members :=
  ms.map fun m => if m.1 = name then (name, node) else m

/-- Changes the table at the end of a path that starts at a table of the given origin. -/
def update? (byKey : Bool) (change : Origin → Members → Option Members) :
    Origin → List String → Members → Option Members
  | origin, [], ms => change origin ms
  | _, name :: path, ms =>
    match ms.lookup name with
    | none =>
      -- tables on the way are made where they are missing
      let origin : Origin := if byKey then .dotted else .implied
      (update? byKey change origin path []).map fun sub => ms ++ [(name, .table origin sub)]
    | some (.table origin sub) =>
      -- a dotted key may not enter a table that has a header of its own
      if byKey && origin = .header then none
      else (update? byKey change origin path sub).map fun sub => ms.set name (.table origin sub)
    | some (.tables items) =>
      match items.reverse with
      | [] => none
      | sub :: before =>
        (update? byKey change .header path sub).map fun sub =>
          ms.set name (.tables (sub :: before).reverse)
    | some (.leaf _) => none

/-- Adds a value under a new name.  A dotted key adds to tables that dotted keys made, a simple key
to the others. -/
def insert? (simple : Bool) (name : String) (value : Toml) (origin : Origin) (ms : Members) :
    Option Members :=
  if decide (origin = .dotted) == simple then none
  else if (ms.lookup name).isSome then none
  else some (ms ++ [(name, .leaf value)])

/-- Adds a value at a dotted path of the table. -/
def assignHere? (path : List String) (name : String) (value : Toml) (ms : Members) :
    Option Members :=
  update? true (insert? path.isEmpty name value) .header path ms

/-- Adds a value at a dotted path of the table that the last header opened. -/
def assign? (here path : List String) (name : String) (value : Toml) (root : Members) :
    Option Members :=
  update? false (fun _ ms => assignHere? path name value ms) .header here root

/-- Opens a table by its header.  A table that only lay on the way to others may be opened once. -/
def openTable? (path : List String) (name : String) (root : Members) : Option Members :=
  update? false (fun _ ms =>
    match ms.lookup name with
    | none => some (ms ++ [(name, .table .header [])])
    | some (.table .implied sub) => some (ms.set name (.table .header sub))
    | some _ => none) .header path root

/-- Opens the next table of an array by its header. -/
def openItem? (path : List String) (name : String) (root : Members) : Option Members :=
  update? false (fun _ ms =>
    match ms.lookup name with
    | none => some (ms ++ [(name, .tables [[]])])
    | some (.tables items) => some (ms.set name (.tables (items ++ [[]])))
    | some _ => none) .header path root

mutual

/-- The value that a node has become. -/
def Node.close : Node → Toml
  | .leaf value => value
  | .table _ ms => .table (close ms)
  | .tables items => .array (closeAll items)

def close : List (String × Node) → List (String × Toml)
  | [] => []
  | (name, node) :: ms => (name, node.close) :: close ms

def closeAll : List (List (String × Node)) → List Toml
  | [] => []
  | ms :: items => .table (close ms) :: closeAll items

end

end Toml
end WireWrapper
