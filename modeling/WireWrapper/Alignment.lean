import WireWrapper.Message

/-!
# Aligning scanned and documented fields

The two descriptions of a message share no key.  The i-th field that the method writes is taken for
the i-th field that the documentation lists; only their numbers can be compared.

* `AlignedField`    a scanned field with its documentation;
* `align`           the pairs, what is left over on either side, and whether the numbers differ;
* `Alignment.strict`   the pairs, or the mismatch if the numbers differ.
-/

namespace WireWrapper

/-- The numbers of scanned and documented fields differ. -/
structure CountMismatch where
  scanned : Nat
  documented : Nat
deriving DecidableEq, Repr

def CountMismatch.message (m : CountMismatch) : String :=
  "field count mismatch: " ++ toString m.scanned ++ " scanned, " ++ toString m.documented ++
    " documented"

structure AlignedField where
  index : Nat
  scan : FieldDescriptor
  doc : DocField
deriving DecidableEq, Repr

/-- Two lists of fields side by side. -/
structure Alignment where
  pairs : List AlignedField
  /-- The documented fields past the end of the scan. -/
  unmatchedDocs : List DocField
  /-- The scanned fields past the end of the documentation. -/
  unmatchedScans : List FieldDescriptor
  mismatch : Option CountMismatch
deriving DecidableEq, Repr

/-- Pairs the fields that have the same place in both lists. -/
def align (scan : List FieldDescriptor) (docs : List DocField) : Alignment :=
  let pairs := (scan.zip docs).mapIdx fun i (field, doc) => ⟨i, field, doc⟩
  { pairs
    unmatchedDocs := docs.drop pairs.length
    unmatchedScans := scan.drop pairs.length
    mismatch := if scan.length = docs.length then none else some ⟨scan.length, docs.length⟩ }

namespace Alignment

def isExact (a : Alignment) : Bool := a.mismatch.isNone

/-- The pairs, or the mismatch if the numbers differ. -/
def strict (a : Alignment) : Except CountMismatch (List AlignedField) :=
  match a.mismatch with
  | some mismatch => .error mismatch
  | none => .ok a.pairs

end Alignment
end WireWrapper
