import Mathlib.Data.List.Basic
import WireWrapper.Alignment

/-!
# Fields side by side

Pairs stop where the shorter list does, and what is left over is taken from both lists at that place.
So of two lists of any lengths the pairs and the rest give back each list, at most one of them has a
rest, and there is a mismatch exactly if one has.  There is only one way to cut both lists like this.

* `align_pairs`, `length_align_pairs`   the pairs without their places, and how many there are;
* `align_unmatchedDocs`                 the documented fields that are left over;
* `Alignment.Covers`                    pairs and rests that give back both lists;
* `covers_align`, `eq_of_covers`         the alignment is such, and no other is;
* `align_exact`                         the same for every two lists, and for the strict form.
-/

namespace WireWrapper
variable {a : Alignment} (docs : List DocField) (fields : List FieldDescriptor)

/-! ## the pairs and the rest -/

theorem align_pairs :
    (align fields docs).pairs.map (fun p => (p.scan, p.doc)) = fields.zip docs := by
  refine List.ext_getElem? fun i => ?_
  show (List.map _ (List.mapIdx _ (fields.zip docs)))[i]? = _
  rw [List.getElem?_map, List.getElem?_mapIdx, Option.map_map]
  exact Option.map_id_apply

theorem length_align_pairs :
    (align fields docs).pairs.length = min fields.length docs.length := by
  rw [← List.length_zip, ← align_pairs, List.length_map]

theorem align_unmatchedDocs : (align fields docs).unmatchedDocs = docs.drop fields.length := by
  show docs.drop (align fields docs).pairs.length = _
  rw [length_align_pairs]
  rcases Nat.le_total fields.length docs.length with h | h
  · rw [Nat.min_eq_left h]
  · rw [Nat.min_eq_right h, List.drop_length, List.drop_eq_nil_of_le h]

theorem align_pairs_sides :
    (align fields docs).pairs.map (·.scan) = fields.take (align fields docs).pairs.length ∧
      (align fields docs).pairs.map (·.doc) = docs.take (align fields docs).pairs.length := by
  have hzip := align_pairs docs fields
  rw [List.zip_eq_zip_take_min, ← length_align_pairs] at hzip
  have hle : (align fields docs).pairs.length ≤ fields.length ∧
      (align fields docs).pairs.length ≤ docs.length := by
    rw [length_align_pairs]
    exact ⟨Nat.min_le_left .., Nat.min_le_right ..⟩
  have hscans := congrArg (List.map Prod.fst) hzip
  have hdocs := congrArg (List.map Prod.snd) hzip
  rw [List.map_map, List.map_fst_zip (by simp [hle])] at hscans
  rw [List.map_map, List.map_snd_zip (by simp [hle])] at hdocs
  exact ⟨hscans, hdocs⟩

/-! ## alignments that cover both lists -/

/-- pairs and rests that give back both lists, with the places of the pairs and what is said of the
lengths -/
structure Alignment.Covers (a : Alignment) (fields : List FieldDescriptor) (docs : List DocField) :
    Prop where
  scanned : a.pairs.map (·.scan) ++ a.unmatchedScans = fields
  documented : a.pairs.map (·.doc) ++ a.unmatchedDocs = docs
  places : ∀ (i : Nat) (pair : AlignedField), a.pairs[i]? = some pair → pair.index = i
  oneSided : a.unmatchedScans = [] ∨ a.unmatchedDocs = []
  mismatch : ∀ m : CountMismatch, a.mismatch = some m ↔
    (a.unmatchedScans ≠ [] ∨ a.unmatchedDocs ≠ []) ∧ m = ⟨fields.length, docs.length⟩

/-- **The alignment covers both lists.** -/
theorem covers_align : (align fields docs).Covers fields docs := by
  obtain ⟨hscans, hdocs⟩ := align_pairs_sides docs fields
  have hscanRest : (align fields docs).unmatchedScans
      = fields.drop (align fields docs).pairs.length := rfl
  have hdocRest : (align fields docs).unmatchedDocs
      = docs.drop (align fields docs).pairs.length := rfl
  refine { scanned := ?_, documented := ?_, places := ?_, oneSided := ?_, mismatch := ?_ }
  · rw [hscans, hscanRest, List.take_append_drop]
  · rw [hdocs, hdocRest, List.take_append_drop]
  · intro i pair hpair
    obtain ⟨p, -, rfl⟩ := Option.map_eq_some_iff.mp (List.getElem?_mapIdx ▸ hpair)
    rfl
  · rw [hscanRest, hdocRest, length_align_pairs, List.drop_eq_nil_iff, List.drop_eq_nil_iff]
    omega
  · intro m
    have hmismatch : (align fields docs).mismatch
        = if fields.length = docs.length then none else some ⟨fields.length, docs.length⟩ := rfl
    have hrest : (align fields docs).unmatchedScans ≠ [] ∨ (align fields docs).unmatchedDocs ≠ [] ↔
        fields.length ≠ docs.length := by
      rw [hscanRest, hdocRest, length_align_pairs, ne_eq, ne_eq, List.drop_eq_nil_iff,
        List.drop_eq_nil_iff]
      omega
    rw [hrest, hmismatch]
    split
    · next heq => exact ⟨nofun, fun h => absurd heq h.1⟩
    · next hne => exact ⟨fun h => ⟨hne, (Option.some.inj h).symm⟩, fun h => congrArg some h.2.symm⟩

namespace Alignment.Covers
variable {docs fields} (h : a.Covers fields docs)
include h

theorem length_pairs : a.pairs.length = min fields.length docs.length := by
  have hfields : a.pairs.length + a.unmatchedScans.length = fields.length := by
    rw [← h.scanned, List.length_append, List.length_map]
  have hdocs : a.pairs.length + a.unmatchedDocs.length = docs.length := by
    rw [← h.documented, List.length_append, List.length_map]
  rcases h.oneSided with hnil | hnil
  · rw [hnil, List.length_nil] at hfields
    omega
  · rw [hnil, List.length_nil] at hdocs
    omega

theorem eq_of_getElem? {i : Nat} {pair : AlignedField} (hpair : a.pairs[i]? = some pair) :
    pair.index = i ∧ fields[i]? = some pair.scan ∧ docs[i]? = some pair.doc := by
  obtain ⟨hi, -⟩ := List.getElem?_eq_some_iff.mp hpair
  refine ⟨h.places i pair hpair, ?_, ?_⟩
  · rw [← h.scanned, List.getElem?_append_left (by rwa [List.length_map]), List.getElem?_map, hpair,
      Option.map_some]
  · rw [← h.documented, List.getElem?_append_left (by rwa [List.length_map]), List.getElem?_map,
      hpair, Option.map_some]

theorem pairs_eq {b : Alignment} (hb : b.Covers fields docs) : a.pairs = b.pairs := by
  refine List.ext_getElem (h.length_pairs.trans hb.length_pairs.symm) fun i hi hi' => ?_
  obtain ⟨hindex, hscan, hdoc⟩ := h.eq_of_getElem? (List.getElem?_eq_getElem hi)
  obtain ⟨hindex', hscan', hdoc'⟩ := hb.eq_of_getElem? (List.getElem?_eq_getElem hi')
  calc a.pairs[i] = ⟨a.pairs[i].index, a.pairs[i].scan, a.pairs[i].doc⟩ := rfl
    _ = ⟨b.pairs[i].index, b.pairs[i].scan, b.pairs[i].doc⟩ := by
      rw [hindex.trans hindex'.symm, Option.some.inj (hscan.symm.trans hscan'),
        Option.some.inj (hdoc.symm.trans hdoc')]
    _ = b.pairs[i] := rfl

/-- **Two lists are covered in one way only**: the pairs are the same, so both rests are, and what is
said of the lengths. -/
theorem eq_of_covers {b : Alignment} (hb : b.Covers fields docs) : a = b := by
  have hpairs := h.pairs_eq hb
  have hscans : a.unmatchedScans = b.unmatchedScans := by
    have hboth := h.scanned.trans hb.scanned.symm
    rwa [hpairs, List.append_right_inj] at hboth
  have hdocs : a.unmatchedDocs = b.unmatchedDocs := by
    have hboth := h.documented.trans hb.documented.symm
    rwa [hpairs, List.append_right_inj] at hboth
  have hmismatch : a.mismatch = b.mismatch := by
    refine Option.ext fun m => ?_
    rw [h.mismatch, hb.mismatch, hscans, hdocs]
  calc a = ⟨a.pairs, a.unmatchedDocs, a.unmatchedScans, a.mismatch⟩ := rfl
    _ = ⟨b.pairs, b.unmatchedDocs, b.unmatchedScans, b.mismatch⟩ := by
      rw [hpairs, hscans, hdocs, hmismatch]
    _ = b := rfl

end Alignment.Covers

/-! ## strict alignments -/

theorem Alignment.strict_eq_ok {pairs : List AlignedField} :
    a.strict = .ok pairs ↔ a.mismatch = none ∧ pairs = a.pairs := by
  rw [strict]
  cases a.mismatch with
  | none => exact ⟨fun h => ⟨rfl, (Except.ok.inj h).symm⟩, fun h => congrArg Except.ok h.2.symm⟩
  | some mismatch => exact ⟨nofun, nofun⟩

theorem Alignment.strict_eq_error {m : CountMismatch} :
    a.strict = .error m ↔ a.mismatch = some m := by
  rw [strict]
  cases a.mismatch with
  | none => exact ⟨nofun, nofun⟩
  | some mismatch =>
    exact ⟨fun h => congrArg some (Except.error.inj h),
      fun h => congrArg Except.error (Option.some.inj h)⟩

/-- **Nothing is lost and nothing comes twice**, whatever the lengths: the alignment is the one that
covers both lists, cut where the shorter one ends; and its strict form has the pairs if there is no
mismatch, and the mismatch if there is one. -/
theorem align_exact :
    (align fields docs).Covers fields docs ∧
      (∀ a : Alignment, a.Covers fields docs ↔ a = align fields docs) ∧
      (align fields docs).pairs.length = min fields.length docs.length ∧
      (∀ pairs : List AlignedField, (align fields docs).strict = .ok pairs ↔
        (align fields docs).mismatch = none ∧ pairs = (align fields docs).pairs) ∧
      ∀ m : CountMismatch, (align fields docs).strict = .error m ↔
        (align fields docs).mismatch = some m := by
  have hall := covers_align docs fields
  refine ⟨hall, fun a => ⟨fun h => h.eq_of_covers hall, fun h => ?_⟩, hall.length_pairs,
    fun pairs => Alignment.strict_eq_ok, fun m => Alignment.strict_eq_error⟩
  rw [h]
  exact hall

end WireWrapper
