import OperaEmitter.Foundation.GoInt

/-!
# Validator sets

`pos.Validators` of lachesis-base, as the emitter reads it: the validator IDs
in the set's sorted order (`SortedIDs`), the weight at each index
(`GetWeightByIdx`) and their sum (`TotalWeight`).  A set that the library
builds satisfies the fields below.  The IDs are the keys of a map, so they are
distinct.  The builder deletes an ID set to weight zero.  The caches sort by
descending weight, then ascending ID.  They panic when the `uint32` total
overflows or exceeds `MaxUint32/2`.
-/

namespace OperaEmitter.Foundation

structure Validators where
  sortedIDs : List ValidatorID
  weights : List Weight
  length_eq : sortedIDs.length = weights.length
  ids_nodup : sortedIDs.Nodup
  sorted : (weights.zip sortedIDs).Pairwise fun a b => b.1 < a.1 ∨ a.1 = b.1 ∧ a.2 < b.2
  weights_pos : ∀ w ∈ weights, 0 < w
  total_le : (weights.map UInt32.toNat).sum ≤ 2 ^ 31 - 1

namespace Validators

def totalWeight (vv : Validators) : Weight :=
  UInt32.ofNat (vv.weights.map UInt32.toNat).sum

/-- `GetWeightByIdx`: an index past the end panics, `none` here. -/
def getWeightByIdx (vv : Validators) (i : Validator) : Option Weight :=
  vv.weights[i.toNat]?

@[simp] theorem totalWeight_toNat (vv : Validators) :
    vv.totalWeight.toNat = (vv.weights.map UInt32.toNat).sum :=
  UInt32.toNat_ofNat_of_lt (by have := vv.total_le; simp only [UInt32.size]; omega)

/-- Distinct `uint32` IDs: every position of a set is an `idx.Validator`. -/
theorem length_le (vv : Validators) : vv.weights.length ≤ 2 ^ 32 := by
  have hinj : Function.Injective UInt32.val := fun _ _ => UInt32.eq_of_val_eq
  have h := (vv.ids_nodup.map hinj).length_le_card
  simp only [List.length_map, Fintype.card_fin] at h
  exact vv.length_eq ▸ h

theorem getWeightByIdx_ofNat (vv : Validators) {i : Nat} (hi : i < vv.weights.length) :
    vv.getWeightByIdx (UInt32.ofNat i) = some vv.weights[i] := by
  have : (UInt32.ofNat i).toNat = i :=
    UInt32.toNat_ofNat_of_lt (by have := vv.length_le; simp only [UInt32.size]; omega)
  simp only [getWeightByIdx, this, List.getElem?_eq_getElem hi]

theorem getWeightByIdx_isSome_iff (vv : Validators) (i : Validator) :
    (vv.getWeightByIdx i).isSome ↔ i.toNat < vv.weights.length := by
  rw [getWeightByIdx, Option.isSome_iff_exists]
  simp only [List.getElem?_eq_some_iff]
  exact ⟨fun ⟨_, h, _⟩ => h, fun h => ⟨_, h, rfl⟩⟩

end Validators

end OperaEmitter.Foundation
