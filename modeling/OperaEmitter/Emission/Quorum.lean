import OperaEmitter.Emission.Metric

/-!
# The metric over a whole validator set

The quorum indexer adds `updMetric` over every validator of the set.  With a
bounded, monotone table each validator's credit is at most its share
`DecimalUnit · w / W` of one unit, and a sum of floors is at most the floor of
the sum, so the aggregate stays within one unit.  A larger weight at the same
total weight raises a validator's credit, except in the marginal branch,
whose two terms are floored separately and may lose one unit of rounding.
-/

namespace OperaEmitter.Emission

open OperaEmitter.Foundation

theorem sum_div_le_div_sum (l : List Nat) (W : Nat) : (l.map (· / W)).sum ≤ l.sum / W := by
  induction l with
  | nil => simp
  | cons a l ih =>
      simp only [List.map_cons, List.sum_cons]
      exact (Nat.add_le_add_left ih _).trans (Nat.add_div_le_add_div _ _ _)

theorem sum_range_getD {α : Type} (l : List α) (d : α) (g : α → Nat) :
    ((List.range l.length).map fun i => g (l.getD i d)).sum = (l.map g).sum := by
  induction l with
  | nil => rfl
  | cons a l ih =>
      simp only [List.length_cons, List.range_succ_eq_map, List.map_cons, List.map_map,
        List.sum_cons, List.getD_cons_zero]
      exact congrArg (g a + ·) ih

theorem add_div_le_succ {W : Nat} (hW : 0 < W) (X Y : Nat) :
    (X + Y) / W ≤ X / W + Y / W + 1 := by
  rw [Nat.add_div hW]
  split_ifs <;> omega

theorem div_sub_div_le {A B W : Nat} (hW : 0 < W) (hBA : B ≤ A) (w : Nat) :
    A * w / W - B * w / W ≤ (A - B) * w / W + 1 := by
  have hsplit : A * w = (A - B) * w + B * w := by
    rw [← Nat.add_mul, Nat.sub_add_cancel hBA]
  have := add_div_le_succ hW ((A - B) * w) (B * w)
  rw [← hsplit] at this
  generalize A * w / W = p at *
  generalize (A - B) * w / W = q at *
  omega

theorem div_sub_div_mono {A B W : Nat} (hBA : B ≤ A) {w w' : Nat} (hww : w ≤ w') :
    (A - B) * w / W ≤ A * w' / W - B * w' / W := by
  have hsplit : A * w' = (A - B) * w' + B * w' := by
    rw [← Nat.add_mul, Nat.sub_add_cancel hBA]
  have h1 := Nat.add_div_le_add_div ((A - B) * w') (B * w') W
  have h2 : (A - B) * w / W ≤ (A - B) * w' / W :=
    Nat.div_le_div_right (Nat.mul_le_mul_left _ hww)
  rw [← hsplit] at h1
  generalize A * w' / W = p at *
  generalize (A - B) * w' / W = q at *
  omega

theorem sum_share_le_unit (V : Validators) (hW : 0 < V.totalWeight.toNat) :
    ((List.range V.weights.length).map fun i =>
      1000000 * (V.weights.getD i 0).toNat / V.totalWeight.toNat).sum ≤ 1000000 := calc
  _ = (V.weights.map fun w => 1000000 * w.toNat / V.totalWeight.toNat).sum :=
      sum_range_getD V.weights 0 fun w => 1000000 * w.toNat / V.totalWeight.toNat
  _ ≤ (V.weights.map fun w => 1000000 * w.toNat).sum / V.totalWeight.toNat := by
      simpa [List.map_map] using
        sum_div_le_div_sum (V.weights.map fun w => 1000000 * w.toNat) V.totalWeight.toNat
  _ = 1000000 := by
      rw [List.sum_map_mul_left, ← Validators.totalWeight_toNat, Nat.mul_div_cancel _ hW]

section Table

variable {scalarUpdMetricF : UInt64 → UInt64}
  (hmono : ∀ x y, x ≤ y → scalarUpdMetricF x ≤ scalarUpdMetricF y)
  (hle : ∀ x, scalarUpdMetricF x ≤ DecimalUnit)

include hle in
theorem progress_le_share {totalWeight : Weight} (hW : 0 < totalWeight.toNat) (median : Event)
    (weight : Weight) (x : Event) :
    progress scalarUpdMetricF median weight totalWeight x ≤
      1000000 * weight.toNat / totalWeight.toNat := by
  rw [progress_eq hle hW]
  split_ifs
  · exact Nat.zero_le _
  · exact Nat.div_le_div_right (Nat.mul_le_mul_right _ (hle _))

include hmono hle in
theorem updMetric_le_share {V : Validators} (hW : 0 < V.totalWeight.toNat) {i : Validator}
    {w : Weight} (hw : V.getWeightByIdx i = some w) (median cur upd : Event) :
    ∃ m, updMetric scalarUpdMetricF median cur upd i V = some m ∧
      m.toNat ≤ 1000000 * w.toNat / V.totalWeight.toNat := by
  obtain ⟨m, hm, hval⟩ := Option.map_eq_some'.mp (updMetric_toNat hmono hle hW hw median cur upd)
  exact ⟨m, hm, hval ▸ (Nat.sub_le _ _).trans (progress_le_share hle hW median w upd)⟩

theorem updMetric_le_share_at_pair :
    (∀ x y, x ≤ y → fifthTable x ≤ fifthTable y) ∧ (∀ x, fifthTable x ≤ DecimalUnit) ∧
    0 < pairValidators.totalWeight.toNat ∧ pairValidators.getWeightByIdx 1 = some 10 ∧
    ∃ m, updMetric fifthTable 0 4 5 1 pairValidators = some m ∧
      m.toNat ≤ 1000000 * (10 : Weight).toNat / pairValidators.totalWeight.toNat :=
  ⟨fifthTable_mono, fifthTable_le, by decide, rfl,
    updMetric_le_share fifthTable_mono fifthTable_le
      (show 0 < pairValidators.totalWeight.toNat by decide)
      (show pairValidators.getWeightByIdx 1 = some 10 from rfl) 0 4 5⟩

include hmono hle in
theorem sum_updMetric_le_unit (V : Validators) (hW : 0 < V.totalWeight.toNat)
    (median cur upd : Validator → Event) :
    (∃ ms : List Metric,
      ((List.range V.weights.length).map fun i =>
        updMetric scalarUpdMetricF (median (UInt32.ofNat i)) (cur (UInt32.ofNat i))
          (upd (UInt32.ofNat i)) (UInt32.ofNat i) V) = ms.map some ∧
      (ms.map UInt64.toNat).sum ≤ 1000000) ∧
    ∀ w ∈ V.weights, ∀ x, (scalarUpdMetricF x).toNat * w.toNat < 2 ^ 64 := by
  refine ⟨?_, fun w _ x => table_mul_weight_lt hle x w⟩
  have share : ∀ i < V.weights.length, ∃ m,
      updMetric scalarUpdMetricF (median (UInt32.ofNat i)) (cur (UInt32.ofNat i))
        (upd (UInt32.ofNat i)) (UInt32.ofNat i) V = some m ∧
      m.toNat ≤ 1000000 * (V.weights.getD i 0).toNat / V.totalWeight.toNat := fun i hi => by
    obtain ⟨m, hm, hval⟩ := Option.map_eq_some'.mp
      (updMetric_toNat hmono hle hW (V.getWeightByIdx_ofNat hi) _ _ _)
    rw [List.getD_eq_getElem _ _ hi]
    exact ⟨m, hm, hval ▸ (Nat.sub_le _ _).trans (progress_le_share hle hW _ _ _)⟩
  let credit := fun i => (updMetric scalarUpdMetricF (median (UInt32.ofNat i))
    (cur (UInt32.ofNat i)) (upd (UInt32.ofNat i)) (UInt32.ofNat i) V).getD 0
  refine ⟨(List.range V.weights.length).map credit, ?_, ?_⟩
  · rw [List.map_map]
    refine List.map_congr_left fun i hi => ?_
    obtain ⟨m, hm, -⟩ := share i (List.mem_range.mp hi)
    simp [credit, hm]
  · calc ((List.range V.weights.length).map credit |>.map UInt64.toNat).sum
        ≤ ((List.range V.weights.length).map fun i =>
            1000000 * (V.weights.getD i 0).toNat / V.totalWeight.toNat).sum := by
          rw [List.map_map]
          refine List.sum_le_sum fun i hi => ?_
          obtain ⟨m, hm, hle⟩ := share i (List.mem_range.mp hi)
          simpa [credit, hm] using hle
      _ ≤ 1000000 := sum_share_le_unit V hW

theorem sum_updMetric_le_unit_at_pair :
    (∀ x y, x ≤ y → fifthTable x ≤ fifthTable y) ∧ (∀ x, fifthTable x ≤ DecimalUnit) ∧
    0 < pairValidators.totalWeight.toNat ∧
    ∃ ms : List Metric,
      ((List.range pairValidators.weights.length).map fun i =>
        updMetric fifthTable 0 4 5 (UInt32.ofNat i) pairValidators) = ms.map some ∧
      (ms.map UInt64.toNat).sum ≤ 1000000 :=
  ⟨fifthTable_mono, fifthTable_le, by decide,
    (sum_updMetric_le_unit fifthTable_mono fifthTable_le pairValidators (by decide)
      (fun _ => 0) (fun _ => 4) (fun _ => 5)).1⟩

/-- A table bounded by one unit that is not monotone: one unit up to the first
scaled step, nothing above it. -/
def spikeTable (x : UInt64) : UInt64 := if x ≤ DecimalUnit then DecimalUnit else 0

def soloValidators : Validators := ⟨[1], [1], rfl, by decide, by decide, by decide, by decide⟩

/-- With a bound on the table alone, the marginal branch wraps: the only
validator's credit is `2^64 - 10^6`, so no list of credits sums to at most one
unit. -/
theorem sum_updMetric_wraps_without_monotone :
    (∀ x, spikeTable x ≤ DecimalUnit) ∧ 0 < soloValidators.totalWeight.toNat ∧
    ¬∃ ms : List Metric,
      ((List.range soloValidators.weights.length).map fun i =>
        updMetric spikeTable 0 1 2 (UInt32.ofNat i) soloValidators) = ms.map some ∧
      (ms.map UInt64.toNat).sum ≤ 1000000 := by
  refine ⟨fun x => ?_, by decide, ?_⟩
  · unfold spikeTable
    split
    exacts [UInt64.le_refl _, Nat.zero_le _]
  · rintro ⟨ms, hms, hsum⟩
    have hval : ((List.range soloValidators.weights.length).map fun i =>
        updMetric spikeTable 0 1 2 (UInt32.ofNat i) soloValidators) =
          [some 18446744073708551616] := by decide
    rw [hval] at hms
    match ms, hms with
    | [m], h =>
        simp only [List.map_cons, List.map_nil, List.cons.injEq, Option.some.injEq,
          and_true] at h
        subst h
        exact absurd hsum (by decide)

include hmono hle in
theorem updMetric_weight_mono {V V' : Validators} (hW : 0 < V.totalWeight.toNat)
    (htot : V'.totalWeight = V.totalWeight) {i : Validator} {w w' : Weight}
    (hw : V.getWeightByIdx i = some w) (hw' : V'.getWeightByIdx i = some w') (hww : w ≤ w')
    (median cur upd : Event) :
    ∃ m m', updMetric scalarUpdMetricF median cur upd i V = some m ∧
      updMetric scalarUpdMetricF median cur upd i V' = some m' ∧
      m.toNat ≤ m'.toNat + 1 ∧ (cur ≤ median → m.toNat ≤ m'.toNat) := by
  have h := updMetric_toNat hmono hle hW hw median cur upd
  have h' := updMetric_toNat hmono hle (htot ▸ hW) hw' median cur upd
  rw [htot] at h'
  obtain ⟨m, hm, hval⟩ := Option.map_eq_some'.mp h
  obtain ⟨m', hm', hval'⟩ := Option.map_eq_some'.mp h'
  refine ⟨m, m', hm, hm', ?_⟩
  rw [hval, hval']
  rw [UInt32.le_iff_toNat_le] at hww
  by_cases h0 : upd ≤ median ∨ upd ≤ cur
  · simp only [progress_sub_eq_zero hmono hle hW median _ h0]
    omega
  simp only [not_or, UInt32.not_le, UInt32.lt_iff_toNat_lt] at h0
  simp only [progress_eq hle hW, scalarCredit, UInt32.le_iff_toNat_le, show
    ¬upd.toNat ≤ median.toNat by omega, if_false]
  by_cases hcm : cur.toNat ≤ median.toNat
  · simp only [hcm, if_true, Nat.sub_zero, forall_const]
    have : _ / V.totalWeight.toNat ≤ _ / V.totalWeight.toNat :=
      Nat.div_le_div_right (Nat.mul_le_mul_left
        (scalarUpdMetricF ((upd - median).toUInt64 * DecimalUnit)).toNat hww)
    omega
  · simp only [hcm, if_false, IsEmpty.forall_iff, and_true]
    have hBA := UInt64.le_iff_toNat_le.mp (table_scaled_mono hmono
      (marginal_dist_le (Nat.lt_of_not_le hcm) (Nat.le_of_lt h0.2)))
    exact (div_sub_div_le hW hBA _).trans (Nat.add_le_add_right (div_sub_div_mono hBA hww) 1)

/-- `pairValidators` with three units of weight moved to validator `1`. -/
def pairValidatorsHeavier : Validators :=
  ⟨[2, 1], [9999987, 13], rfl, by decide, by decide, by decide, by decide⟩

/-- Moving from weight `10` to `13` out of `10^7`, at the marginal step from
sequence `4` to `5`, the credit drops from `1` to `0`. -/
theorem updMetric_weight_drops :
    (∀ x y, x ≤ y → fifthTable x ≤ fifthTable y) ∧ (∀ x, fifthTable x ≤ DecimalUnit) ∧
    pairValidatorsHeavier.totalWeight = pairValidators.totalWeight ∧
    0 < pairValidators.totalWeight.toNat ∧
    pairValidators.getWeightByIdx 1 = some 10 ∧ pairValidatorsHeavier.getWeightByIdx 1 = some 13 ∧
    updMetric fifthTable 0 4 5 1 pairValidators = some 1 ∧
    updMetric fifthTable 0 4 5 1 pairValidatorsHeavier = some 0 :=
  ⟨fifthTable_mono, fifthTable_le, by decide, by decide, rfl, rfl, by decide, by decide⟩

theorem updMetric_weight_mono_at_pair :
    (∀ x y, x ≤ y → fifthTable x ≤ fifthTable y) ∧ (∀ x, fifthTable x ≤ DecimalUnit) ∧
    0 < pairValidators.totalWeight.toNat ∧
    pairValidatorsHeavier.totalWeight = pairValidators.totalWeight ∧
    pairValidators.getWeightByIdx 1 = some 10 ∧ pairValidatorsHeavier.getWeightByIdx 1 = some 13 ∧
    (10 : Weight) ≤ 13 ∧
    ∃ m m', updMetric fifthTable 0 4 5 1 pairValidators = some m ∧
      updMetric fifthTable 0 4 5 1 pairValidatorsHeavier = some m' ∧
      m.toNat ≤ m'.toNat + 1 ∧ ((4 : Event) ≤ 0 → m.toNat ≤ m'.toNat) :=
  ⟨fifthTable_mono, fifthTable_le, by decide, by decide, rfl, rfl, by decide,
    updMetric_weight_mono fifthTable_mono fifthTable_le
      (show 0 < pairValidators.totalWeight.toNat by decide)
      (show pairValidatorsHeavier.totalWeight = pairValidators.totalWeight by decide)
      (show pairValidators.getWeightByIdx 1 = some 10 from rfl)
      (show pairValidatorsHeavier.getWeightByIdx 1 = some 13 from rfl) (by decide) 0 4 5⟩

end Table

end OperaEmitter.Emission
