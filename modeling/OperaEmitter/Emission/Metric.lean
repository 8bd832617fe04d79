import OperaEmitter.Foundation.Validators

/-!
# Quorum progress metric

`scalarUpdMetric`, `updMetric`, `kickStartMetric` and `eventMetric` of the
emitter's metric file.  The piecewise functions `scalarUpdMetricF` and
`eventMetricF` are protocol tables of another file of the package, so they are
parameters here; each result states what it assumes of them.

A validator's credit for advancing its own sequence from `cur` to `upd` is a
difference of one potential, `progress`, which is zero up to the network
median and `scalarUpdMetric` of the distance above it.  Since the potential is
monotone, the marginal branch never wraps and credits along a chain of
sequence numbers telescope.
-/

namespace OperaEmitter.Emission

open OperaEmitter.Foundation

section ScalarUpdMetric

variable (scalarUpdMetricF : UInt64 → UInt64)

/-- A zero total weight is a division panic, `none` here. -/
def scalarUpdMetric (diff : Event) (weight totalWeight : Weight) : Option Metric :=
  goDiv (scalarUpdMetricF (diff.toUInt64 * DecimalUnit) * weight.toUInt64) totalWeight.toUInt64

def updMetric (median cur upd : Event) (validatorIdx : Validator)
    (validators : Validators) : Option Metric :=
  if upd ≤ median ∨ upd ≤ cur then some 0
  else do
    let weight ← validators.getWeightByIdx validatorIdx
    if median < cur then
      return (← scalarUpdMetric scalarUpdMetricF (upd - median) weight validators.totalWeight) -
        (← scalarUpdMetric scalarUpdMetricF (cur - median) weight validators.totalWeight)
    scalarUpdMetric scalarUpdMetricF (upd - median) weight validators.totalWeight

def scalarCredit (diff : Event) (weight totalWeight : Weight) : Nat :=
  (scalarUpdMetricF (diff.toUInt64 * DecimalUnit)).toNat * weight.toNat / totalWeight.toNat

/-- The credit of a validator's own sequence `x`: nothing up to the median,
then `scalarUpdMetric` of the distance above it. -/
def progress (median : Event) (weight totalWeight : Weight) (x : Event) : Nat :=
  if x ≤ median then 0
  else ((scalarUpdMetric scalarUpdMetricF (x - median) weight totalWeight).getD 0).toNat

variable {scalarUpdMetricF}

theorem scaled_toNat (diff : Event) :
    (diff.toUInt64 * DecimalUnit).toNat = diff.toNat * 1000000 := by
  have := UInt32.toNat_lt diff
  simp only [UInt64.toNat_mul, UInt32.toUInt64_toNat, DecimalUnit_toNat, UInt64.size_eq_two_pow]
  omega

theorem scalarUpdMetric_of_pos {totalWeight : Weight} (hW : 0 < totalWeight.toNat)
    (diff : Event) (weight : Weight) :
    scalarUpdMetric scalarUpdMetricF diff weight totalWeight =
      some (scalarUpdMetricF (diff.toUInt64 * DecimalUnit) * weight.toUInt64 /
        totalWeight.toUInt64) :=
  goDiv_of_pos hW

theorem scalarUpdMetric_isSome_iff (diff : Event) (weight totalWeight : Weight) :
    (scalarUpdMetric scalarUpdMetricF diff weight totalWeight).isSome ↔ 0 < totalWeight.toNat := by
  have : totalWeight.toUInt64 = 0 ↔ totalWeight.toNat = 0 := by
    rw [UInt64.ext_iff]
    simp
  simp only [scalarUpdMetric, goDiv]
  split <;> simp_all
  omega

theorem updMetric_isSome_iff (median cur upd : Event) (validatorIdx : Validator)
    (validators : Validators) :
    (updMetric scalarUpdMetricF median cur upd validatorIdx validators).isSome ↔
      (upd ≤ median ∨ upd ≤ cur) ∨
        (validatorIdx.toNat < validators.weights.length ∧ 0 < validators.totalWeight.toNat) := by
  by_cases h0 : upd ≤ median ∨ upd ≤ cur
  · simp [updMetric, h0]
  rw [updMetric, if_neg h0, ← Validators.getWeightByIdx_isSome_iff]
  simp only [h0, false_or, Option.bind_eq_bind]
  cases validators.getWeightByIdx validatorIdx with
  | none => simp
  | some w =>
      by_cases hW : 0 < validators.totalWeight.toNat
      · simp only [Option.some_bind, scalarUpdMetric_of_pos hW]
        split <;> simpa using hW
      · have hn : ∀ d, scalarUpdMetric scalarUpdMetricF d w validators.totalWeight = none :=
          fun d => Option.not_isSome_iff_eq_none.mp (mt (scalarUpdMetric_isSome_iff d w _).mp hW)
        simp only [Option.some_bind, hn]
        split <;> simpa using hW

section Bounded

variable (hle : ∀ x, scalarUpdMetricF x ≤ DecimalUnit)
include hle

theorem table_mul_weight_lt (x : UInt64) (weight : Weight) :
    (scalarUpdMetricF x).toNat * weight.toNat < 2 ^ 64 := by
  have hf : (scalarUpdMetricF x).toNat ≤ 1000000 := hle x
  have hw := UInt32.toNat_lt weight
  calc (scalarUpdMetricF x).toNat * weight.toNat
      ≤ 1000000 * weight.toNat := Nat.mul_le_mul_right _ hf
    _ < 2 ^ 64 := by omega

theorem scalarValue_toNat (diff : Event) (weight totalWeight : Weight) :
    (scalarUpdMetricF (diff.toUInt64 * DecimalUnit) * weight.toUInt64 /
        totalWeight.toUInt64).toNat =
      scalarCredit scalarUpdMetricF diff weight totalWeight := by
  have := table_mul_weight_lt hle (diff.toUInt64 * DecimalUnit) weight
  simp only [UInt64.toNat_div, UInt64.toNat_mul, UInt32.toUInt64_toNat, UInt64.size_eq_two_pow,
    Nat.mod_eq_of_lt this, scalarCredit]

theorem progress_eq {totalWeight : Weight} (hW : 0 < totalWeight.toNat)
    (median : Event) (weight : Weight) (x : Event) :
    progress scalarUpdMetricF median weight totalWeight x =
      if x ≤ median then 0 else scalarCredit scalarUpdMetricF (x - median) weight totalWeight := by
  simp only [progress, scalarUpdMetric_of_pos hW, Option.getD_some, scalarValue_toNat hle]

end Bounded

section Monotone

variable (hmono : ∀ x y, x ≤ y → scalarUpdMetricF x ≤ scalarUpdMetricF y)
include hmono

theorem table_scaled_mono {a b : Event} (hab : a.toNat ≤ b.toNat) :
    scalarUpdMetricF (a.toUInt64 * DecimalUnit) ≤ scalarUpdMetricF (b.toUInt64 * DecimalUnit) := by
  apply hmono
  rw [UInt64.le_iff_toNat_le, scaled_toNat, scaled_toNat]
  omega

theorem scalarCredit_mono {a b : Event} (hab : a.toNat ≤ b.toNat) (weight totalWeight : Weight) :
    scalarCredit scalarUpdMetricF a weight totalWeight ≤
      scalarCredit scalarUpdMetricF b weight totalWeight :=
  Nat.div_le_div_right (Nat.mul_le_mul_right _ (table_scaled_mono hmono hab))

omit hmono in
theorem marginal_dist_le {median cur upd : Event} (hmc : median.toNat < cur.toNat)
    (hcu : cur.toNat ≤ upd.toNat) : (cur - median).toNat ≤ (upd - median).toNat := by
  rw [UInt32.toNat_sub_of_le _ _ (by rw [UInt32.le_iff_toNat_le]; omega),
    UInt32.toNat_sub_of_le _ _ (by rw [UInt32.le_iff_toNat_le]; omega)]
  omega

theorem scalarCredit_marginal_le {median cur upd : Event} (hmc : median.toNat < cur.toNat)
    (hcu : cur.toNat ≤ upd.toNat) (weight totalWeight : Weight) :
    scalarCredit scalarUpdMetricF (cur - median) weight totalWeight ≤
      scalarCredit scalarUpdMetricF (upd - median) weight totalWeight :=
  scalarCredit_mono hmono (marginal_dist_le hmc hcu) _ _

variable (hle : ∀ x, scalarUpdMetricF x ≤ DecimalUnit)
include hle

theorem progress_mono {totalWeight : Weight} (hW : 0 < totalWeight.toNat)
    (median : Event) (weight : Weight) {x y : Event} (hxy : x ≤ y) :
    progress scalarUpdMetricF median weight totalWeight x ≤
      progress scalarUpdMetricF median weight totalWeight y := by
  rw [progress_eq hle hW, progress_eq hle hW]
  rw [UInt32.le_iff_toNat_le] at hxy
  split_ifs with hx hy hy
  · exact le_rfl
  · exact Nat.zero_le _
  · rw [UInt32.le_iff_toNat_le] at hx hy
    omega
  · rw [UInt32.le_iff_toNat_le] at hx
    exact scalarCredit_mono hmono (marginal_dist_le (by omega) hxy) _ _

theorem progress_sub_eq_zero {totalWeight : Weight} (hW : 0 < totalWeight.toNat)
    (median : Event) (weight : Weight) {cur upd : Event} (h : upd ≤ median ∨ upd ≤ cur) :
    progress scalarUpdMetricF median weight totalWeight upd -
      progress scalarUpdMetricF median weight totalWeight cur = 0 := by
  rcases h with h | h
  · simp [progress, h]
  · exact Nat.sub_eq_zero_of_le (progress_mono hmono hle hW median weight h)

theorem updMetric_toNat {V : Validators} (hW : 0 < V.totalWeight.toNat) {i : Validator}
    {w : Weight} (hw : V.getWeightByIdx i = some w) (median cur upd : Event) :
    (updMetric scalarUpdMetricF median cur upd i V).map UInt64.toNat =
      some (progress scalarUpdMetricF median w V.totalWeight upd -
        progress scalarUpdMetricF median w V.totalWeight cur) := by
  unfold updMetric
  by_cases h0 : upd ≤ median ∨ upd ≤ cur
  · rw [if_pos h0, progress_sub_eq_zero hmono hle hW median w h0]
    rfl
  rw [if_neg h0]
  simp only [not_or, UInt32.not_le, UInt32.lt_iff_toNat_lt] at h0
  have hum : ¬upd ≤ median := by rw [UInt32.le_iff_toNat_le]; omega
  simp only [hw, scalarUpdMetric_of_pos hW, Option.bind_eq_bind, Option.some_bind,
    progress_eq hle hW, hum, if_false]
  by_cases hmc : median < cur
  · rw [UInt32.lt_iff_toNat_lt] at hmc
    have hcm : ¬cur ≤ median := by rw [UInt32.le_iff_toNat_le]; omega
    have hsub := scalarCredit_marginal_le hmono hmc (Nat.le_of_lt h0.2) w V.totalWeight
    rw [← scalarValue_toNat hle, ← scalarValue_toNat hle, ← UInt64.le_iff_toNat_le] at hsub
    simp only [UInt32.lt_iff_toNat_lt, hmc, hcm, if_true, if_false, Option.pure_def,
      Option.map_some', UInt64.toNat_sub_of_le _ _ hsub, scalarValue_toNat hle]
  · have hcm : cur ≤ median := UInt32.not_lt.mp hmc
    simp [hmc, hcm, scalarValue_toNat hle]

section Credit

variable {V : Validators} (hW : 0 < V.totalWeight.toNat) {i : Validator} {w : Weight}
  (hw : V.getWeightByIdx i = some w) (median : Event)
include hW hw

theorem updMetric_getD (cur upd : Event) :
    ((updMetric scalarUpdMetricF median cur upd i V).getD 0).toNat =
      progress scalarUpdMetricF median w V.totalWeight upd -
        progress scalarUpdMetricF median w V.totalWeight cur := by
  have h := updMetric_toNat hmono hle hW hw median cur upd
  cases hu : updMetric scalarUpdMetricF median cur upd i V <;> simp_all

private theorem chain_credits_aux (c : Event) (cs : List Event) (hc : List.Chain (· < ·) c cs) :
    (((c :: cs).zip cs).map fun p =>
        ((updMetric scalarUpdMetricF median p.1 p.2 i V).getD 0).toNat).sum =
      progress scalarUpdMetricF median w V.totalWeight ((c :: cs).getLast (List.cons_ne_nil c cs)) -
        progress scalarUpdMetricF median w V.totalWeight c ∧
    progress scalarUpdMetricF median w V.totalWeight c ≤
      progress scalarUpdMetricF median w V.totalWeight ((c :: cs).getLast (List.cons_ne_nil c cs)) := by
  induction cs generalizing c with
  | nil => simp
  | cons d ds ih =>
      rw [List.chain_cons] at hc
      obtain ⟨hsum, hlast⟩ := ih d hc.2
      have hcd := progress_mono hmono hle hW median w (UInt32.le_iff_toNat_le.mpr
        (Nat.le_of_lt (UInt32.lt_iff_toNat_lt.mp hc.1)))
      simp only [List.zip_cons_cons, List.map_cons, List.sum_cons, List.getLast_cons_cons,
        updMetric_getD hmono hle hW hw] at hsum hlast ⊢
      omega

end Credit

/-- `updMetric` is the difference of one monotone potential: the marginal
branch never wraps, the credit grows with `upd` and shrinks with `cur`, and the
credits along a chain of sequence numbers add up to the credit of its ends. -/
theorem updMetric_eq_progress_sub {V : Validators} (hW : 0 < V.totalWeight.toNat)
    {i : Validator} {w : Weight} (hw : V.getWeightByIdx i = some w) (median : Event) :
    (∀ cur upd, (updMetric scalarUpdMetricF median cur upd i V).map UInt64.toNat =
        some (progress scalarUpdMetricF median w V.totalWeight upd -
          progress scalarUpdMetricF median w V.totalWeight cur)) ∧
    (∀ x y : Event, x ≤ y → progress scalarUpdMetricF median w V.totalWeight x ≤
        progress scalarUpdMetricF median w V.totalWeight y) ∧
    (∀ cur upd : Event, median < cur → cur < upd →
        ∃ a b, scalarUpdMetric scalarUpdMetricF (upd - median) w V.totalWeight = some a ∧
          scalarUpdMetric scalarUpdMetricF (cur - median) w V.totalWeight = some b ∧ b ≤ a) ∧
    (∀ cur upd upd' : Event, upd ≤ upd' →
        ((updMetric scalarUpdMetricF median cur upd i V).getD 0).toNat ≤
          ((updMetric scalarUpdMetricF median cur upd' i V).getD 0).toNat) ∧
    (∀ cur cur' upd : Event, cur ≤ cur' →
        ((updMetric scalarUpdMetricF median cur' upd i V).getD 0).toNat ≤
          ((updMetric scalarUpdMetricF median cur upd i V).getD 0).toNat) ∧
    (∀ (c : Event) (cs : List Event), List.Chain (· < ·) c cs →
        (((c :: cs).zip cs).map fun p =>
            ((updMetric scalarUpdMetricF median p.1 p.2 i V).getD 0).toNat).sum =
          ((updMetric scalarUpdMetricF median c
            ((c :: cs).getLast (List.cons_ne_nil c cs)) i V).getD 0).toNat) := by
  have credit := updMetric_getD hmono hle hW hw median
  have mono : ∀ {x y : Event}, x ≤ y → _ := progress_mono hmono hle hW median w
  refine ⟨updMetric_toNat hmono hle hW hw median, fun _ _ => mono, ?_, ?_, ?_, ?_⟩
  · intro cur upd hmc hcu
    refine ⟨_, _, scalarUpdMetric_of_pos hW _ _, scalarUpdMetric_of_pos hW _ _, ?_⟩
    rw [UInt64.le_iff_toNat_le, scalarValue_toNat hle, scalarValue_toNat hle]
    exact scalarCredit_marginal_le hmono hmc (Nat.le_of_lt hcu) _ _
  · intro cur upd upd' h
    have := mono h
    rw [credit, credit]
    omega
  · intro cur cur' upd h
    have := mono h
    rw [credit, credit]
    omega
  · intro c cs hc
    rw [credit]
    exact (chain_credits_aux hmono hle hW hw median c cs hc).1

end Monotone


/-- A table meeting both assumptions: a fifth of the scaled distance, capped at
one unit. -/
def fifthTable (x : UInt64) : UInt64 := if x / 5 ≤ DecimalUnit then x / 5 else DecimalUnit

theorem fifthTable_mono : ∀ x y, x ≤ y → fifthTable x ≤ fifthTable y := by
  intro x y hxy
  have h5 : (5 : UInt64).toNat = 5 := rfl
  rw [UInt64.le_iff_toNat_le] at hxy
  unfold fifthTable
  split_ifs <;> simp only [UInt64.le_iff_toNat_le, UInt64.toNat_div, DecimalUnit_toNat, h5] at * <;>
    omega

theorem fifthTable_le : ∀ x, fifthTable x ≤ DecimalUnit := by
  intro x
  unfold fifthTable
  split_ifs with h
  exacts [h, UInt64.le_refl _]

/-- Validator `1` of weight `10` after validator `2` of weight `9999990`, in
the library's order. -/
def pairValidators : Validators :=
  ⟨[2, 1], [9999990, 10], rfl, by decide, by decide, by decide, by decide⟩

theorem updMetric_eq_progress_sub_at_pair :
    (∀ x y, x ≤ y → fifthTable x ≤ fifthTable y) ∧ (∀ x, fifthTable x ≤ DecimalUnit) ∧
    0 < pairValidators.totalWeight.toNat ∧ pairValidators.getWeightByIdx 1 = some 10 ∧
    (updMetric fifthTable 0 4 5 1 pairValidators).map UInt64.toNat =
      some (progress fifthTable 0 10 pairValidators.totalWeight 5 -
        progress fifthTable 0 10 pairValidators.totalWeight 4) :=
  ⟨fifthTable_mono, fifthTable_le, by decide, rfl,
    (updMetric_eq_progress_sub fifthTable_mono fifthTable_le
      (show 0 < pairValidators.totalWeight.toNat by decide)
      (show pairValidators.getWeightByIdx 1 = some 10 from rfl) 0).1 4 5⟩

end ScalarUpdMetric

/-! ## Cold start -/

/-- The boost at the beginning of an epoch, when there is nothing to observe
yet. -/
def kickStartMetric (metric : Metric) (seq : Event) : Metric :=
  let metric :=
    if seq ≤ 2 ∧ metric < 9 * DecimalUnit / 10 then metric + DecimalUnit / 10 else metric
  if seq ≤ 1 ∧ metric ≤ 8 * DecimalUnit / 10 then metric + 2 * DecimalUnit / 10 else metric

def eventMetric (eventMetricF : UInt64 → UInt64) (orig : Metric) (seq : Event) : Metric :=
  kickStartMetric (eventMetricF orig) seq

/-- The least metric the boost guarantees at sequence number `seq`. -/
def kickStartFloor (seq : Event) : Nat :=
  if seq ≤ 1 then 300000 else if seq = 2 then 100000 else 0

theorem boost_toNat {p : Prop} [Decidable p] {metric b : UInt64}
    (hp : p → metric.toNat + b.toNat < 2 ^ 64) :
    (if p then metric + b else metric).toNat =
      if p then metric.toNat + b.toNat else metric.toNat := by
  by_cases h : p
  · rw [if_pos h, if_pos h, UInt64.toNat_add, UInt64.size_eq_two_pow, Nat.mod_eq_of_lt (hp h)]
  · rw [if_neg h, if_neg h]

theorem kickStartMetric_toNat (metric : Metric) (seq : Event) :
    (kickStartMetric metric seq).toNat =
      let m := if seq.toNat ≤ 2 ∧ metric.toNat < 900000 then metric.toNat + 100000
        else metric.toNat
      if seq.toNat ≤ 1 ∧ m ≤ 800000 then m + 200000 else m := by
  have h1 : (DecimalUnit / 10).toNat = 100000 := rfl
  have h2 : (2 * DecimalUnit / 10).toNat = 200000 := rfl
  have h8 : (8 * DecimalUnit / 10).toNat = 800000 := rfl
  have h9 : (9 * DecimalUnit / 10).toNat = 900000 := rfl
  have first : (if seq ≤ 2 ∧ metric < 9 * DecimalUnit / 10 then metric + DecimalUnit / 10
      else metric).toNat =
      if seq.toNat ≤ 2 ∧ metric.toNat < 900000 then metric.toNat + 100000 else metric.toNat := by
    rw [boost_toNat fun h => by have := UInt64.lt_iff_toNat_lt.mp h.2; omega, h1]
    exact if_congr Iff.rfl rfl rfl
  simp only [kickStartMetric]
  rw [boost_toNat fun h => by have := UInt64.le_iff_toNat_le.mp h.2; omega, first, h2]
  exact if_congr (and_congr Iff.rfl (by rw [UInt64.le_iff_toNat_le, first, h8])) rfl rfl

theorem kickStartMetric_bounds {metric : Metric} (hm : metric.toNat ≤ 1000000) (seq : Event) :
    max metric.toNat (kickStartFloor seq) ≤ (kickStartMetric metric seq).toNat ∧
      (kickStartMetric metric seq).toNat ≤ 1000000 := by
  have hseq : seq = 2 ↔ seq.toNat = 2 := ⟨fun h => h ▸ rfl, fun h => UInt32.toNat.inj h⟩
  have s1 : (1 : UInt32).toNat = 1 := rfl
  rw [kickStartMetric_toNat]
  dsimp only
  unfold kickStartFloor
  split_ifs <;> simp only [UInt32.le_iff_toNat_le, hseq, s1] at * <;> omega

end OperaEmitter.Emission
