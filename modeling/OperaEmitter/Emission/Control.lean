import OperaEmitter.Emission.Metric

/-!
# The emission predicate

`isAllowedToEmit` decides whether the emitter creates its next event now, and
`recheckIdleTime` is the one mutator of the idle timestamp shown.  The records
below hold the fields of the emitter, its configuration, the world and the
events that these functions read.

The derived quantities of the predicate are definitions of their own, so that
each can be stated about.  The float64 interpolation of the low-power slowdown
is a parameter: its value only chooses which of two `return true` statements
is reached.
-/

namespace OperaEmitter.Emission

open OperaEmitter.Foundation

structure EmitIntervals where
  min : Int
  max : Int
  confirming : Int

structure Config where
  validatorID : ValidatorID
  emergencyThreshold : UInt64
  noTxsThreshold : UInt64

/-- What the predicate asks of `em.world`: `GetLatestBlockIndex()` and the
current rules' `Economy.BlockMissedSlack`. -/
structure World where
  latestBlockIndex : Block
  blockMissedSlack : Block

/-- The emitter's state; `idle` is the value of `em.idle()`. -/
structure Emitter where
  config : Config
  intervals : EmitIntervals
  world : World
  validators : Validators
  stakeRatio : ValidatorID → UInt64
  prevEmittedAtTime : Time
  prevEmittedAtBlock : Block
  prevIdleTime : Time
  idle : Bool

/-- An event as the predicate reads it: `CreationTime()`, `Creator()` and
`GasPowerLeft().Min()`. -/
structure EventI where
  creationTime : Timestamp
  creator : ValidatorID
  gasPowerLeftMin : UInt64

def top50 (slice : List ValidatorID) : List ValidatorID :=
  if slice.length > 50 then slice.take 50 else slice

def isInTop50 (number : ValidatorID) (slice : List ValidatorID) : Bool :=
  (top50 slice).any (· == number)

/-! ## Derived quantities -/

/-- The elapsed time since `prev`; a negative delta counts as zero. -/
def passedSince (now prev : Time) : Int :=
  let passedTime := now.sub prev
  if passedTime < 0 then 0 else passedTime

theorem passedSince_mem (now prev : Time) :
    0 ≤ passedSince now prev ∧ passedSince now prev ≤ maxDuration := by
  have := Time.sub_le_maxDuration now prev
  simp only [passedSince]
  split <;> simp only [maxDuration] at * <;> omega

/-- `time.Duration(ancestor.Metric(passedTime/piecefunc.DecimalUnit) * metric)`. -/
def adjustedTime (passedTime : Int) (metric : Metric) : Int :=
  int64OfUInt64 (uint64OfInt64 (passedTime.tdiv DecimalUnit.toNat) * metric)

theorem millis_mul_le (n : Nat) {m : Nat} (hm : m ≤ 1000000) : n / 1000000 * m ≤ n := calc
  n / 1000000 * m ≤ n / 1000000 * 1000000 := Nat.mul_le_mul_left _ hm
  _ ≤ n := Nat.div_mul_le_self n 1000000

theorem adjustedTime_eq {n : Nat} (hn : (n : Int) ≤ maxDuration) {metric : Metric}
    (hm : metric.toNat ≤ 1000000) :
    adjustedTime n metric = ((n / 1000000 * metric.toNat : Nat) : Int) := by
  have hn' : n ≤ 2 ^ 63 - 1 := by simp only [maxDuration] at hn; omega
  have hq : (uint64OfInt64 (Int.tdiv n DecimalUnit.toNat)).toNat = n / 1000000 := by
    rw [DecimalUnit_toNat, ← Int.ofNat_tdiv, uint64OfInt64_toNat (by omega) (by
      simp only [maxDuration]; omega)]
    omega
  have hprod := millis_mul_le n hm
  have hval : (uint64OfInt64 (Int.tdiv n DecimalUnit.toNat) * metric).toNat =
      n / 1000000 * metric.toNat := by
    rw [UInt64.toNat_mul, hq, UInt64.size_eq_two_pow]
    exact Nat.mod_eq_of_lt (by omega)
  rw [adjustedTime, int64OfUInt64_of_le (by rw [hval, maxDuration]; omega), hval]

theorem adjustedTime_mem {p : Int} (h0 : 0 ≤ p) (h1 : p ≤ maxDuration) {metric : Metric}
    (hm : metric.toNat ≤ 1000000) :
    adjustedTime p metric = ((p.toNat / 1000000 * metric.toNat : Nat) : Int) ∧
      0 ≤ adjustedTime p metric ∧ adjustedTime p metric ≤ p := by
  obtain ⟨n, rfl⟩ := Int.eq_ofNat_of_zero_le h0
  have := millis_mul_le n hm
  rw [adjustedTime_eq h1 hm, Int.toNat_ofNat]
  omega

theorem adjustedTime_mem_at_unit :
    (0 : Int) ≤ 5000000 ∧ (5000000 : Int) ≤ maxDuration ∧ DecimalUnit.toNat ≤ 1000000 ∧
      adjustedTime 5000000 DecimalUnit =
        (((5000000 : Int).toNat / 1000000 * DecimalUnit.toNat : Nat) : Int) ∧
      0 ≤ adjustedTime 5000000 DecimalUnit ∧ adjustedTime 5000000 DecimalUnit ≤ 5000000 :=
  ⟨by decide, by decide, le_rfl,
    adjustedTime_mem (show (0 : Int) ≤ 5000000 by decide)
      (show (5000000 : Int) ≤ maxDuration by decide) (show DecimalUnit.toNat ≤ 1000000 from le_rfl)⟩

/-- The scaled elapsed time is the exact product `⌊p / 10^6⌋ · m`: neither the
`uint64` product nor the conversion back to a duration wraps. -/
theorem eventMetric_bounds {eventMetricF : UInt64 → UInt64}
    (hle : ∀ x, eventMetricF x ≤ DecimalUnit) (orig : Metric) (seq : Event) :
    max (eventMetricF orig).toNat (kickStartFloor seq) ≤ (eventMetric eventMetricF orig seq).toNat ∧
    (eventMetric eventMetricF orig seq).toNat ≤ 1000000 ∧
    ∀ p : Int, 0 ≤ p → p ≤ maxDuration →
      adjustedTime p (eventMetric eventMetricF orig seq) =
        ((p.toNat / 1000000 * (eventMetric eventMetricF orig seq).toNat : Nat) : Int) ∧
      0 ≤ adjustedTime p (eventMetric eventMetricF orig seq) ∧
        adjustedTime p (eventMetric eventMetricF orig seq) ≤ p := by
  obtain ⟨hlo, hhi⟩ : _ ∧ (eventMetric eventMetricF orig seq).toNat ≤ 1000000 :=
    kickStartMetric_bounds (hle orig) seq
  refine ⟨hlo, hhi, fun p h0 h1 => ?_⟩
  obtain ⟨n, rfl⟩ := Int.eq_ofNat_of_zero_le h0
  have := millis_mul_le n hhi
  rw [adjustedTime_eq h1 hhi, Int.toNat_ofNat]
  omega

theorem eventMetric_bounds_at_start :
    (∀ x, fifthTable x ≤ DecimalUnit) ∧
    max (fifthTable 0).toNat (kickStartFloor 1) ≤ (eventMetric fifthTable 0 1).toNat ∧
    (eventMetric fifthTable 0 1).toNat ≤ 1000000 ∧
    ∀ p : Int, 0 ≤ p → p ≤ maxDuration →
      adjustedTime p (eventMetric fifthTable 0 1) =
        ((p.toNat / 1000000 * (eventMetric fifthTable 0 1).toNat : Nat) : Int) ∧
      0 ≤ adjustedTime p (eventMetric fifthTable 0 1) ∧ adjustedTime p (eventMetric fifthTable 0 1) ≤ p :=
  ⟨fifthTable_le, eventMetric_bounds fifthTable_le 0 1⟩

/-- Lines 595-604: the stake-tier blending of the idle time. -/
def blendIdleTime (stakeRatio : UInt64) (passedTime passedTimeIdle : Int) : Int :=
  let passedTimeIdle :=
    if stakeRatio < 35 * DecimalUnit / 100 then passedTime
    else if stakeRatio < 7 * DecimalUnit / 10 then (int64 (passedTimeIdle + passedTime)).tdiv 2
    else passedTimeIdle
  if passedTimeIdle > passedTime then passedTime else passedTimeIdle

theorem blendIdleTime_mem (stakeRatio : UInt64) {passedTime passedTimeIdle : Int}
    (h0 : 0 ≤ passedTime) (h0' : 0 ≤ passedTimeIdle) :
    blendIdleTime stakeRatio passedTime passedTimeIdle ≤ passedTime ∧
      (passedTimeIdle + passedTime ≤ maxDuration →
        0 ≤ blendIdleTime stakeRatio passedTime passedTimeIdle) := by
  simp only [blendIdleTime]
  split_ifs with h1 h2 h3 <;> refine ⟨by omega, fun hsum => ?_⟩ <;> try omega
  all_goals
    rw [int64_of_mem (by simp only [minDuration]; omega) hsum,
      Int.tdiv_eq_ediv (by omega) (by decide)] at *
    omega

theorem blendIdleTime_mem_at_half :
    (0 : Int) ≤ 5 ∧ (0 : Int) ≤ 3 ∧ blendIdleTime 500000 5 3 ≤ 5 ∧
      ((3 : Int) + 5 ≤ maxDuration → 0 ≤ blendIdleTime 500000 5 3) :=
  ⟨by decide, by decide, blendIdleTime_mem 500000 (by decide) (by decide)⟩

theorem passedSince_zero (t : Timestamp) : passedSince t.time Time.zero = maxDuration := by
  have := int64_mem t.toNat
  simp only [passedSince, Time.sub, Timestamp.time, Time.zero, minDuration, maxDuration] at *
  split_ifs <;> omega

/-- Since the zero `time.Time` more than `maxDuration` has passed at every
timestamp, so both elapsed times saturate; a middle-tier stake ratio then wraps
the `int64` sum of the average, and the blended idle time is `-1`. -/
theorem blendIdleTime_wraps_at_saturation (t : Timestamp) :
    passedSince t.time Time.zero = maxDuration ∧
    blendIdleTime 500000 (passedSince t.time Time.zero) (passedSince t.time Time.zero) = -1 := by
  rw [passedSince_zero]
  exact ⟨rfl, by decide⟩

/-- Lines 618-624: the block budget of the liveness override. -/
def maxBlocks (blockMissedSlack : Block) : Block :=
  let maxBlocks := blockMissedSlack / 2 + 1
  if blockMissedSlack > maxBlocks ∧ maxBlocks < blockMissedSlack - 5 then blockMissedSlack - 5
  else maxBlocks

theorem maxBlocks_toNat (s : Block) :
    (maxBlocks s).toNat =
      if s.toNat / 2 + 1 < s.toNat ∧ s.toNat / 2 + 1 < (s.toNat + (2 ^ 64 - 5)) % 2 ^ 64
      then (s.toNat + (2 ^ 64 - 5)) % 2 ^ 64 else s.toNat / 2 + 1 := by
  have hs := UInt64.toNat_lt s
  have hm : (s / 2 + 1).toNat = s.toNat / 2 + 1 := by
    rw [UInt64.toNat_add, UInt64.toNat_div]
    exact Nat.mod_eq_of_lt (show s.toNat / 2 + 1 < 2 ^ 64 by omega)
  have hw : (s - 5).toNat = (s.toNat + (2 ^ 64 - 5)) % 2 ^ 64 := by
    rw [UInt64.toNat_sub]
    show (2 ^ 64 - 5 + s.toNat) % 2 ^ 64 = _
    omega
  simp only [maxBlocks]
  split_ifs with h1 h2 h2 <;> simp only [gt_iff_lt, UInt64.lt_iff_toNat_lt, hm, hw] at * <;> omega

theorem maxBlocks_spec (s : Block) :
    (5 ≤ s.toNat → (maxBlocks s).toNat = max (s.toNat / 2 + 1) (s.toNat - 5)) ∧
    (s.toNat ≤ 2 → (maxBlocks s).toNat = s.toNat / 2 + 1) ∧
    ((maxBlocks s).toNat < 2 ^ 62 →
      (maxBlocks s * 4 / 5).toNat = 4 * (maxBlocks s).toNat / 5) := by
  have hs := UInt64.toNat_lt s
  refine ⟨fun h => ?_, fun h => ?_, fun h => ?_⟩
  · rw [maxBlocks_toNat]
    split <;> omega
  · rw [maxBlocks_toNat]
    split <;> omega
  · rw [UInt64.toNat_div, UInt64.toNat_mul]
    show (maxBlocks s).toNat * 4 % 2 ^ 64 / 5 = _
    omega

/-- A slack of `3` or `4` passes the guard `s > maxBlocks` and wraps `s - 5`,
and a slack of `2^62 + 5` wraps the early threshold `maxBlocks * 4` to zero. -/
theorem maxBlocks_wraps :
    maxBlocks 3 = 18446744073709551614 ∧ maxBlocks 4 = 18446744073709551615 ∧
    maxBlocks 4611686018427387909 = 4611686018427387904 ∧
    maxBlocks 4611686018427387909 * 4 / 5 = 0 :=
  ⟨by decide, by decide, by decide, by decide⟩

/-! ## The predicate -/

/-- Lines 606-617: a self-parent with more gas power left than the candidate. -/
def powerDecreasing (e : EventI) (selfParent : Option EventI) : Bool :=
  match selfParent with
  | some p => e.gasPowerLeftMin < p.gasPowerLeftMin
  | none => false

section Predicate

variable (adjustedEmitInterval : Int → Int → UInt64 → UInt64 → Int)

/-- `adjustedEmitInterval` is the float64 interpolation of the low-power
slowdown, from `intervals.Min`, `intervals.Max`, the candidate's gas power and
the threshold. -/
def isAllowedToEmit (em : Emitter) (e : EventI) (eTxs : Bool) (metric : Metric)
    (selfParent : Option EventI) : Bool :=
  let passedTime := passedSince e.creationTime.time em.prevEmittedAtTime
  let passedTimeIdle := passedSince e.creationTime.time em.prevIdleTime
  let adjustedPassedTime := adjustedTime passedTime metric
  let adjustedPassedIdleTime := adjustedTime passedTimeIdle metric
  let passedBlocks := em.world.latestBlockIndex - em.prevEmittedAtBlock
  let supermajority :=
    if e.creator = em.config.validatorID ∧ !isInTop50 e.creator em.validators.sortedIDs then true
    else true
  if supermajority then
    let _passedTimeIdle := blendIdleTime (em.stakeRatio e.creator) passedTime passedTimeIdle
    if e.gasPowerLeftMin ≤ em.config.emergencyThreshold ∧ powerDecreasing e selfParent then false
    else if passedTime ≥ em.intervals.max ∨
        passedBlocks ≥ maxBlocks em.world.blockMissedSlack * 4 / 5 ∧ metric ≥ DecimalUnit / 2 ∨
        passedBlocks ≥ maxBlocks em.world.blockMissedSlack then true
    else if e.gasPowerLeftMin ≤ (em.config.noTxsThreshold + em.config.emergencyThreshold) / 2 ∧
        passedTime < adjustedEmitInterval em.intervals.min em.intervals.max e.gasPowerLeftMin
          ((em.config.noTxsThreshold + em.config.emergencyThreshold) / 2) then true
    else if passedTime < em.intervals.max ∧ em.idle ∧ !eTxs then true
    else if passedTime < em.intervals.min then true
    else if adjustedPassedTime < em.intervals.min ∧ !em.idle then true
    else if adjustedPassedIdleTime < em.intervals.confirming ∧ !em.idle ∧ !eTxs then true
    else true
  else if passedTime ≥ em.intervals.max then true
  else false

end Predicate

/-- Under the world lock, an idle emitter records `now` as its idle time. -/
def recheckIdleTime (em : Emitter) (now : Time) : Emitter :=
  if em.idle then { em with prevIdleTime := now } else em

end OperaEmitter.Emission
