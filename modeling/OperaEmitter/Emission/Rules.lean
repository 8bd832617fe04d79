import OperaEmitter.Emission.Control

/-!
# Which rule decides

`isAllowedToEmit` tries its rules in a fixed order and the first whose guard
holds decides.  `emitRules` lists the guards of lines 606-667 in that order,
and `firstRule` finds the deciding rule, which names the `return` statement
that runs.  The value that statement returns is `EmitRule.allows`.

Only the emergency rule returns `false`, so the predicate defers exactly when
the candidate is low on gas power and below its self-parent, whatever the
elapsed times, blocks, metric or idle state.  The idle mark that
`recheckIdleTime` writes therefore never changes a verdict.
-/

namespace OperaEmitter.Emission

open OperaEmitter.Foundation

inductive EmitRule where
  | emergency
  | liveness
  | lowPower
  | noTxs
  | belowMin
  | adjustedBelowMin
  | idleBelowConfirming
  | fallthrough
  deriving DecidableEq, Repr

def EmitRule.allows : EmitRule → Bool
  | .emergency => false
  | _ => true

def firstRule : List (EmitRule × Bool) → EmitRule
  | [] => .fallthrough
  | (rule, guard) :: rules => if guard then rule else firstRule rules

theorem firstRule_allows {rules : List (EmitRule × Bool)}
    (h : ∀ p ∈ rules, p.1 ≠ .emergency) : (firstRule rules).allows = true := by
  induction rules with
  | nil => rfl
  | cons p rules ih =>
      obtain ⟨rule, guard⟩ := p
      simp only [List.mem_cons, forall_eq_or_imp] at h
      simp only [firstRule]
      split
      · cases rule <;> simp_all [EmitRule.allows]
      · exact ih h.2

theorem firstRule_emergency_allows (guard : Bool) {rules : List (EmitRule × Bool)}
    (h : ∀ p ∈ rules, p.1 ≠ .emergency) :
    (firstRule ((.emergency, guard) :: rules)).allows = !guard := by
  cases guard
  · show (firstRule rules).allows = true
    exact firstRule_allows h
  · rfl

section Predicate

variable (adjustedEmitInterval : Int → Int → UInt64 → UInt64 → Int)

/-- The guard of the emergency rule: not enough gas power, and less than the
self-parent had. -/
def emergencyDefer (em : Emitter) (e : EventI) (selfParent : Option EventI) : Bool :=
  decide (e.gasPowerLeftMin ≤ em.config.emergencyThreshold) && powerDecreasing e selfParent

/-- The rules with their guards, in the order the source tries them. -/
def emitRules (em : Emitter) (e : EventI) (eTxs : Bool) (metric : Metric)
    (selfParent : Option EventI) : List (EmitRule × Bool) :=
  let passedTime := passedSince e.creationTime.time em.prevEmittedAtTime
  let passedTimeIdle := passedSince e.creationTime.time em.prevIdleTime
  let passedBlocks := em.world.latestBlockIndex - em.prevEmittedAtBlock
  let threshold := (em.config.noTxsThreshold + em.config.emergencyThreshold) / 2
  [(.emergency, emergencyDefer em e selfParent),
   (.liveness, decide (passedTime ≥ em.intervals.max ∨
      passedBlocks ≥ maxBlocks em.world.blockMissedSlack * 4 / 5 ∧ metric ≥ DecimalUnit / 2 ∨
      passedBlocks ≥ maxBlocks em.world.blockMissedSlack)),
   (.lowPower, decide (e.gasPowerLeftMin ≤ threshold ∧ passedTime <
      adjustedEmitInterval em.intervals.min em.intervals.max e.gasPowerLeftMin threshold)),
   (.noTxs, decide (passedTime < em.intervals.max) && em.idle && !eTxs),
   (.belowMin, decide (passedTime < em.intervals.min)),
   (.adjustedBelowMin, decide (adjustedTime passedTime metric < em.intervals.min) && !em.idle),
   (.idleBelowConfirming, decide (adjustedTime passedTimeIdle metric < em.intervals.confirming) &&
      !em.idle && !eTxs)]

theorem firstRule_emitRules_allows (em : Emitter) (e : EventI) (eTxs : Bool) (metric : Metric)
    (selfParent : Option EventI) :
    (firstRule (emitRules adjustedEmitInterval em e eTxs metric selfParent)).allows =
      !emergencyDefer em e selfParent :=
  firstRule_emergency_allows _ (by simp)

theorem isAllowedToEmit_eq_firstRule (em : Emitter) (e : EventI) (eTxs : Bool)
    (metric : Metric) (selfParent : Option EventI) :
    isAllowedToEmit adjustedEmitInterval em e eTxs metric selfParent =
      (firstRule (emitRules adjustedEmitInterval em e eTxs metric selfParent)).allows := by
  rw [firstRule_emitRules_allows]
  by_cases h : e.gasPowerLeftMin ≤ em.config.emergencyThreshold ∧ powerDecreasing e selfParent
  · have hd : emergencyDefer em e selfParent = true := by simpa [emergencyDefer] using h
    simp only [isAllowedToEmit, ite_self, if_true, if_pos h, hd, Bool.not_true]
  · have hd : emergencyDefer em e selfParent = false := by simpa [emergencyDefer] using h
    simp only [isAllowedToEmit, ite_self, if_true, if_neg h, hd, Bool.not_false]

theorem isAllowedToEmit_eq (em : Emitter) (e : EventI) (eTxs : Bool) (metric : Metric)
    (selfParent : Option EventI) :
    isAllowedToEmit adjustedEmitInterval em e eTxs metric selfParent =
      !emergencyDefer em e selfParent := by
  rw [isAllowedToEmit_eq_firstRule, firstRule_emitRules_allows]

/-! ## An idle emitter without transactions -/

/-- An idle emitter whose last event and idle mark are at time `0`, with
cadence bounds `1`, `2` and `1`, no block slack and no gas thresholds. -/
def quietEmitter : Emitter where
  config := ⟨0, 0, 0⟩
  intervals := ⟨1, 2, 1⟩
  world := ⟨0, 0⟩
  validators := ⟨[], [], rfl, List.nodup_nil, by decide, by decide, by decide⟩
  stakeRatio := fun _ => 0
  prevEmittedAtTime := ⟨0⟩
  prevEmittedAtBlock := 0
  prevIdleTime := ⟨0⟩
  idle := true

def quietEvent : EventI := ⟨0, 0, 100⟩

theorem isAllowedToEmit_quiet_emits :
    emergencyDefer quietEmitter quietEvent none = false ∧
    passedSince quietEvent.creationTime.time quietEmitter.prevEmittedAtTime <
      quietEmitter.intervals.max ∧
    quietEmitter.world.latestBlockIndex - quietEmitter.prevEmittedAtBlock <
      maxBlocks quietEmitter.world.blockMissedSlack ∧
    (0 : Metric) < DecimalUnit / 2 ∧
    passedSince quietEvent.creationTime.time quietEmitter.prevEmittedAtTime <
      quietEmitter.intervals.min ∧
    quietEmitter.idle = true ∧
    firstRule (emitRules (fun _ _ _ _ => 0) quietEmitter quietEvent false 0 none) = .noTxs ∧
    isAllowedToEmit (fun _ _ _ _ => 0) quietEmitter quietEvent false 0 none = true :=
  ⟨rfl, by decide, by decide, by decide, by decide, rfl, by decide, by decide⟩

end Predicate

/-! ## The idle recheck

`recheckIdleTime` is the only mutator of the emitter's state shown; a run
calls it at a sequence of clock readings. -/

/-- `recheckIdleTime` called at each clock reading of `nows` in turn. -/
def recheckIdleTimes (em : Emitter) (nows : List Time) : Emitter :=
  nows.foldl recheckIdleTime em

theorem recheckIdleTime_eq (em : Emitter) (now : Time) :
    recheckIdleTime em now = { em with prevIdleTime := if em.idle then now else em.prevIdleTime } := by
  obtain ⟨_, _, _, _, _, _, _, _, _ | _⟩ := em <;> rfl

theorem recheckIdleTimes_eq (em : Emitter) (nows : List Time) :
    recheckIdleTimes em nows =
      { em with prevIdleTime := if em.idle then nows.getLastD em.prevIdleTime else em.prevIdleTime } := by
  induction nows generalizing em with
  | nil => obtain ⟨_, _, _, _, _, _, _, _, _ | _⟩ := em <;> rfl
  | cons now nows ih =>
      show recheckIdleTimes (recheckIdleTime em now) nows = _
      rw [ih, recheckIdleTime_eq, List.getLastD_cons]
      obtain ⟨_, _, _, _, _, _, _, _, _ | _⟩ := em <;> rfl

theorem recheckIdleTimes_spec (em : Emitter) (nows : List Time) :
    recheckIdleTimes em nows =
      { em with prevIdleTime := if em.idle then nows.getLastD em.prevIdleTime else em.prevIdleTime } ∧
    ∀ adjustedEmitInterval e eTxs metric selfParent,
      isAllowedToEmit adjustedEmitInterval (recheckIdleTimes em nows) e eTxs metric selfParent =
        isAllowedToEmit adjustedEmitInterval em e eTxs metric selfParent := by
  refine ⟨recheckIdleTimes_eq em nows, fun adjustedEmitInterval e eTxs metric selfParent => ?_⟩
  have hdefer : emergencyDefer (recheckIdleTimes em nows) e selfParent =
      emergencyDefer em e selfParent := by
    rw [recheckIdleTimes_eq]
    rfl
  simp only [isAllowedToEmit_eq_firstRule, firstRule_emitRules_allows, hdefer]

end OperaEmitter.Emission
