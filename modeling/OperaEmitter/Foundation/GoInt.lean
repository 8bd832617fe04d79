import Mathlib

/-!
# Go machine integers and time

The emitter computes with Go's fixed-width integers.  Sequence numbers,
weights and validator indices (`idx.Event`, `pos.Weight`, `idx.Validator`)
are `uint32`; metrics and block indices (`ancestor.Metric`, `idx.Block`) are
`uint64`.  Lean's `UInt32` and `UInt64` wrap exactly as Go's unsigned
arithmetic does.

A `time.Duration` is an `int64` count of nanoseconds.  Lean 4.14 has no
`Int64`, so a duration is an `Int`, and each signed operation that can leave
the range goes through `int64`, the two's-complement wrap.  A `time.Time` is
its count of nanoseconds since the Unix epoch, unbounded as Go's is:
`Time.Sub` saturates at the ends of the duration range instead of wrapping.
An event's `inter.Timestamp` is a `uint64` of Unix nanoseconds, which
`Time()` reads as an `int64`.
-/

namespace OperaEmitter.Foundation

abbrev Event := UInt32

abbrev Validator := UInt32

abbrev ValidatorID := UInt32

abbrev Weight := UInt32

abbrev Metric := UInt64

abbrev Block := UInt64

/-- `piecefunc.DecimalUnit` of lachesis-base, the fixed-point `1.0`. -/
def DecimalUnit : UInt64 := 1000000

@[simp] theorem DecimalUnit_toNat : DecimalUnit.toNat = 1000000 := rfl

/-! ## Unsigned arithmetic read through `toNat` -/

theorem UInt64.size_eq_two_pow : UInt64.size = 2 ^ 64 := rfl

theorem UInt64.le_iff_toNat_le {a b : UInt64} : a ≤ b ↔ a.toNat ≤ b.toNat := .rfl

theorem UInt64.lt_iff_toNat_lt {a b : UInt64} : a < b ↔ a.toNat < b.toNat := .rfl

theorem UInt32.le_iff_toNat_le {a b : UInt32} : a ≤ b ↔ a.toNat ≤ b.toNat := .rfl

theorem UInt32.lt_iff_toNat_lt {a b : UInt32} : a < b ↔ a.toNat < b.toNat := .rfl

/-- Go's unsigned `/`: a zero divisor is a run-time panic, `none` here. -/
def goDiv (a b : UInt64) : Option UInt64 :=
  if b = 0 then none else some (a / b)

theorem goDiv_of_pos {a b : UInt64} (hb : 0 < b.toNat) : goDiv a b = some (a / b) := by
  have : b ≠ 0 := fun h => by simp [h] at hb
  simp [goDiv, this]

/-! ## Signed durations -/

def maxDuration : Int := 2 ^ 63 - 1

def minDuration : Int := -2 ^ 63

/-- Go's `int64` arithmetic: the two's-complement wrap of the exact result. -/
def int64 (x : Int) : Int := (x + 2 ^ 63) % 2 ^ 64 - 2 ^ 63

theorem int64_of_mem {x : Int} (lo : minDuration ≤ x) (hi : x ≤ maxDuration) :
    int64 x = x := by
  simp only [int64, minDuration, maxDuration] at *
  omega

theorem int64_mem (x : Int) : minDuration ≤ int64 x ∧ int64 x ≤ maxDuration := by
  simp only [int64, minDuration, maxDuration]
  omega

example : int64 (maxDuration + maxDuration) = -2 := by decide

/-- `uint64(d)` of an `int64`: its bits read unsigned. -/
def uint64OfInt64 (d : Int) : UInt64 := UInt64.ofNat (d % 2 ^ 64).toNat

/-- `time.Duration(m)` of a `uint64`: its bits read signed. -/
def int64OfUInt64 (m : UInt64) : Int := int64 m.toNat

theorem uint64OfInt64_toNat {d : Int} (lo : 0 ≤ d) (hi : d ≤ maxDuration) :
    (uint64OfInt64 d).toNat = d.toNat := by
  simp only [maxDuration] at hi
  rw [uint64OfInt64, UInt64.toNat_ofNat_of_lt (by simp only [UInt64.size]; omega)]
  omega

theorem int64OfUInt64_of_le {m : UInt64} (h : m.toNat ≤ maxDuration) :
    int64OfUInt64 m = m.toNat :=
  int64_of_mem (by simp [minDuration]; omega) h

structure Time where
  ns : Int
  deriving DecidableEq, Repr

/-- The zero `time.Time`, January 1 of year 1, UTC. -/
def Time.zero : Time := ⟨-62135596800 * 1000000000⟩

abbrev Timestamp := UInt64

/-- `Timestamp.Time()`: `time.Unix(int64(t)/1e9, int64(t)%1e9)`, which is
`int64(t)` nanoseconds after the Unix epoch. -/
def Timestamp.time (t : Timestamp) : Time := ⟨int64 t.toNat⟩

def Time.sub (t u : Time) : Int :=
  let d := t.ns - u.ns
  if minDuration ≤ d ∧ d ≤ maxDuration then d
  else if t.ns < u.ns then minDuration
  else maxDuration

theorem Time.sub_le_maxDuration (t u : Time) : t.sub u ≤ maxDuration := by
  simp only [Time.sub, minDuration, maxDuration]
  repeat' split
  all_goals omega

end OperaEmitter.Foundation
