import Mathlib
import DeskPanel.Clock
import DeskPanel.Proofs.RowExtent

/-!
# The next whole minute

The clock wakes at the first whole minute strictly after the present time, counted in seconds
since the epoch. It computes that minute in two checked 64-bit steps: the start of the present
minute, `now - now % 60`, then one minute on. So the answer is one to sixty seconds away and a
multiple of sixty, negative times included.

The first step can fault where the answer itself is a 64-bit value. The smallest 64-bit value
lies 52 seconds into its minute, so for the 52 earliest times the start of their minute is out
of range and the subtraction faults, although the minute after is in range. At the other end
the addition faults exactly when the answer is out of range.

## Main definitions

* `MinuteAfter now m` — `m` is the first whole minute strictly after `now`.

## Main results

* `nextMinute_eq` — the outcome of `nextMinute` for every 64-bit time.
* `nextMinute_spec` — the outcome for every 64-bit time, said through `MinuteAfter`.
* `nextMinute_faults_at_minimum` — the smallest 64-bit time faults.
-/

namespace DeskPanel

/-- `m` is the first whole minute strictly after `now`: a multiple of sixty at most sixty
seconds later. -/
def MinuteAfter (now m : Int) : Prop := m % 60 = 0 ∧ now < m ∧ m ≤ now + 60

instance (now m : Int) : Decidable (MinuteAfter now m) :=
  inferInstanceAs (Decidable (_ ∧ _ ∧ _))

/-- The minute after `now` is the least multiple of sixty above it. -/
theorem MinuteAfter.le {now m k : Int} (hm : MinuteAfter now m) (hk : k % 60 = 0) (hnow : now < k) :
    m ≤ k := by
  obtain ⟨hm₀, hlt, hle⟩ := hm
  omega

theorem MinuteAfter.unique {now m m' : Int} (hm : MinuteAfter now m) (hm' : MinuteAfter now m') :
    m = m' :=
  le_antisymm (hm.le hm'.1 hm'.2.1) (hm'.le hm.1 hm.2.1)

/-- The minute after `now` starts one minute after the minute of `now`. -/
theorem minuteAfter_start (now : Int) : MinuteAfter now (now - now % 60 + 60) := by
  refine ⟨?_, ?_, ?_⟩ <;> omega

theorem minuteAfter_iff {now m : Int} : MinuteAfter now m ↔ m = now - now % 60 + 60 :=
  ⟨fun h => h.unique (minuteAfter_start now), fun h => h ▸ minuteAfter_start now⟩

namespace IntRange

theorem sub_error {r : IntRange} {a b : Int} (h : a - b < r.lo) : r.sub a b = .error .subtract := by
  have h' : ¬ r.lo ≤ a - b := Int.not_le.mpr h
  simp [sub, h']

theorem i64_lo : i64.lo = -9223372036854775808 := rfl

theorem i64_hi : i64.hi = 9223372036854775807 := rfl

end IntRange

/-- **What the clock's boundary gives**, for a time no later than the largest 64-bit value:
a fault of the subtraction when the start of the present minute is out of range, else a fault
of the addition when the minute after is, else the minute after. -/
theorem nextMinute_eq {now : Int} (hhi : now ≤ IntRange.i64.hi) :
    nextMinute now =
      if now - now % 60 < IntRange.i64.lo then .error .subtract
      else if IntRange.i64.hi < now - now % 60 + 60 then .error .add
      else .ok (now - now % 60 + 60) := by
  have hsixty : tickSeconds = 60 := rfl
  have hminute : now.emod 60 = now % 60 := rfl
  unfold nextMinute
  rw [hsixty, hminute]
  by_cases hstart : now - now % 60 < IntRange.i64.lo
  · rw [if_pos hstart, IntRange.sub_error hstart]
    rfl
  · have hstart' : IntRange.i64.lo ≤ now - now % 60 := Int.not_lt.mp hstart
    rw [if_neg hstart, IntRange.sub_ok hstart' (by omega), Checked.ok_bind]
    by_cases hend : IntRange.i64.hi < now - now % 60 + 60
    · rw [if_pos hend, IntRange.add_error hend]
    · rw [if_neg hend, IntRange.add_ok (by omega) (Int.not_lt.mp hend)]

example : (nextMinute 119).toOption = some 120 ∧ (nextMinute (-61)).toOption = some (-60) := by
  decide

/-- **The clock's boundary for every 64-bit time** (and every earlier one). It gives the first whole minute strictly
after the time exactly when both that minute and the start of the present minute are 64-bit
values; the subtraction faults exactly when the start of the present minute is not, and the
addition exactly when only the minute after is not. -/
theorem nextMinute_spec {now : Int} (hhi : now ≤ IntRange.i64.hi) :
    (∀ m, nextMinute now = .ok m ↔
      MinuteAfter now m ∧ IntRange.i64.lo ≤ now - now % 60 ∧ m ≤ IntRange.i64.hi) ∧
    (nextMinute now = .error .subtract ↔ now - now % 60 < IntRange.i64.lo) ∧
    (nextMinute now = .error .add ↔
      IntRange.i64.lo ≤ now - now % 60 ∧ IntRange.i64.hi < now - now % 60 + 60) := by
  rw [nextMinute_eq hhi]
  by_cases hstart : now - now % 60 < IntRange.i64.lo
  · -- the start of the present minute is out of range
    rw [if_pos hstart]
    refine ⟨fun m => ⟨?_, ?_⟩, iff_of_true rfl hstart, ⟨?_, ?_⟩⟩
    · intro h; cases h
    · rintro ⟨-, h, -⟩; omega
    · intro h; cases h
    · rintro ⟨h, -⟩; omega
  · rw [if_neg hstart]
    have hstart' : IntRange.i64.lo ≤ now - now % 60 := Int.not_lt.mp hstart
    by_cases hend : IntRange.i64.hi < now - now % 60 + 60
    · -- only the minute after is out of range
      rw [if_pos hend]
      refine ⟨fun m => ⟨?_, ?_⟩, ⟨?_, ?_⟩, iff_of_true rfl ⟨hstart', hend⟩⟩
      · intro h; cases h
      · rintro ⟨hm, -, h⟩
        rw [minuteAfter_iff.mp hm] at h
        omega
      · intro h; cases h
      · intro h; omega
    · rw [if_neg hend]
      refine ⟨fun m => ⟨?_, ?_⟩, ⟨?_, ?_⟩, ⟨?_, ?_⟩⟩
      · intro h
        cases h
        exact ⟨minuteAfter_start now, hstart', Int.not_lt.mp hend⟩
      · rintro ⟨hm, -, -⟩
        rw [minuteAfter_iff.mp hm]
      · intro h; cases h
      · intro h; omega
      · intro h; cases h
      · rintro ⟨-, h⟩; omega

theorem nextMinute_spec_before_epoch :
    -61 ≤ IntRange.i64.hi ∧
      ((∀ m, nextMinute (-61) = .ok m ↔
        MinuteAfter (-61) m ∧ IntRange.i64.lo ≤ -61 - -61 % 60 ∧ m ≤ IntRange.i64.hi) ∧
      (nextMinute (-61) = .error .subtract ↔ -61 - -61 % 60 < IntRange.i64.lo) ∧
      (nextMinute (-61) = .error .add ↔
        IntRange.i64.lo ≤ -61 - -61 % 60 ∧ IntRange.i64.hi < -61 - -61 % 60 + 60)) :=
  ⟨by decide, nextMinute_spec (by decide)⟩

/-- The smallest 64-bit time faults, although the minute after it is a 64-bit value. -/
theorem nextMinute_faults_at_minimum :
    MinuteAfter IntRange.i64.lo (-9223372036854775800) ∧ -9223372036854775800 ≤ IntRange.i64.hi ∧
      nextMinute IntRange.i64.lo = .error .subtract := by
  refine ⟨by decide, by decide, ?_⟩
  rw [nextMinute_eq (by decide), if_pos (by decide)]

end DeskPanel
