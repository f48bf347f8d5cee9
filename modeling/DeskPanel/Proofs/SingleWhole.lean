import Mathlib
import DeskPanel.Binary.Arith

/-!
# Whole numbers in single precision

Single precision holds every whole number below `2 ^ 24`, and every half of an odd number below
`2 ^ 24`, exactly. Operations whose exact result is such a number return it: rounding to nearest
moves nothing that is representable. So sums, differences and products of small whole numbers
are computed as in the integers, comparisons compare them, integral rounding leaves a whole
number alone, and the rounding of a whole number `n` by `⌈n − ½⌉` or by truncating `n + ½` gives
`n` back.

A finite datum is a whole multiple of the smallest subnormal number, its unit: `2 ^ -149` in
single precision. The statements count values in units.

## Main definitions

* `Binary.Representable` — a magnitude single precision holds exactly.
* `Binary.Datum.Exactly` — a datum that is finite and of a given value.

## Main results

* `Binary.Datum.kind_ofRatio` — a representable quotient is rounded to itself.
* `Binary.Datum.Exactly.add`, `Exactly.sub`, `Exactly.mul_whole`, `Exactly.le_eq` — exact
  arithmetic and comparison.
* `Binary.Datum.Exactly.ceil_sub_half`, `Exactly.toIntSat_add_half` — the two ways a whole
  edge is rounded give it back.
-/

namespace DeskPanel

namespace Binary

/-! ### The single format -/

namespace Format

@[simp] theorem single_fractionBits : single.fractionBits = 23 := rfl

@[simp] theorem single_exponentBits : single.exponentBits = 8 := rfl

@[simp] theorem single_topField : single.topField = 255 := rfl

@[simp] theorem single_signBit : single.signBit = 31 := rfl

@[simp] theorem single_unitShift : single.unitShift = 149 := rfl

@[simp] theorem single_precision : single.precision = 24 := rfl

theorem single_spacingExp (t : Nat) :
    single.spacingExp t = if t < 2 ^ 24 then 0 else Nat.log2 t - 23 := rfl

end Format

/-- A magnitude, in units, that single precision holds exactly: a multiple of the spacing of the
magnitudes around it. -/
def Representable (t : Nat) : Prop := 2 ^ Format.single.spacingExp t ∣ t

theorem log2_bounds {n : Nat} (h : n ≠ 0) : 2 ^ n.log2 ≤ n ∧ n < 2 ^ (n.log2 + 1) :=
  ⟨Nat.log2_self_le h, Nat.lt_log2_self⟩

/-- The binary logarithm of a number shifted left by `e` places. -/
theorem log2_mul_pow {k : Nat} (hk : k ≠ 0) (e : Nat) : Nat.log2 (k * 2 ^ e) = k.log2 + e := by
  have hke : k * 2 ^ e ≠ 0 := Nat.mul_ne_zero hk (Nat.pos_iff_ne_zero.mp (Nat.two_pow_pos e))
  obtain ⟨hlo, hhi⟩ := log2_bounds hk
  apply Nat.le_antisymm
  · have : k * 2 ^ e < 2 ^ (k.log2 + e + 1) := by
      rw [Nat.add_right_comm, Nat.pow_add]
      exact Nat.mul_lt_mul_of_pos_right hhi (Nat.two_pow_pos e)
    exact Nat.lt_succ_iff.mp ((Nat.log2_lt hke).mpr this)
  · rw [Nat.le_log2 hke, Nat.pow_add]
    exact Nat.mul_le_mul_right _ hlo

/-- A number of at most 24 significant bits, shifted by any number of places, is held
exactly. -/
theorem representable_mul_pow {k : Nat} (hk : k < 2 ^ 24) (e : Nat) :
    Representable (k * 2 ^ e) := by
  unfold Representable
  rw [Format.single_spacingExp]
  split
  · exact Nat.one_dvd _
  · rename_i hbig
    have hk0 : k ≠ 0 := by
      rintro rfl
      simp at hbig
    have hlog : k.log2 < 24 := (Nat.log2_lt hk0).mpr hk
    rw [log2_mul_pow hk0]
    exact Nat.dvd_trans (Nat.pow_dvd_pow 2 (by omega)) (Nat.dvd_mul_left _ _)

/-! ### Rounding a representable magnitude -/

/-- Rounding to nearest moves no representable magnitude. -/
theorem roundUnits_mul {t den : Nat} (hden : 0 < den) (ht : Representable t) :
    Format.single.roundUnits (t * den) den = t := by
  unfold Format.roundUnits
  rw [Nat.mul_div_cancel t hden]
  unfold Representable at ht
  generalize Format.single.spacingExp t = k at ht ⊢
  obtain ⟨c, rfl⟩ := ht
  -- the quotient by the spacing is whole, so there is no remainder to round
  have hd : 0 < den * 2 ^ k := Nat.mul_pos hden (Nat.two_pow_pos k)
  have heq : 2 ^ k * c * den = c * (den * 2 ^ k) := by
    rw [Nat.mul_comm (2 ^ k) c, Nat.mul_assoc, Nat.mul_comm (2 ^ k) den]
  simp only [heq, Nat.mul_mod_left, Nat.mul_div_cancel c hd, Nat.mul_zero]
  have hup : (decide (den * 2 ^ k < 0) || (decide (0 = den * 2 ^ k) && c % 2 == 1)) = false := by
    simp only [Nat.not_lt_zero, decide_false, Bool.false_or, Bool.and_eq_false_imp,
      decide_eq_true_eq]
    intro h
    omega
  rw [hup, if_neg Bool.false_ne_true, Nat.mul_comm]

namespace Datum

/-- A bit pattern by its sign, exponent field `F` and fraction `fr`. -/
theorem kind_mk (neg : Bool) (F fr : Nat) (hF : F < 255) (hfr : fr < 2 ^ 23) :
    (⟨signPart (f := Format.single) neg + F * 2 ^ 23 + fr⟩ : Binary32).kind =
      if F = 0 then .finite neg fr else .finite neg ((fr + 2 ^ 23) * 2 ^ (F - 1)) := by
  have hfield : (⟨signPart (f := Format.single) neg + F * 2 ^ 23 + fr⟩ : Binary32).field = F := by
    unfold field signPart
    cases neg <;> simp <;> omega
  have hfrac : (⟨signPart (f := Format.single) neg + F * 2 ^ 23 + fr⟩ : Binary32).fraction = fr := by
    unfold fraction signPart
    cases neg <;> simp <;> omega
  have hneg : (⟨signPart (f := Format.single) neg + F * 2 ^ 23 + fr⟩ : Binary32).negative = neg := by
    unfold negative signPart
    cases neg <;> simp <;> omega
  unfold kind
  rw [hfield, hfrac, hneg, Format.single_topField, Format.single_fractionBits, if_neg (by omega)]

/-- The bit pattern of a representable magnitude reads back as that magnitude. -/
theorem kind_ofMag (neg : Bool) {t : Nat} (ht : Representable t) (hlt : t < 2 ^ 200) :
    (ofMag neg t : Binary32).kind = .finite neg t := by
  unfold ofMag
  by_cases hsmall : t < 2 ^ 23
  · rw [if_pos (show t < 2 ^ Format.single.fractionBits from hsmall)]
    have h := kind_mk neg 0 t (by decide) hsmall
    rwa [Nat.zero_mul, Nat.add_zero, if_pos rfl] at h
  · rw [if_neg (show ¬t < 2 ^ Format.single.fractionBits from hsmall)]
    simp only [Format.single_fractionBits]
    have ht0 : t ≠ 0 := by omega
    obtain ⟨hlo, hhi⟩ := log2_bounds ht0
    have hlog : 23 ≤ t.log2 := (Nat.le_log2 ht0).mpr (by omega)
    have hlog' : t.log2 < 200 := (Nat.log2_lt ht0).mpr hlt
    -- the spacing at `t` divides it
    have hdvd : 2 ^ (t.log2 - 23) ∣ t := by
      have h := ht
      unfold Representable at h
      rw [Format.single_spacingExp] at h
      split at h
      · have : t.log2 < 24 := (Nat.log2_lt ht0).mpr (by omega)
        rwa [show t.log2 - 23 = 0 by omega]
      · exact h
    generalize t.log2 = L at hlo hhi hlog hlog' hdvd ⊢
    generalize hk : L - 23 = k at hdvd ⊢
    obtain ⟨q, rfl⟩ := hdvd
    have hsplit : 2 ^ L = 2 ^ 23 * 2 ^ k := by rw [← Nat.pow_add]; congr 1; omega
    have hsplit' : 2 ^ (L + 1) = 2 ^ 24 * 2 ^ k := by rw [← Nat.pow_add]; congr 1; omega
    have hpos := Nat.two_pow_pos k
    -- the significand has exactly 24 bits
    have hqlo : 2 ^ 23 ≤ q := by
      rw [hsplit, Nat.mul_comm (2 ^ k)] at hlo
      exact Nat.le_of_mul_le_mul_right hlo hpos
    have hqhi : q < 2 ^ 24 := by
      rw [hsplit', Nat.mul_comm (2 ^ k)] at hhi
      exact Nat.lt_of_mul_lt_mul_right hhi
    rw [Nat.mul_div_cancel_left q hpos]
    have h := kind_mk neg (k + 1) (q - 2 ^ 23) (by omega) (by omega)
    rw [if_neg (by omega), Nat.sub_add_cancel hqlo, Nat.add_sub_cancel, Nat.mul_comm q] at h
    exact h

/-- A representable quotient is rounded to itself. -/
theorem kind_ofRatio (neg : Bool) {t den : Nat} (hden : 0 < den) (ht : Representable t)
    (hlt : t < 2 ^ 200) : (ofRatio neg (t * den) den : Binary32).kind = .finite neg t := by
  unfold ofRatio
  rw [roundUnits_mul hden ht, if_neg (by unfold Format.maxFinite; simp; omega)]
  exact kind_ofMag neg ht hlt

theorem kind_zero (z : Bool) : (zero z : Binary32).kind = .finite z 0 := by
  cases z <;> decide

/-- Flipping the sign bit flips the sign of a finite datum. -/
theorem kind_neg {x : Binary32} {a : Bool} {m : Nat} (hx : x.kind = .finite a m) :
    x.neg.kind = .finite (!a) m := by
  -- the sign bit is above the exponent field, so flipping it moves nothing else
  have hfield : x.neg.field = x.field := by
    unfold neg field negative at *
    split <;> simp at * <;> omega
  have hfrac : x.neg.fraction = x.fraction := by
    unfold neg fraction negative at *
    split <;> simp at * <;> omega
  have hsign : x.neg.negative = !x.negative := by
    unfold neg negative
    split
    · rename_i h
      simp only [Format.single_signBit, beq_iff_eq] at h ⊢
      have : (x.bits - 2 ^ 31) / 2 ^ 31 % 2 = 0 := by omega
      rw [this, h]
      rfl
    · rename_i h
      simp only [Format.single_signBit, beq_iff_eq] at h ⊢
      have : (x.bits + 2 ^ 31) / 2 ^ 31 % 2 = 1 := by omega
      rw [this, beq_false_of_ne h]
      rfl
  unfold kind at hx ⊢
  rw [hfield, hfrac, hsign]
  by_cases htop : x.field = Format.single.topField
  · rw [if_pos htop] at hx
    by_cases hz : x.fraction = 0
    · rw [if_pos hz] at hx
      cases hx
    · rw [if_neg hz] at hx
      cases hx
  · rw [if_neg htop] at hx ⊢
    by_cases hsub : x.field = 0
    · rw [if_pos hsub] at hx ⊢
      cases hx
      rfl
    · rw [if_neg hsub] at hx ⊢
      cases hx
      rfl

/-! ### Exact values -/

/-- The datum is finite and of exactly `v` units. -/
def Exactly (x : Binary32) (v : Int) : Prop :=
  ∃ neg m, x.kind = .finite neg m ∧ signedUnits neg m = v

theorem natAbs_signedUnits (neg : Bool) (m : Nat) : (signedUnits neg m).natAbs = m := by
  cases neg <;> simp [signedUnits]

/-- A nonzero value fixes the sign of the datum that holds it. -/
theorem sign_of_signedUnits {neg : Bool} {m : Nat} {v : Int} (h : signedUnits neg m = v)
    (hv : v ≠ 0) : neg = decide (v < 0) := by
  subst h
  unfold signedUnits at hv ⊢
  cases neg with
  | false =>
    rw [if_neg Bool.false_ne_true] at hv ⊢
    exact (decide_eq_false (by omega)).symm
  | true =>
    rw [if_pos rfl] at hv ⊢
    exact (decide_eq_true (by omega)).symm

/-- A value times `k` is its sign with its magnitude times `k`. -/
theorem signedUnits_natAbs_mul (v : Int) (k : Nat) :
    signedUnits (decide (v < 0)) (v.natAbs * k) = v * k := by
  unfold signedUnits
  by_cases h : v < 0
  · rw [if_pos (decide_eq_true h), Int.natCast_mul, Int.ofNat_natAbs_of_nonpos h.le, Int.neg_mul,
      Int.neg_neg]
  · rw [if_neg (by rw [decide_eq_true_iff]; exact h), Int.natCast_mul,
      Int.natAbs_of_nonneg (by omega)]

/-- The datum nearest to a representable value holds it. -/
theorem exactly_ofRatio {v : Int} (hr : Representable v.natAbs) (hb : v.natAbs < 2 ^ 200) :
    (ofRatio (decide (v < 0)) v.natAbs 1 : Binary32).Exactly v := by
  have h := kind_ofRatio (decide (v < 0)) Nat.one_pos hr hb
  rw [Nat.mul_one] at h
  refine ⟨_, _, h, ?_⟩
  simpa only [Nat.mul_one, Int.natCast_one, Int.mul_one] using signedUnits_natAbs_mul v 1

theorem exactly_ofUnits {v : Int} (z : Bool) (hr : Representable v.natAbs)
    (hb : v.natAbs < 2 ^ 200) : (ofUnits v z : Binary32).Exactly v := by
  unfold ofUnits
  split
  · rename_i h
    subst h
    exact ⟨z, 0, kind_zero z, by cases z <;> rfl⟩
  · exact exactly_ofRatio hr hb

/-- A whole number below `2 ^ 24` converts exactly. -/
theorem exactly_ofInt {n : Int} (hn : n.natAbs < 2 ^ 24) :
    (ofInt n : Binary32).Exactly (n * 2 ^ 149) := by
  have habs : (n * 2 ^ 149).natAbs = n.natAbs * 2 ^ 149 := by
    rw [Int.natAbs_mul]
    rfl
  have hsign : decide (n * 2 ^ 149 < 0) = decide (n < 0) := by
    simp only [decide_eq_decide]
    omega
  have h := exactly_ofRatio (v := n * 2 ^ 149) (by rw [habs]; exact representable_mul_pow hn 149)
    (by rw [habs]; omega)
  rwa [habs, hsign] at h

namespace Exactly

variable {x y : Binary32} {u v : Int}

theorem isFinite (hx : x.Exactly u) : x.isFinite = true := by
  obtain ⟨a, m, hxk, -⟩ := hx
  simp [Datum.isFinite, hxk]

/-- A representable sum is computed exactly. -/
theorem add (hx : x.Exactly u) (hy : y.Exactly v) (hr : Representable (u + v).natAbs)
    (hb : (u + v).natAbs < 2 ^ 200) : (x + y).Exactly (u + v) := by
  obtain ⟨a, m, hxk, rfl⟩ := hx
  obtain ⟨b, n, hyk, rfl⟩ := hy
  show (Datum.add x y).Exactly _
  unfold Datum.add
  rw [hxk, hyk]
  exact exactly_ofUnits _ hr hb

theorem neg (hx : x.Exactly u) : x.neg.Exactly (-u) := by
  obtain ⟨a, m, hxk, rfl⟩ := hx
  exact ⟨!a, m, kind_neg hxk, by cases a <;> simp [signedUnits]⟩

/-- A representable difference is computed exactly. -/
theorem sub (hx : x.Exactly u) (hy : y.Exactly v) (hr : Representable (u - v).natAbs)
    (hb : (u - v).natAbs < 2 ^ 200) : (x - y).Exactly (u - v) := by
  show (x + y.neg).Exactly _
  rw [Int.sub_eq_add_neg] at hr hb ⊢
  exact hx.add hy.neg hr hb

/-- A product of whole numbers whose value has at most 24 bits is computed exactly. -/
theorem mul_whole {a b : Int} (hx : x.Exactly (a * 2 ^ 149)) (hy : y.Exactly (b * 2 ^ 149))
    (hab : (a * b).natAbs < 2 ^ 24) : (x * y).Exactly (a * b * 2 ^ 149) := by
  obtain ⟨sa, m, hxk, hm⟩ := hx
  obtain ⟨sb, n, hyk, hn⟩ := hy
  have hm' : m = a.natAbs * 2 ^ 149 := by
    have := natAbs_signedUnits sa m
    rw [hm, Int.natAbs_mul] at this
    exact this.symm
  have hn' : n = b.natAbs * 2 ^ 149 := by
    have := natAbs_signedUnits sb n
    rw [hn, Int.natAbs_mul] at this
    exact this.symm
  -- the product carries the scale twice; rounding divides it out once
  have hprod : m * n = (a * b).natAbs * 2 ^ 149 * 2 ^ 149 := by
    rw [hm', hn', Int.natAbs_mul, Nat.mul_mul_mul_comm, ← Nat.mul_assoc]
  show (Datum.mul x y).Exactly _
  unfold Datum.mul
  rw [hxk, hyk]
  simp only [Format.single_unitShift]
  rw [hprod]
  refine ⟨_, _, kind_ofRatio _ (Nat.two_pow_pos 149) (representable_mul_pow hab 149) (by omega), ?_⟩
  by_cases h0 : a * b = 0
  · rw [h0]
    cases (sa != sb) <;> simp [signedUnits]
  · have ha : a ≠ 0 := fun h => h0 (by rw [h, Int.zero_mul])
    have hb : b ≠ 0 := fun h => h0 (by rw [h, Int.mul_zero])
    -- the product is negative exactly when the signs differ
    have hp : a * b < 0 ↔ (a < 0 ↔ ¬b < 0) := by
      rw [mul_neg_iff]
      omega
    rw [sign_of_signedUnits hm (by omega), sign_of_signedUnits hn (by omega)]
    generalize a * b = c at hp h0 ⊢
    have ha₁ : a * 2 ^ 149 < 0 ↔ a < 0 := by omega
    have hb₁ : b * 2 ^ 149 < 0 ↔ b < 0 := by omega
    have hsign : (decide (a * 2 ^ 149 < 0) != decide (b * 2 ^ 149 < 0)) = decide (c < 0) := by
      rw [Bool.eq_iff_iff, bne_iff_ne, ne_eq, decide_eq_decide, decide_eq_true_iff, ha₁, hb₁, hp]
      tauto
    rw [hsign]
    exact_mod_cast signedUnits_natAbs_mul c (2 ^ 149)

/-- Comparison of exact values compares the values. -/
theorem le_eq (hx : x.Exactly u) (hy : y.Exactly v) : x.le y = decide (u ≤ v) := by
  obtain ⟨a, m, hxk, rfl⟩ := hx
  obtain ⟨b, n, hyk, rfl⟩ := hy
  unfold Datum.le compare? place?
  rw [hxk, hyk]
  simp only [Place.cmp, Option.pure_def, Option.bind_eq_bind, Option.bind_some]
  generalize signedUnits a m = u
  generalize signedUnits b n = v
  rcases Int.lt_trichotomy u v with h | h | h
  · simp [Int.compare_eq_lt.mpr h, Int.le_of_lt h]
  · simp [h]
  · simp [Int.compare_eq_gt.mpr h, Int.not_le.mpr h]

end Exactly

/-! ### Rounding to whole numbers -/

/-- Integral rounding of a finite datum gives the whole part its step computes. -/
theorem integral_exactly {x : Binary32} (step : Bool → Nat → Nat → Nat) {a : Bool} {m : Nat}
    (hx : x.kind = .finite a m) (hq : step a (m / 2 ^ 149) (m % 2 ^ 149) < 2 ^ 24) :
    (x.integral step).Exactly (signedUnits a (step a (m / 2 ^ 149) (m % 2 ^ 149) * 2 ^ 149)) := by
  unfold integral
  rw [hx]
  dsimp only
  split
  · rename_i h0
    simp only [Format.single_unitShift] at h0
    rw [h0, Nat.zero_mul]
    exact ⟨a, 0, kind_zero a, rfl⟩
  · have h := kind_ofRatio a Nat.one_pos (representable_mul_pow hq 149) (by omega)
    rw [Nat.mul_one] at h
    exact ⟨a, _, h, rfl⟩

namespace Exactly

variable {x h : Binary32} {n lo hi : Int}

/-- Truncation of a whole number in range gives it back. -/
theorem toIntSat_whole (hx : x.Exactly (n * 2 ^ 149)) (hlo : lo ≤ n) (hhi : n ≤ hi) :
    x.toIntSat lo hi = n := by
  obtain ⟨a, m, hk, hm⟩ := hx
  unfold toIntSat truncInt
  rw [hk]
  simp only [Format.single_unitShift]
  have hn : signedUnits a (m / 2 ^ 149) = n := by
    cases a <;> simp [signedUnits] at hm ⊢ <;> omega
  rw [hn]
  omega

/-- Rounding toward `-∞` leaves a whole number alone. -/
theorem floor_whole (hx : x.Exactly (n * 2 ^ 149)) (hn : n.natAbs < 2 ^ 24) :
    x.floor.Exactly (n * 2 ^ 149) := by
  obtain ⟨a, m, hk, hm⟩ := hx
  have hm' : m = n.natAbs * 2 ^ 149 := by
    have := natAbs_signedUnits a m
    rw [hm, Int.natAbs_mul] at this
    exact this.symm
  have hr : m % 2 ^ 149 = 0 := by omega
  have hq : m / 2 ^ 149 = n.natAbs := by omega
  unfold floor
  have hi := integral_exactly (fun a q r => if a && r != 0 then q + 1 else q) hk
    (by simp only [hr, hq]; simpa using hn)
  simp only [hr, hq, bne_self_eq_false, Bool.and_false, Bool.false_eq_true, if_false] at hi
  have hv : signedUnits a (n.natAbs * 2 ^ 149) = n * 2 ^ 149 := by rw [← hm', hm]
  rwa [hv] at hi

/-- The pixel centre rule: rounding `n − ½` toward `+∞` gives `n` back. -/
theorem ceil_sub_half (hx : x.Exactly (n * 2 ^ 149)) (hh : h.Exactly (2 ^ 148))
    (hlo : -2 ^ 23 < n) (hhi : n ≤ 2 ^ 23) : (x - h).ceil.Exactly (n * 2 ^ 149) := by
  have hd : (x - h).Exactly ((2 * n - 1) * 2 ^ 148) := by
    have habs : (n * 2 ^ 149 - 2 ^ 148).natAbs = (2 * n - 1).natAbs * 2 ^ 148 := by omega
    have hb : (n * 2 ^ 149 - 2 ^ 148).natAbs < 2 ^ 200 := by omega
    have hk : (2 * n - 1).natAbs < 2 ^ 24 := by omega
    have := hx.sub hh (by rw [habs]; exact representable_mul_pow hk 148) hb
    rwa [show n * 2 ^ 149 - 2 ^ 148 = (2 * n - 1) * 2 ^ 148 by omega] at this
  obtain ⟨a, m, hk, hm⟩ := hd
  unfold ceil
  -- a half-way value: the remainder is a half, so the ceiling adds one to a positive value
  cases a
  · have hm' : (m : Int) = (2 * n - 1) * 2 ^ 148 := by simpa [signedUnits] using hm
    have hi := integral_exactly (fun a q r => if !a && r != 0 then q + 1 else q) hk
      (by split <;> omega)
    have hr : m % 2 ^ 149 ≠ 0 := by omega
    simp only [Bool.not_false, Bool.true_and, bne_iff_ne, ne_eq, hr, not_false_eq_true,
      if_true] at hi
    have hv : signedUnits false ((m / 2 ^ 149 + 1) * 2 ^ 149) = n * 2 ^ 149 := by
      simp only [signedUnits, Bool.false_eq_true, if_false]
      omega
    rwa [hv] at hi
  · have hm' : -(m : Int) = (2 * n - 1) * 2 ^ 148 := by simpa [signedUnits] using hm
    have hi := integral_exactly (fun a q r => if !a && r != 0 then q + 1 else q) hk
      (by split <;> omega)
    simp only [Bool.not_true, Bool.false_and, Bool.false_eq_true, if_false] at hi
    have hv : signedUnits true (m / 2 ^ 149 * 2 ^ 149) = n * 2 ^ 149 := by
      simp only [signedUnits, if_true]
      omega
    rwa [hv] at hi

/-- The edge rounding rule: truncating `n + ½` gives a whole `n ≥ 0` back. -/
theorem toIntSat_add_half (hx : x.Exactly (n * 2 ^ 149)) (hh : h.Exactly (2 ^ 148)) (h0 : 0 ≤ n)
    (hn : n < 2 ^ 23) (hlo : lo ≤ n) (hhi : n ≤ hi) : (x + h).toIntSat lo hi = n := by
  have hd : (x + h).Exactly ((2 * n + 1) * 2 ^ 148) := by
    have habs : (n * 2 ^ 149 + 2 ^ 148).natAbs = (2 * n + 1).natAbs * 2 ^ 148 := by omega
    have hb : (n * 2 ^ 149 + 2 ^ 148).natAbs < 2 ^ 200 := by omega
    have hk : (2 * n + 1).natAbs < 2 ^ 24 := by omega
    have := hx.add hh (by rw [habs]; exact representable_mul_pow hk 148) hb
    rwa [show n * 2 ^ 149 + 2 ^ 148 = (2 * n + 1) * 2 ^ 148 by omega] at this
  obtain ⟨a, m, hk, hm⟩ := hd
  unfold toIntSat truncInt
  rw [hk]
  simp only [Format.single_unitShift]
  have hn : signedUnits a (m / 2 ^ 149) = n := by
    cases a <;> simp [signedUnits] at hm ⊢ <;> omega
  rw [hn]
  omega

end Exactly

end Datum

end Binary

end DeskPanel
