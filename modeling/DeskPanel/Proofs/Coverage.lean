import Mathlib
import DeskPanel.Proofs.Frame

/-!
# Blending through a coverage mask

`Canvas.blendCoverage` walks a mask of 8-bit coverage row by row. Entry `i` of a mask `mw` wide
lands `i % mw` pixels right of the mask's corner and `i / mw` rows below it; where it covers
something, lies on the canvas and inside the clip, the colour is blended over that pixel.

The position of every entry that covers something is a 32-bit sum that faults on overflow, and
it is computed before the canvas bounds are looked at. So a mask whose corner sits near the top
of the range faults even where everything it would draw lies off the canvas, although the clip,
whose far edges saturate, keeps such points out without a fault.

When no covering entry faults, the walk is a pure one. The entries land on distinct points, and
distinct points of the canvas are distinct pixels of its memory, so each pixel is blended at
most once, from the bytes it held before; a blend of bytes by a byte weight is again a byte, and
every byte outside the blended pixels keeps its value.

## Main definitions

* `Canvas.maskPoint` — where an entry of a mask lands.
* `Canvas.InRange`, `Canvas.Blended` — a position that does not fault; an entry that is drawn.
* `Canvas.pixelIndex` — the place of a pixel in the memory, row by row.
* `Canvas.blendByte`, `Canvas.blendSource` — the bytes blending writes.
* `Canvas.coverStep`, `Canvas.drawStep` — one entry of the walk, checked and pure.

## Main results

* `Canvas.foldlM_coverStep_eq_error_iff` — the walk faults exactly when a covering entry's
  position leaves the range.
* `Canvas.foldlM_coverStep_eq_ok` — otherwise it is the pure walk.
* `Canvas.getByte_foldl_drawStep_of_ne`, `Canvas.getByte_foldl_drawStep_of_eq` — what the pure
  walk does to each byte.
* `Canvas.blendCoverage_exact` — the whole effect of blending through a mask.
-/

namespace DeskPanel

namespace Canvas

/-! ### Bytes of the memory -/

theorem getByte_putByte (d : ByteArray) (i j : Nat) (v : UInt8) :
    getByte (putByte d i v) j = if j = i ∧ i < d.size then v else getByte d j := by
  unfold putByte
  by_cases hi : i < d.size
  · rw [dif_pos hi]
    unfold getByte
    have hs : (d.set i v hi).size = d.size := by
      have := size_putByte d i v
      rwa [putByte, dif_pos hi] at this
    by_cases hj : j < d.size
    · rw [dif_pos (hs ▸ hj), dif_pos hj, ByteArray.getElem_eq_getElem_data,
        ByteArray.getElem_eq_getElem_data]
      simp only [ByteArray.set, Array.getElem_set, hi, and_true, eq_comm]
    · have hji : ¬(j = i ∧ i < d.size) := fun h => hj (h.1 ▸ hi)
      rw [dif_neg (hs ▸ hj), dif_neg hj, if_neg hji]
  · rw [dif_neg hi, if_neg (fun h => hi h.2)]

/-! ### The bytes blending writes -/

/-- A blended byte: the source byte `s` weighted by `alpha` over the old byte `d` weighted by
what is left, in whole-number arithmetic. -/
def blendByte (s alpha d : Nat) : Nat := (s * alpha + d * (255 - alpha)) / 255

/-- The source bytes blending reads from a colour, red first: its channels, with the alpha
byte counting as opaque. -/
def blendSource (color : Color) : List Nat := [color.red, color.green, color.blue, 255]

/-- A blend of bytes by a weight that is a byte is a byte. -/
theorem blendByte_le {s alpha d : Nat} (hs : s ≤ 255) (ha : alpha ≤ 255) (hd : d ≤ 255) :
    blendByte s alpha d ≤ 255 := by
  unfold blendByte
  apply Nat.div_le_of_le_mul
  calc s * alpha + d * (255 - alpha)
      ≤ 255 * alpha + 255 * (255 - alpha) :=
        Nat.add_le_add (Nat.mul_le_mul_right _ hs) (Nat.mul_le_mul_right _ hd)
    _ = 255 * 255 := by rw [← Nat.mul_add, Nat.add_sub_cancel' ha]

theorem blendSource_le (color : Color) (ch : Nat) : (blendSource color).getD ch 0 ≤ 255 := by
  have hr : color.red < 256 := Nat.mod_lt _ (by decide)
  have hg : color.green < 256 := Nat.mod_lt _ (by decide)
  have hb : color.blue < 256 := Nat.mod_lt _ (by decide)
  rcases ch with _ | _ | _ | _ | ch <;> simp [blendSource] <;> omega

/-- The weight of a coverage byte is a byte. -/
theorem weight_le (color : Color) {cov : Nat} (hcov : cov < 256) :
    cov * color.alpha / 255 ≤ 255 := by
  have ha : color.alpha < 256 := Nat.mod_lt _ (by decide)
  apply Nat.div_le_of_le_mul
  exact Nat.mul_le_mul (by omega) (by omega)

/-! ### Blending one pixel -/

section BlendAt

variable (c : Canvas) (px py : Int) (cov : Nat) (color : Color)

@[simp] theorem width_blendAt : (c.blendAt px py cov color).width = c.width := by
  cases c
  rfl

@[simp] theorem height_blendAt : (c.blendAt px py cov color).height = c.height := by
  cases c
  rfl

@[simp] theorem scale_blendAt : (c.blendAt px py cov color).scale = c.scale := by
  cases c
  rfl

@[simp] theorem size_blendAt : (c.blendAt px py cov color).data.size = c.data.size := by
  simp only [blendAt, data_withData, size_putByte]

/-- Blending at a point changes the four bytes of its pixel, each from its own old value, and
nothing else. -/
theorem getByte_blendAt (k : Nat) :
    getByte (c.blendAt px py cov color).data k =
      if k / 4 = py.toNat * c.width + px.toNat ∧ k < c.data.size then
        (blendByte ((blendSource color).getD (k % 4) 0) (cov * color.alpha / 255)
          (getByte c.data k).toNat).toUInt8
      else getByte c.data k := by
  unfold blendAt
  rw [data_withData]
  generalize py.toNat * c.width + px.toNat = p
  simp only [getByte_putByte, size_putByte]
  by_cases hk : k / 4 = p
  · simp only [hk, true_and]
    -- the byte is one of the pixel's four, each written once from its old value
    obtain ⟨r, hr, rfl⟩ : ∃ r < 4, k = p * 4 + r := ⟨k % 4, Nat.mod_lt _ (by decide), by omega⟩
    have hr' : (p * 4 + r) % 4 = r := by omega
    rw [hr']
    obtain rfl | rfl | rfl | rfl : r = 0 ∨ r = 1 ∨ r = 2 ∨ r = 3 := by omega
    all_goals simp [blendByte, blendSource]
  · have h0 : k ≠ p * 4 := by omega
    have h1 : k ≠ p * 4 + 1 := by omega
    have h2 : k ≠ p * 4 + 2 := by omega
    have h3 : k ≠ p * 4 + 3 := by omega
    simp [hk, h0, h1, h2, h3]

end BlendAt

/-! ### Where the entries of a mask land -/

/-- Where entry `i` of a mask `mw` wide lands when the mask's top-left corner is at `(x, y)`. -/
def maskPoint (x y : Int) (mw i : Nat) : Int × Int := (x + (i % mw : Nat), y + (i / mw : Nat))

/-- Distinct entries of a mask land on distinct points. -/
theorem maskPoint_injective {x y : Int} {mw i j : Nat} (h : maskPoint x y mw i = maskPoint x y mw j) :
    i = j := by
  simp only [maskPoint, Prod.mk.injEq, Int.add_right_inj, Nat.cast_inj] at h
  rw [← Nat.div_add_mod i mw, ← Nat.div_add_mod j mw, h.1, h.2]

/-- Both coordinates of a point are 32-bit values. -/
def InRange (p : Int × Int) : Prop :=
  IntRange.i32.contains p.1 = true ∧ IntRange.i32.contains p.2 = true

instance : DecidablePred InRange := fun _ => inferInstanceAs (Decidable (_ ∧ _))

/-- An entry of coverage `cov` landing on `p` is drawn: it covers something, and `p` is a pixel
of the canvas inside the clip. -/
def Blended (c : Canvas) (clip : ClipRect) (p : Int × Int) (cov : Nat) : Prop :=
  0 < cov ∧ 0 ≤ p.1 ∧ p.1 < c.width ∧ 0 ≤ p.2 ∧ p.2 < c.height ∧ clip.contains p.1 p.2 = true

instance (c : Canvas) (clip : ClipRect) (p : Int × Int) (cov : Nat) :
    Decidable (Blended c clip p cov) :=
  inferInstanceAs (Decidable (_ ∧ _))

/-- The place of a point among the canvas's pixels, row by row. -/
def pixelIndex (c : Canvas) (p : Int × Int) : Nat := p.2.toNat * c.width + p.1.toNat

section Pixels

variable {c : Canvas} {clip clip' : ClipRect} {p q : Int × Int} {cov cov' : Nat}

/-- A drawn point is a pixel of the canvas. -/
theorem pixelIndex_lt (h : Blended c clip p cov) : pixelIndex c p < c.width * c.height := by
  obtain ⟨-, h1, hw, h2, hh, -⟩ := h
  unfold pixelIndex
  calc p.2.toNat * c.width + p.1.toNat
      < p.2.toNat * c.width + c.width := by omega
    _ = (p.2.toNat + 1) * c.width := by rw [Nat.succ_mul]
    _ ≤ c.height * c.width := Nat.mul_le_mul_right _ (by omega)
    _ = c.width * c.height := Nat.mul_comm _ _

/-- Distinct drawn points are distinct pixels. -/
theorem pixelIndex_inj (hp : Blended c clip p cov) (hq : Blended c clip' q cov')
    (h : pixelIndex c p = pixelIndex c q) : p = q := by
  obtain ⟨-, hp1, hpw, hp2, -, -⟩ := hp
  obtain ⟨-, hq1, hqw, hq2, -, -⟩ := hq
  have hw : 0 < c.width := by omega
  -- the row is the quotient by the width, the column what is left
  have hrow : p.2.toNat = q.2.toNat := by
    have hdiv := congrArg (· / c.width) h
    simp only [pixelIndex] at hdiv
    rwa [Nat.add_comm, Nat.add_mul_div_right _ _ hw, Nat.div_eq_of_lt (by omega),
      Nat.add_comm (q.2.toNat * c.width), Nat.add_mul_div_right _ _ hw,
      Nat.div_eq_of_lt (by omega), Nat.zero_add, Nat.zero_add] at hdiv
  have hcol : p.1.toNat = q.1.toNat := by
    unfold pixelIndex at h
    rw [hrow] at h
    omega
  exact Prod.ext (by omega) (by omega)

end Pixels

/-! ### The walk over the mask -/

/-- One entry of a mask as `blendCoverage` treats it: the entry's coverage and its index. -/
def coverStep (x y : Int) (mw : Nat) (clip : ClipRect) (color : Color) :
    Canvas → Nat × Nat → Checked Canvas :=
  fun c (cov, i) => do
    if cov = 0 then return c
    let px ← IntRange.i32.add x (IntRange.i32.wrap (i % mw))
    let py ← IntRange.i32.add y (IntRange.i32.wrap (i / mw))
    if px < 0 ∨ py < 0 ∨ IntRange.i32.wrap c.width ≤ px ∨ IntRange.i32.wrap c.height ≤ py then
      return c
    if !clip.contains px py then return c
    return c.blendAt px py cov color

theorem blendCoverage_eq_foldlM {c : Canvas} {x y : Int} {mw : Nat} (coverage : List Nat)
    (clip : ClipRect) (color : Color) (hmw : mw ≠ 0) :
    c.blendCoverage x y mw coverage clip color =
      coverage.zipIdx.foldlM (coverStep x y mw clip color) c := by
  unfold blendCoverage
  rw [if_neg hmw]
  rfl

/-- One entry of a mask whose position does not fault. -/
def drawStep (x y : Int) (mw : Nat) (clip : ClipRect) (color : Color) (c : Canvas)
    (e : Nat × Nat) : Canvas :=
  if Blended c clip (maskPoint x y mw e.2) e.1 then
    c.blendAt (maskPoint x y mw e.2).1 (maskPoint x y mw e.2).2 e.1 color
  else c

section Walk

variable {x y : Int} {mw : Nat} {clip : ClipRect} {color : Color}

@[simp] theorem width_drawStep (c : Canvas) (e : Nat × Nat) :
    (drawStep x y mw clip color c e).width = c.width := by
  unfold drawStep
  split <;> simp

@[simp] theorem height_drawStep (c : Canvas) (e : Nat × Nat) :
    (drawStep x y mw clip color c e).height = c.height := by
  unfold drawStep
  split <;> simp

@[simp] theorem scale_drawStep (c : Canvas) (e : Nat × Nat) :
    (drawStep x y mw clip color c e).scale = c.scale := by
  unfold drawStep
  split <;> simp

@[simp] theorem size_drawStep (c : Canvas) (e : Nat × Nat) :
    (drawStep x y mw clip color c e).data.size = c.data.size := by
  unfold drawStep
  split <;> simp

/-- A 32-bit index of the mask, and anything it bounds, is its own 32-bit value. -/
theorem wrap_natCast {n : Nat} (h : n < 2 ^ 31) : IntRange.i32.wrap n = n :=
  IntRange.wrap_of_le (by rw [IntRange.i32_lo]; omega) (by rw [IntRange.i32_hi]; omega)

theorem wrap_mod {mw i : Nat} (hi : i < 2 ^ 31) :
    IntRange.i32.wrap ((i : Int) % (mw : Int)) = (i % mw : Nat) := by
  rw [← Int.natCast_mod]
  exact wrap_natCast (Nat.lt_of_le_of_lt (Nat.mod_le i mw) hi)

theorem wrap_div {mw i : Nat} (hi : i < 2 ^ 31) :
    IntRange.i32.wrap ((i : Int) / (mw : Int)) = (i / mw : Nat) := by
  rw [← Int.natCast_div]
  exact wrap_natCast (Nat.lt_of_le_of_lt (Nat.div_le_self i mw) hi)

/-- A covering entry whose position leaves the range faults. -/
theorem coverStep_eq_error (c : Canvas) {cov i : Nat} (hi : i < 2 ^ 31) (hcov : cov ≠ 0)
    (hp : ¬InRange (maskPoint x y mw i)) :
    coverStep x y mw clip color c (cov, i) = .error .add := by
  unfold InRange maskPoint at hp
  simp only [coverStep, hcov, if_false, wrap_mod hi, wrap_div hi]
  by_cases hx : IntRange.i32.contains (x + (i % mw : Nat)) = true
  · have hy : ¬IntRange.i32.contains (y + (i / mw : Nat)) = true := fun hy => hp ⟨hx, hy⟩
    simp only [IntRange.add, hx, hy, if_true, Checked.ok_bind]
    rfl
  · simp only [IntRange.add, hx]
    rfl

/-- An entry whose position does not fault is the pure step, on a canvas whose sides are
32-bit values. -/
theorem coverStep_eq_ok {c : Canvas} (hw : c.width < 2 ^ 31) (hh : c.height < 2 ^ 31)
    {cov i : Nat} (hi : i < 2 ^ 31) (hp : cov ≠ 0 → InRange (maskPoint x y mw i)) :
    coverStep x y mw clip color c (cov, i) = .ok (drawStep x y mw clip color c (cov, i)) := by
  by_cases hcov : cov = 0
  · subst hcov
    simp [coverStep, drawStep, Blended]
    rfl
  obtain ⟨hx, hy⟩ := hp hcov
  unfold maskPoint at hx hy
  simp only [coverStep, hcov, if_false, wrap_mod hi, wrap_div hi, IntRange.add, hx, hy, if_true,
    Checked.ok_bind, wrap_natCast hw, wrap_natCast hh]
  rw [drawStep]
  dsimp only
  by_cases hb : Blended c clip (maskPoint x y mw i) cov
  · rw [if_pos hb]
    obtain ⟨-, h1, h2, h3, h4, h5⟩ := hb
    unfold maskPoint at h1 h2 h3 h4 h5
    have hin : ¬(x + (i % mw : Nat) < 0 ∨ y + (i / mw : Nat) < 0 ∨ c.width ≤ x + (i % mw : Nat) ∨
        c.height ≤ y + (i / mw : Nat)) := by omega
    rw [if_neg hin, h5]
    rfl
  · rw [if_neg hb]
    -- the point is off the canvas or outside the clip, and the code returns the canvas
    split_ifs with hout hclip
    · rfl
    · rfl
    · have hin : Blended c clip (maskPoint x y mw i) cov := by
        unfold Blended maskPoint
        exact ⟨Nat.pos_of_ne_zero hcov, by omega, by omega, by omega, by omega,
          by simpa using hclip⟩
      exact absurd hin hb

/-- The walk over entries of 32-bit index faults exactly when an entry that covers something
lands at a position outside the range, and the fault is an addition's. -/
theorem foldlM_coverStep_eq_error_iff :
    ∀ {ps : List (Nat × Nat)} {c : Canvas}, c.width < 2 ^ 31 → c.height < 2 ^ 31 →
      (∀ e ∈ ps, e.2 < 2 ^ 31) → ∀ err : Overflow,
      ps.foldlM (coverStep x y mw clip color) c = .error err ↔
        err = .add ∧ ∃ e ∈ ps, e.1 ≠ 0 ∧ ¬InRange (maskPoint x y mw e.2)
  | [], _, _, _, _, _ => by
    constructor
    · rintro ⟨⟩
    · rintro ⟨-, _, ⟨⟩, -⟩
  | (cov, i) :: ps, c, hw, hh, hps, err => by
    rw [List.foldlM_cons]
    have hi : i < 2 ^ 31 := hps _ List.mem_cons_self
    by_cases hf : cov ≠ 0 ∧ ¬InRange (maskPoint x y mw i)
    · rw [coverStep_eq_error c hi hf.1 hf.2, Checked.error_bind]
      constructor
      · rintro ⟨⟩
        exact ⟨rfl, (cov, i), List.mem_cons_self, hf⟩
      · rintro ⟨rfl, -⟩
        rfl
    · have hp : cov ≠ 0 → InRange (maskPoint x y mw i) := fun h => by
        by_contra h'
        exact hf ⟨h, h'⟩
      rw [coverStep_eq_ok hw hh hi hp, Checked.ok_bind,
        foldlM_coverStep_eq_error_iff (by simpa using hw) (by simpa using hh)
          (fun e he => hps e (List.mem_cons_of_mem _ he))]
      simp only [List.mem_cons, or_and_right, exists_or, exists_eq_left, or_iff_right hf]

/-- A walk in which no covering entry faults is the pure walk. -/
theorem foldlM_coverStep_eq_ok :
    ∀ {ps : List (Nat × Nat)} {c : Canvas}, c.width < 2 ^ 31 → c.height < 2 ^ 31 →
      (∀ e ∈ ps, e.2 < 2 ^ 31) → (∀ e ∈ ps, e.1 ≠ 0 → InRange (maskPoint x y mw e.2)) →
      ps.foldlM (coverStep x y mw clip color) c = .ok (ps.foldl (drawStep x y mw clip color) c)
  | [], _, _, _, _, _ => rfl
  | (cov, i) :: ps, c, hw, hh, hps, hno => by
    rw [List.foldlM_cons, coverStep_eq_ok hw hh (hps _ List.mem_cons_self)
      (hno _ List.mem_cons_self), Checked.ok_bind, List.foldl_cons]
    exact foldlM_coverStep_eq_ok (by simpa using hw) (by simpa using hh)
      (fun e he => hps e (List.mem_cons_of_mem _ he)) (fun e he => hno e (List.mem_cons_of_mem _ he))

/-! ### What the pure walk does to each byte -/

theorem blended_drawStep {c : Canvas} {e : Nat × Nat} {clip' : ClipRect} {p : Int × Int}
    {cov : Nat} : Blended (drawStep x y mw clip color c e) clip' p cov ↔ Blended c clip' p cov := by
  unfold Blended
  rw [width_drawStep, height_drawStep]

theorem pixelIndex_drawStep (c : Canvas) (e : Nat × Nat) (p : Int × Int) :
    pixelIndex (drawStep x y mw clip color c e) p = pixelIndex c p := by
  unfold pixelIndex
  rw [width_drawStep]

@[simp] theorem width_foldl_drawStep (ps : List (Nat × Nat)) (c : Canvas) :
    (ps.foldl (drawStep x y mw clip color) c).width = c.width := by
  induction ps generalizing c <;> simp [*]

@[simp] theorem height_foldl_drawStep (ps : List (Nat × Nat)) (c : Canvas) :
    (ps.foldl (drawStep x y mw clip color) c).height = c.height := by
  induction ps generalizing c <;> simp [*]

@[simp] theorem scale_foldl_drawStep (ps : List (Nat × Nat)) (c : Canvas) :
    (ps.foldl (drawStep x y mw clip color) c).scale = c.scale := by
  induction ps generalizing c <;> simp [*]

@[simp] theorem size_foldl_drawStep (ps : List (Nat × Nat)) (c : Canvas) :
    (ps.foldl (drawStep x y mw clip color) c).data.size = c.data.size := by
  induction ps generalizing c <;> simp [*]

theorem getByte_drawStep_of_ne (c : Canvas) (e : Nat × Nat) {k : Nat}
    (hk : Blended c clip (maskPoint x y mw e.2) e.1 → pixelIndex c (maskPoint x y mw e.2) ≠ k / 4) :
    getByte (drawStep x y mw clip color c e).data k = getByte c.data k := by
  unfold drawStep
  split
  · rename_i hb
    rw [getByte_blendAt, if_neg]
    exact fun h => hk hb h.1.symm
  · rfl

theorem getByte_drawStep_of_eq (c : Canvas) (e : Nat × Nat) {k : Nat}
    (hb : Blended c clip (maskPoint x y mw e.2) e.1) (hk : k / 4 = pixelIndex c (maskPoint x y mw e.2))
    (hs : k < c.data.size) :
    getByte (drawStep x y mw clip color c e).data k =
      (blendByte ((blendSource color).getD (k % 4) 0) (e.1 * color.alpha / 255)
        (getByte c.data k).toNat).toUInt8 := by
  rw [drawStep, if_pos hb, getByte_blendAt, if_pos ⟨hk, hs⟩]

/-- The pure walk leaves alone every byte outside the pixels its drawn entries land on. -/
theorem getByte_foldl_drawStep_of_ne :
    ∀ {ps : List (Nat × Nat)} {c : Canvas} {k : Nat},
      (∀ e ∈ ps, Blended c clip (maskPoint x y mw e.2) e.1 →
        pixelIndex c (maskPoint x y mw e.2) ≠ k / 4) →
      getByte (ps.foldl (drawStep x y mw clip color) c).data k = getByte c.data k
  | [], _, _, _ => rfl
  | e :: ps, c, k, hk => by
    rw [List.foldl_cons, getByte_foldl_drawStep_of_ne, getByte_drawStep_of_ne c e (hk e List.mem_cons_self)]
    -- the rest of the walk starts from a canvas of the same sides
    intro e' he' hb'
    rw [blended_drawStep] at hb'
    rw [pixelIndex_drawStep]
    exact hk e' (List.mem_cons_of_mem _ he') hb'

/-- In a walk over entries of distinct indices, each byte of the pixel a drawn entry lands on is
blended once, from the value it had before the walk. -/
theorem getByte_foldl_drawStep_of_eq :
    ∀ {ps : List (Nat × Nat)} {c : Canvas} {e : Nat × Nat} {k : Nat}, (ps.map Prod.snd).Nodup →
      e ∈ ps → Blended c clip (maskPoint x y mw e.2) e.1 →
      k / 4 = pixelIndex c (maskPoint x y mw e.2) → k < c.data.size →
      getByte (ps.foldl (drawStep x y mw clip color) c).data k =
        (blendByte ((blendSource color).getD (k % 4) 0) (e.1 * color.alpha / 255)
          (getByte c.data k).toNat).toUInt8
  | [], _, _, _, _, he, _, _, _ => (List.not_mem_nil he).elim
  | a :: ps, c, e, k, hnd, he, hb, hk, hs => by
    rw [List.map_cons, List.nodup_cons] at hnd
    rw [List.foldl_cons]
    rcases List.mem_cons.mp he with rfl | he
    · -- the entry is blended first, and no later entry lands on its pixel
      rw [getByte_foldl_drawStep_of_ne, getByte_drawStep_of_eq c e hb hk hs]
      intro e' he' hb' heq
      rw [blended_drawStep] at hb'
      rw [pixelIndex_drawStep, hk] at heq
      have hidx : e'.2 = e.2 := maskPoint_injective (pixelIndex_inj hb' hb heq)
      exact hnd.1 (hidx ▸ List.mem_map_of_mem he')
    · -- the entry comes later, and the head leaves its pixel alone
      rw [getByte_foldl_drawStep_of_eq hnd.2 he (blended_drawStep.mpr hb)
          (by rwa [pixelIndex_drawStep]) (by rwa [size_drawStep]),
        getByte_drawStep_of_ne c a]
      intro ha heq
      rw [hk] at heq
      have hidx : a.2 = e.2 := maskPoint_injective (pixelIndex_inj ha hb heq)
      exact hnd.1 (hidx ▸ List.mem_map_of_mem he)

end Walk

/-! ### The whole effect -/

/-- An entry of a mask's walk is an index of the mask with its coverage. -/
theorem mem_zipIdx_iff {coverage : List Nat} {cov i : Nat} :
    (cov, i) ∈ coverage.zipIdx ↔ ∃ h : i < coverage.length, coverage[i] = cov := by
  rw [List.mem_zipIdx_iff_getElem?, List.getElem?_eq_some_iff]

/-- The whole effect of blending a colour through a mask of 8-bit coverage, on a canvas that
fits its memory and whose sides are 32-bit values, for a mask of at most `2 ^ 31` entries.

A mask of width zero changes nothing. Otherwise the walk faults, with an addition's fault,
exactly when an entry that covers something lands at a position outside the 32-bit range. When
none does, the canvas keeps its sides, scale and memory size; each drawn entry lands on a pixel
of the canvas, whose four bytes are blended from their old values; and every byte outside the
drawn pixels keeps its value. -/
theorem blendCoverage_exact (c : Canvas) (x y : Int) (mw : Nat) (coverage : List Nat)
    (clip : ClipRect) (color : Color) (hc : c.byteLength ≤ c.data.size)
    (hw : c.width < 2 ^ 31) (hh : c.height < 2 ^ 31) (hcov : ∀ v ∈ coverage, v < 256)
    (hlen : coverage.length ≤ 2 ^ 31) :
    (mw = 0 → c.blendCoverage x y mw coverage clip color = .ok c) ∧
    (0 < mw → ∀ err, c.blendCoverage x y mw coverage clip color = .error err ↔
      err = .add ∧ ∃ i, ∃ h : i < coverage.length,
        coverage[i] ≠ 0 ∧ ¬InRange (maskPoint x y mw i)) ∧
    (0 < mw → (∀ i (h : i < coverage.length), coverage[i] ≠ 0 → InRange (maskPoint x y mw i)) →
      ∃ c', c.blendCoverage x y mw coverage clip color = .ok c' ∧
        c'.width = c.width ∧ c'.height = c.height ∧ c'.scale = c.scale ∧
        c'.data.size = c.data.size ∧
        (∀ i (h : i < coverage.length), Blended c clip (maskPoint x y mw i) coverage[i] →
          pixelIndex c (maskPoint x y mw i) < c.width * c.height ∧
          ∀ ch < 4, (getByte c'.data (pixelIndex c (maskPoint x y mw i) * 4 + ch)).toNat =
            blendByte ((blendSource color).getD ch 0) (coverage[i] * color.alpha / 255)
              (getByte c.data (pixelIndex c (maskPoint x y mw i) * 4 + ch)).toNat) ∧
        ∀ k, (∀ i (h : i < coverage.length), Blended c clip (maskPoint x y mw i) coverage[i] →
          pixelIndex c (maskPoint x y mw i) ≠ k / 4) → getByte c'.data k = getByte c.data k) := by
  have hidx : ∀ e ∈ coverage.zipIdx, e.2 < 2 ^ 31 := fun ⟨_, _⟩ he => by
    obtain ⟨hi, -⟩ := mem_zipIdx_iff.mp he
    omega
  refine ⟨fun h0 => by subst h0; rfl, fun hmw err => ?_, fun hmw hno => ?_⟩
  · rw [blendCoverage_eq_foldlM _ _ _ (by omega), foldlM_coverStep_eq_error_iff hw hh hidx]
    constructor
    · rintro ⟨rfl, ⟨cov, i⟩, he, hne, hp⟩
      obtain ⟨hi, rfl⟩ := mem_zipIdx_iff.mp he
      exact ⟨rfl, i, hi, hne, hp⟩
    · rintro ⟨rfl, i, hi, hne, hp⟩
      exact ⟨rfl, (coverage[i], i), mem_zipIdx_iff.mpr ⟨hi, rfl⟩, hne, hp⟩
  have hno' : ∀ e ∈ coverage.zipIdx, e.1 ≠ 0 → InRange (maskPoint x y mw e.2) := by
    rintro ⟨cov, i⟩ he
    obtain ⟨hi, rfl⟩ := mem_zipIdx_iff.mp he
    exact hno i hi
  have hnd : (coverage.zipIdx.map Prod.snd).Nodup := by
    rw [List.zipIdx_map_snd]
    exact List.nodup_range'
  rw [blendCoverage_eq_foldlM _ _ _ (by omega), foldlM_coverStep_eq_ok hw hh hidx hno']
  refine ⟨_, rfl, width_foldl_drawStep .., height_foldl_drawStep .., scale_foldl_drawStep ..,
    size_foldl_drawStep .., fun i hi hb => ⟨pixelIndex_lt hb, fun ch hch => ?_⟩, fun k hk => ?_⟩
  · -- byte `ch` of the pixel, inside the memory since the pixel is one of the canvas's
    have hP := pixelIndex_lt hb
    have hs : pixelIndex c (maskPoint x y mw i) * 4 + ch < c.data.size := by
      unfold byteLength at hc
      omega
    have hcv : coverage[i] < 256 := hcov _ (List.getElem_mem hi)
    have hk : (pixelIndex c (maskPoint x y mw i) * 4 + ch) / 4 = pixelIndex c (maskPoint x y mw i) := by
      omega
    rw [getByte_foldl_drawStep_of_eq hnd (mem_zipIdx_iff.mpr ⟨hi, rfl⟩) hb hk hs,
      show (pixelIndex c (maskPoint x y mw i) * 4 + ch) % 4 = ch by omega]
    have hle := blendByte_le (blendSource_le color ch) (weight_le color hcv)
      (Nat.le_of_lt_succ (getByte c.data (pixelIndex c (maskPoint x y mw i) * 4 + ch)).toNat_lt)
    simp only [Nat.toUInt8, UInt8.toNat_ofNat', Nat.mod_eq_of_lt (Nat.lt_succ_of_le hle)]
  · apply getByte_foldl_drawStep_of_ne
    rintro ⟨cov, i⟩ he hb
    obtain ⟨hi, rfl⟩ := mem_zipIdx_iff.mp he
    exact hk i hi hb

/-- The clipped blend of a white mask of full coverage over a black row of four pixels, clipped
to the middle two, is a case of the whole effect, and succeeds. -/
theorem blendCoverage_exact_row :
    ∃ c', Canvas.blendCoverage
      ⟨ByteArray.mk #[0, 0, 0, 255, 0, 0, 0, 255, 0, 0, 0, 255, 0, 0, 0, 255], 4, 1, 1⟩ 0 0 4
      [255, 255, 255, 255] ⟨1, 0, 2, 1⟩ ⟨0xFFFFFFFF⟩ = .ok c' := by
  obtain ⟨-, -, hok⟩ := blendCoverage_exact
    ⟨ByteArray.mk #[0, 0, 0, 255, 0, 0, 0, 255, 0, 0, 0, 255, 0, 0, 0, 255], 4, 1, 1⟩ 0 0 4
    [255, 255, 255, 255] ⟨1, 0, 2, 1⟩ ⟨0xFFFFFFFF⟩ (by decide) (by decide) (by decide) (by decide)
    (by decide)
  obtain ⟨c', h, -⟩ := hok (by decide) (by decide)
  exact ⟨c', h⟩

/-- A mask whose corner sits at the last 32-bit column faults on its second entry, although
nothing of it lands on the canvas and the clip keeps it out. -/
theorem blendCoverage_faults_off_canvas :
    ∃ c, Canvas.create? (ByteArray.mk (Array.replicate 16 0)) 4 1 1 = some c ∧
      c.blendCoverage 2147483647 0 2 [0, 1] ⟨0, 0, 4, 1⟩ ⟨0xFFFFFFFF⟩ = .error .add :=
  ⟨_, rfl, rfl⟩

end Canvas

end DeskPanel
