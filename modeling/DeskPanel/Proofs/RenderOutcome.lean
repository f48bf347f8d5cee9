import Mathlib
import DeskPanel.Proofs.Frame

/-!
# What one render does

A render of a panel whose surface is not configured, or whose physical size is not
representable, changes nothing at all. The physical size is the logical size times the scale,
and it is representable exactly when the scale is not negative and both products are 32-bit
signed values. Otherwise the render lays the row out, stores the widgets, and then does exactly
one of three things with the buffers:

* every buffer is busy: nothing is submitted, the frame is marked pending, and neither the pool
  nor the allocator changes;
* a buffer is free but none is handed out, because the size is empty or making the buffer
  failed: nothing is submitted, the frame is not marked pending, and no busy flag changes;
* the free buffer of highest index, reused when it already has the physical size and made
  afresh otherwise, is painted and submitted at that size and scale, and marked busy; the other
  buffer stays as it was.

The third case needs the buffer to have room for a canvas of the physical size. That holds as
long as every buffer of the pool holds its size in bytes, as every buffer the allocator makes
does.

## Main definitions

* `Allocated.Holds`, `Pool.Holds`, `Allocator.Holds` — buffers hold their size in bytes.
* `Submission` — the three outcomes of a render for the buffers.

## Main results

* `physicalSize?_eq_some_iff`, `physicalSize?_eq_none_iff` — when a physical size exists.
* `Panel.render_submission` — what a render of a configured panel of a physical size does.
* `Panel.render_outcome` — what a render does, for every panel and every pool.
-/

namespace DeskPanel

/-! ### Physical sizes -/

section PhysicalSize

variable {w h : Nat} {scale : Int}

theorem natCast_mul_toNat (n : Nat) (hs : 0 ≤ scale) : ((n * scale.toNat : Nat) : Int) = n * scale := by
  rw [Int.natCast_mul, Int.toNat_of_nonneg hs]

/-- The physical size is the logical size times the scale, when the scale is not negative and
both products are 32-bit signed values. -/
theorem physicalSize?_eq_some_iff {pw ph : Nat} :
    physicalSize? w h scale = some (pw, ph) ↔
      0 ≤ scale ∧ (w * scale : Int) ≤ IntRange.i32.hi ∧ (h * scale : Int) ≤ IntRange.i32.hi ∧
        pw = w * scale.toNat ∧ ph = h * scale.toNat := by
  unfold physicalSize?
  by_cases hs : scale < 0
  · rw [if_pos hs]
    exact iff_of_false (fun e => nomatch e) fun ⟨hs', _⟩ => absurd hs' (Int.not_le.mpr hs)
  have hs : 0 ≤ scale := Int.not_lt.mp ‹_›
  rw [if_neg (Int.not_lt.mpr hs)]
  dsimp only
  rw [natCast_mul_toNat w hs, natCast_mul_toNat h hs]
  by_cases hfit : (w * scale : Int) ≤ IntRange.i32.hi ∧ (h * scale : Int) ≤ IntRange.i32.hi
  · rw [if_pos hfit, Option.some.injEq, Prod.mk.injEq]
    constructor
    · rintro ⟨rfl, rfl⟩
      exact ⟨hs, hfit.1, hfit.2, rfl, rfl⟩
    · rintro ⟨-, -, -, rfl, rfl⟩
      exact ⟨rfl, rfl⟩
  · rw [if_neg hfit]
    exact iff_of_false (fun e => nomatch e) fun ⟨_, hw, hh, _⟩ => hfit ⟨hw, hh⟩

/-- No physical size exists for a negative scale or a product past the 32-bit signed range. -/
theorem physicalSize?_eq_none_iff :
    physicalSize? w h scale = none ↔
      scale < 0 ∨ IntRange.i32.hi < (w * scale : Int) ∨ IntRange.i32.hi < (h * scale : Int) := by
  rw [← Option.not_isSome_iff_eq_none, Option.isSome_iff_exists]
  constructor
  · intro hnone
    by_contra hfit
    refine hnone ⟨(w * scale.toNat, h * scale.toNat), physicalSize?_eq_some_iff.mpr ?_⟩
    omega
  · rintro hout ⟨⟨pw, ph⟩, hsize⟩
    obtain ⟨hs, hw, hh, -⟩ := physicalSize?_eq_some_iff.mp hsize
    omega

/-- Both sides of a physical size are 32-bit signed values. -/
theorem physicalSize?_bounds {pw ph : Nat} (hsize : physicalSize? w h scale = some (pw, ph)) :
    (pw : Int) ≤ IntRange.i32.hi ∧ (ph : Int) ≤ IntRange.i32.hi := by
  obtain ⟨hs, hw, hh, rfl, rfl⟩ := physicalSize?_eq_some_iff.mp hsize
  rw [natCast_mul_toNat _ hs, natCast_mul_toNat _ hs]
  exact ⟨hw, hh⟩

end PhysicalSize

/-! ### Buffers that hold their size -/

/-- A held buffer has four bytes for each pixel of its size. -/
def Allocated.Holds (a : Allocated PixelBuffer) : Prop :=
  a.width * a.height * 4 ≤ a.buffer.pixels.size

/-- A held buffer of a size that fits 32-bit signed values each way has room for a canvas. -/
theorem Allocated.Holds.roomy {a : Allocated PixelBuffer} (ha : a.Holds)
    (hw : (a.width : Int) ≤ IntRange.i32.hi) (hh : (a.height : Int) ≤ IntRange.i32.hi) :
    a.Roomy := by
  rw [IntRange.i32_hi] at hw hh
  have harea : a.width * a.height ≤ 2147483647 * 2147483647 :=
    Nat.mul_le_mul (by omega) (by omega)
  exact ⟨ha, by omega⟩

/-- Every buffer the allocator makes has four bytes for each pixel it was asked for. -/
def Allocator.Holds {σ : Type} (alloc : Allocator σ PixelBuffer) : Prop :=
  ∀ {i w h s b s'}, alloc.make i w h s = .ok (some b, s') → w * h * 4 ≤ b.pixels.size

/-- Memory makes buffers of exactly the size in bytes, or none. -/
theorem Memory.allocate_holds : Memory.allocate.Holds := by
  intro i w h m b m' hmake
  simp only [Memory.allocate] at hmake
  split at hmake
  · cases hmake
  obtain ⟨area, harea, hmake⟩ := Checked.bind_eq_ok.mp hmake
  obtain ⟨bytes, hbytes, hmake⟩ := Checked.bind_eq_ok.mp hmake
  cases hmake
  obtain ⟨rfl, -⟩ := IntRange.mul_bounds harea
  obtain ⟨rfl, -⟩ := IntRange.mul_bounds hbytes
  simp only [ByteArray.size, Array.size_replicate]
  omega

namespace Pool

variable {σ : Type} {alloc : Allocator σ PixelBuffer} {p p' : Pool PixelBuffer} {s s' : σ}
  {w h : Nat} {r : Option Slot}

/-- Every buffer of the pool holds its size. -/
def Holds (p : Pool PixelBuffer) : Prop :=
  ∀ (i : Slot) a, getElem p.slots i i.isLt = some a → a.Holds

theorem holds_empty : ({} : Pool PixelBuffer).Holds := by
  intro i a h
  rcases slot_cases i with rfl | rfl <;> cases h

/-- An acquire keeps the pool's buffers holding their size, the one it makes included. -/
theorem Holds.acquire (hp : p.Holds) (halloc : alloc.Holds)
    (hacq : p.acquire alloc s w h = .ok (r, p', s')) : p'.Holds := by
  rcases acquire_cases hacq with
    ⟨-, -, rfl, -⟩ | ⟨i, -, -, -, ⟨-, -, rfl, -⟩ | ⟨-, made, hm, -, rfl⟩⟩
  · exact hp
  · exact hp
  · intro j a ha
    rw [getElem_set_slot] at ha
    split at ha
    · cases made with
      | none => cases ha
      | some b =>
        rw [Option.map_some, Option.some.injEq] at ha
        subst ha
        exact halloc hm
    · exact hp j a ha

/-- An acquire that finds a buffer of the asked size asks nothing of the allocator. -/
theorem acquire_state_of_fits (hacq : p.acquire alloc s w h = .ok (r, p', s')) {i : Slot}
    (hi : p.freeSlot? = some i) (hfit : fits (getElem p.slots i i.isLt) w h = true) : s' = s := by
  rcases acquire_cases hacq with ⟨-, -, -, rfl⟩ | ⟨k, -, -, hk, ⟨-, -, -, rfl⟩ | ⟨hfk, -⟩⟩
  · rfl
  · rfl
  · rw [hi, Option.some.injEq] at hk
    subst hk
    rw [hfit] at hfk
    cases hfk

end Pool

/-! ### The three outcomes for the buffers -/

section Submission

variable {σ : Type}

/-- What a render of physical size `pw × ph` at `scale` does with the pool `pool` and the
allocator's state `mem`, once the row is laid out: the pool and the state after it, the pending
flag and the frame submitted. -/
inductive Submission (alloc : Allocator σ PixelBuffer) (pool : Pool PixelBuffer) (mem : σ)
    (pw ph : Nat) (scale : Int) : Pool PixelBuffer → σ → Bool → Option Frame → Prop
  /-- Every buffer is busy: nothing is submitted, the frame is marked pending, and the pool and
  the allocator are left alone. -/
  | busy : pool.AllBusy → Submission alloc pool mem pw ph scale pool mem true none
  /-- A buffer is free but none is handed out, the size being empty or the allocator making
  nothing: nothing is submitted, the frame is not marked pending and no busy flag changes. -/
  | dropped {pool' : Pool PixelBuffer} {mem' : σ} : ¬pool.AllBusy →
      ((pw = 0 ∨ ph = 0) ∨ ∃ i, pool.freeSlot? = some i ∧
        Pool.fits (getElem pool.slots i i.isLt) pw ph = false ∧
        alloc.make i pw ph (alloc.dropSlot (getElem pool.slots i i.isLt) mem) = .ok (none, mem')) →
      pool'.busy = pool.busy → Submission alloc pool mem pw ph scale pool' mem' false none
  /-- The free buffer of highest index, reused when it has the physical size, is painted and
  submitted at that size and scale and marked busy, and the other buffer stays as it was. -/
  | drawn {pool' : Pool PixelBuffer} {mem' : σ} (i : Slot) (b : PixelBuffer) :
      getElem pool.busy i i.isLt = false → (∀ j : Slot, i < j → getElem pool.busy j j.isLt = true) →
      getElem pool'.slots i i.isLt = some ⟨b, pw, ph⟩ → getElem pool'.busy i i.isLt = true →
      (Pool.fits (getElem pool.slots i i.isLt) pw ph = true → mem' = mem) →
      (∀ j : Slot, j ≠ i → getElem pool'.slots j j.isLt = getElem pool.slots j j.isLt ∧
        getElem pool'.busy j j.isLt = getElem pool.busy j j.isLt) →
      Submission alloc pool mem pw ph scale pool' mem' false (some ⟨b.slot.val, pw, ph, scale, b.pixels⟩)

variable {alloc : Allocator σ PixelBuffer} {pool pool' : Pool PixelBuffer} {mem mem' : σ}
  {pw ph : Nat} {scale : Int}

/-- An acquire that hands out nothing leaves a busy pool pending and a free one dropped. -/
theorem Submission.of_acquire_none
    (hacq : pool.acquire alloc mem pw ph = .ok (none, pool', mem')) :
    Submission alloc pool mem pw ph scale pool' mem' (!pool.hasFree) none := by
  by_cases hbusy : pool.AllBusy
  · obtain ⟨-, rfl, rfl⟩ := Pool.acquire_of_allBusy hacq hbusy
    rw [Pool.hasFree_eq_false_iff.mpr hbusy]
    exact .busy hbusy
  · have hfree : pool.hasFree = true := by
      cases hf : pool.hasFree
      · exact absurd (Pool.hasFree_eq_false_iff.mp hf) hbusy
      · rfl
    rw [hfree]
    refine .dropped hbusy ?_ (Pool.acquire_busy hacq)
    -- the slot picked is free, so only the size or the allocator refuses
    rcases Pool.acquire_cases hacq with
      ⟨hz | hn, -⟩ | ⟨i, -, -, hi, ⟨-, hr, -⟩ | ⟨hfit, made, hm, hr, -⟩⟩
    · exact .inl hz
    · exact absurd (Pool.freeSlot?_eq_none_iff.mp hn) hbusy
    · cases hr
    · cases made with
      | none => exact .inr ⟨i, hi, hfit, hm⟩
      | some _ => cases hr

/-- An acquire that hands out a slot, whose buffer `a` then gets new pixels and is submitted,
draws a frame of those pixels from the buffer's slot. -/
theorem Submission.of_acquire_some {i : Slot} {pool₁ : Pool PixelBuffer}
    {a : Allocated PixelBuffer} (hacq : pool.acquire alloc mem pw ph = .ok (some i, pool₁, mem'))
    (ha : getElem pool₁.slots i i.isLt = some a) (px : ByteArray) :
    Submission alloc pool mem pw ph scale
      ((pool₁.modifyBuffer i fun b => { b with pixels := px }).submit i) mem' false
      (some ⟨a.buffer.slot.val, pw, ph, scale, px⟩) := by
  obtain ⟨hi, a', ha', rfl, rfl⟩ := Pool.acquire_eq_some hacq rfl
  obtain rfl : a' = a := Option.some.inj (ha'.symm.trans ha)
  obtain ⟨hfree, habove⟩ := Pool.freeSlot?_eq_some_iff.mp hi
  have hslot : ((pool₁.modifyBuffer i fun b => { b with pixels := px }).submit i).slots[i] =
      some ⟨{ a'.buffer with pixels := px }, a'.width, a'.height⟩ := by
    rw [Pool.submit_slots]
    unfold Pool.modifyBuffer
    rw [Pool.getElem_set_slot, if_pos rfl, ha']
    rfl
  refine .drawn i { a'.buffer with pixels := px } hfree habove hslot ?_
    (Pool.acquire_state_of_fits hacq hi) fun j hj => ⟨?_, ?_⟩
  · rw [Pool.submit_busy, beq_self_eq_true, Bool.true_or]
  -- the other slot: the acquire did not pick it, and writing and submitting slot `i` skip it
  · have hpick : pool.freeSlot? ≠ some j := fun e => hj (Option.some.inj (e.symm.trans hi))
    rw [Pool.submit_slots, (Pool.modifyBuffer_slots _).2 (Ne.symm hj),
      Pool.acquire_slots_other hacq hpick]
  · rw [Pool.submit_busy, Pool.modifyBuffer_busy, Pool.acquire_busy hacq,
      beq_false_of_ne (Ne.symm hj), Bool.false_or]

end Submission

/-! ### One render -/

namespace Panel

variable {η σ : Type} {p p' : Panel η} {pool pool' : Pool PixelBuffer}
  {alloc : Allocator σ PixelBuffer} {mem mem' : σ} {now : TimeOfDay} {frame : Option Frame}

/-- **A render of a configured panel of a physical size** lays the row out and does one of the
three things `Submission` names with the buffers. -/
theorem render_submission (hpool : pool.Holds) (halloc : alloc.Holds)
    (hconf : ¬(p.state.width = 0 ∨ p.state.height = 0)) {pw ph : Nat}
    (hsize : physicalSize? p.state.width p.state.height p.state.scale = some (pw, ph))
    (h : p.render pool alloc mem .plain now = .ok (p', pool', mem', frame)) :
    (p.row now).compute fixedWidth = .ok p'.widgets ∧
      Submission alloc pool mem pw ph p.state.scale pool' mem' p'.pendingFrame frame := by
  obtain ⟨hpw, hph⟩ := physicalSize?_bounds hsize
  unfold render at h
  dsimp only [TextEngine.plain] at h
  rw [if_neg hconf, hsize] at h
  dsimp only at h
  obtain ⟨ws, hws, h⟩ := Checked.bind_eq_ok.mp h
  obtain ⟨⟨slot?, pool₁, mem₁⟩, hacq, h⟩ := Checked.bind_eq_ok.mp h
  cases slot? with
  | none =>
    cases h
    exact ⟨hws, .of_acquire_none hacq⟩
  | some i =>
    -- the buffer handed out has the physical size, and it holds it, so a canvas fits
    dsimp only at h
    obtain ⟨-, a, ha, rfl, rfl⟩ := Pool.acquire_eq_some hacq rfl
    have hbuf : pool₁.buffer? i = some a.buffer := by
      simp only [Pool.buffer?, ha, Option.map_some]
    have hroom : a.Roomy := (hpool.acquire halloc hacq i a ha).roomy hpw hph
    rw [hbuf] at h
    dsimp only at h
    rw [hroom.create? p.state.scale] at h
    dsimp only at h
    obtain ⟨c, -, h⟩ := Checked.bind_eq_ok.mp h
    cases h
    exact ⟨hws, .of_acquire_some hacq ha _⟩

/-- **What a render does**, for every panel and every pool whose buffers hold their size, with
an allocator whose buffers do too. When the surface is not configured or its physical size is not
representable, nothing changes and nothing is submitted. Otherwise the widgets become the row
laid out at the panel's width, and the buffers see one of the three outcomes of `Submission` at
the logical size times the scale. -/
theorem render_outcome (hpool : pool.Holds) (halloc : alloc.Holds)
    (h : p.render pool alloc mem .plain now = .ok (p', pool', mem', frame)) :
    (p.state.width = 0 ∨ p.state.height = 0 ∨ p.state.scale < 0 ∨
        IntRange.i32.hi < (p.state.width * p.state.scale : Int) ∨
        IntRange.i32.hi < (p.state.height * p.state.scale : Int) →
      p' = p ∧ pool' = pool ∧ mem' = mem ∧ frame = none) ∧
    (p.state.width ≠ 0 → p.state.height ≠ 0 → 0 ≤ p.state.scale →
      (p.state.width * p.state.scale : Int) ≤ IntRange.i32.hi →
      (p.state.height * p.state.scale : Int) ≤ IntRange.i32.hi →
      (p.row now).compute fixedWidth = .ok p'.widgets ∧
        Submission alloc pool mem (p.state.width * p.state.scale.toNat)
          (p.state.height * p.state.scale.toNat) p.state.scale pool' mem' p'.pendingFrame frame) := by
  refine ⟨fun hskip => ?_, fun hw hh hs hpw hph => ?_⟩
  · -- nothing to draw: the render returns at once
    have hidle : p.render pool alloc mem .plain now = .ok (p, pool, mem, none) := by
      rcases hskip with hz | hz | hsize
      · exact render_of_unconfigured (.inl hz) pool alloc mem .plain now
      · exact render_of_unconfigured (.inr hz) pool alloc mem .plain now
      · exact render_of_unsized (physicalSize?_eq_none_iff.mpr hsize) pool alloc mem .plain now
    rw [hidle] at h
    cases h
    exact ⟨rfl, rfl, rfl, rfl⟩
  · have hsize := physicalSize?_eq_some_iff.mpr ⟨hs, hpw, hph, rfl, rfl⟩
    exact render_submission hpool halloc (by omega) hsize h

/-- A render of a configured panel whose allocator fails drops the frame without marking it
pending. -/
theorem render_outcome_failing_memory :
    ({} : Pool PixelBuffer).Holds ∧ Memory.allocate.Holds ∧
      (ofState { PanelState.ofSettings {} with width := 800, height := 30 } : Panel Nat).render {} Memory.allocate { failing := true } .plain ⟨12, 0, 0, 0⟩ =
        .ok ({ (ofState { PanelState.ofSettings {} with width := 800, height := 30 } : Panel Nat) with widgets := [⟨0, 749, .spacer⟩, ⟨749, 51, .clock⟩] }, {},
          { failing := true }, none) ∧
      ((800 = 0 ∨ 30 = 0 ∨ (1 : Int) < 0 ∨ IntRange.i32.hi < (800 * 1 : Int) ∨
          IntRange.i32.hi < (30 * 1 : Int) →
        { (ofState { PanelState.ofSettings {} with width := 800, height := 30 } : Panel Nat) with widgets := [⟨0, 749, .spacer⟩, ⟨749, 51, .clock⟩] } = (ofState { PanelState.ofSettings {} with width := 800, height := 30 } : Panel Nat) ∧
          ({} : Pool PixelBuffer) = {} ∧ ({ failing := true } : Memory) = { failing := true } ∧
          (none : Option Frame) = none) ∧
      (800 ≠ 0 → 30 ≠ 0 → (0 : Int) ≤ 1 → (800 * 1 : Int) ≤ IntRange.i32.hi →
        (30 * 1 : Int) ≤ IntRange.i32.hi →
        ((ofState { PanelState.ofSettings {} with width := 800, height := 30 } : Panel Nat).row ⟨12, 0, 0, 0⟩).compute fixedWidth = .ok [⟨0, 749, .spacer⟩, ⟨749, 51, .clock⟩] ∧
          Submission Memory.allocate {} { failing := true } (800 * (1 : Int).toNat)
            (30 * (1 : Int).toNat) 1 {} { failing := true } false none)) :=
  have h : (ofState { PanelState.ofSettings {} with width := 800, height := 30 } : Panel Nat).render {} Memory.allocate { failing := true } .plain ⟨12, 0, 0, 0⟩ =
      .ok ({ (ofState { PanelState.ofSettings {} with width := 800, height := 30 } : Panel Nat) with widgets := [⟨0, 749, .spacer⟩, ⟨749, 51, .clock⟩] }, {},
        { failing := true }, none) := by
    cbv
  ⟨Pool.holds_empty, Memory.allocate_holds, h,
    render_outcome Pool.holds_empty Memory.allocate_holds h⟩

end Panel

end DeskPanel
