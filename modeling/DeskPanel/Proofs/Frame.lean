import DeskPanel.Loop.Run
import DeskPanel.Proofs.Pool
import DeskPanel.Proofs.RowExtent

/-!
# When a render draws a frame

A render lays the panel out, takes the free buffer of highest index and paints over it. For
that to give a frame, the buffer has to have room for a canvas of the physical size: a buffer
that is fitted or freshly made has exactly that size, and painting never changes how much
memory it holds, as long as drawing text does not either. So with an allocator that never fails
to make a buffer, a render of a panel that has a representable size draws a frame whenever a
buffer is free, and otherwise drops the frame, marks it pending and leaves the pool as it was.

A render never changes what it shows of the panel: the state, and each tracked window's title,
application id and activity, in order.

## Main definitions

* `View`, `Panel.view` — what a frame shows of a panel, the clock aside.
* `Panel.Renderable` — a render lays the panel out.
* `Allocated.Roomy`, `Pool.Roomy` — a canvas of a buffer's size fits in its memory.
* `Pool.AllBusy` — no buffer is free.
* `Allocator.Sound`, `TextEngine.KeepsSize`.

## Main results

* `Panel.render_view` — a render keeps the view.
* `Panel.render_sound` — what a render does under a sound allocator.
-/

namespace DeskPanel

/-- What a frame shows of a panel, the clock aside: the panel's state, and the title,
application id and activity of each tracked window, in order. -/
abbrev View := PanelState × List (Option String × Option String × Bool)

namespace Panel

variable {η : Type}

/-- What a frame drawn from the panel shows. -/
def view (p : Panel η) : View :=
  (p.state, p.windows.entries.map fun e => (e.2.title, e.2.appId, e.2.active))

/-- The panel is configured and its physical size is representable, so a render lays it out. -/
def Renderable (p : Panel η) : Prop :=
  p.state.width ≠ 0 ∧ p.state.height ≠ 0 ∧
    (physicalSize? p.state.width p.state.height p.state.scale).isSome

instance : DecidablePred (Renderable (η := η)) := fun p => by
  unfold Renderable
  infer_instance

theorem Renderable.of_state {p q : Panel η} (h : p.Renderable) (hq : q.state = p.state) :
    q.Renderable := by
  unfold Renderable
  rw [hq]
  exact h

end Panel

/-! ### Painting keeps the memory's size -/

/-- A checked fold keeps whatever each of its steps keeps. -/
theorem Checked.foldlM_inv {α β : Type} {f : β → α → Checked β} (P : β → Prop)
    (hf : ∀ b a b', P b → f b a = .ok b' → P b') :
    ∀ {xs : List α} {b b' : β}, P b → xs.foldlM f b = .ok b' → P b'
  | [], _, _, hb, h => by
    cases h
    exact hb
  | a :: xs, b, _, hb, h => by
    rw [List.foldlM_cons] at h
    obtain ⟨b₁, h₁, h⟩ := Checked.bind_eq_ok.mp h
    exact Checked.foldlM_inv P hf (hf b a b₁ hb h₁) h

namespace Canvas

@[simp] theorem size_putByte (d : ByteArray) (i : Nat) (v : UInt8) :
    (putByte d i v).size = d.size := by
  unfold putByte
  split
  · simp only [ByteArray.set, ByteArray.size, Array.size_set]
  · rfl

@[simp] theorem size_mapPixels (d : ByteArray) (start count : Nat)
    (f : UInt8 × UInt8 × UInt8 × UInt8 → UInt8 × UInt8 × UInt8 × UInt8) :
    (mapPixels d start count f).size = d.size := by
  induction count generalizing d start with
  | zero => rfl
  | succ n ih =>
    rw [mapPixels]
    split
    rw [ih]
    simp only [size_putByte]

@[simp] theorem size_mapRows (d : ByteArray) (stride x y count rows : Nat)
    (f : UInt8 × UInt8 × UInt8 × UInt8 → UInt8 × UInt8 × UInt8 × UInt8) :
    (mapRows d stride x y count rows f).size = d.size := by
  induction rows generalizing d y with
  | zero => rfl
  | succ n ih => rw [mapRows, ih, size_mapPixels]

@[simp] theorem data_withData (c : Canvas) (f : ByteArray → ByteArray) :
    (c.withData f).data = f c.data := by
  cases c
  rfl

@[simp] theorem size_clear (c : Canvas) (color : Color) :
    (c.clear color).data.size = c.data.size := by
  simp only [clear, data_withData, size_mapPixels]

@[simp] theorem size_fillRect (c : Canvas) (x y w h : Int) (color : Color) :
    (c.fillRect x y w h color).data.size = c.data.size := by
  unfold fillRect
  rw [data_withData]
  -- every piece is a run of rows, each keeping the size
  generalize coverRects x y w h c.scale c.width c.height = pieces
  induction pieces generalizing c with
  | nil => rfl
  | cons r rs ih =>
    rw [List.foldl_cons]
    exact (ih ⟨_, c.width, c.height, c.scale⟩).trans (size_mapRows ..)

@[simp] theorem size_finish (c : Canvas) : c.finish.data.size = c.data.size := by
  simp only [finish, data_withData, size_mapPixels]

end Canvas

/-- Drawing text keeps the size of the canvas memory. -/
def TextEngine.KeepsSize (engine : TextEngine) : Prop :=
  ∀ c text x y clip color c', engine.draw c text x y clip color = .ok c' →
    c'.data.size = c.data.size

theorem TextEngine.keepsSize_plain : TextEngine.plain.KeepsSize := by
  intro c _ _ _ _ _ c' h
  cases h
  rfl

namespace Scene

variable {η : Type} {engine : TextEngine} {s : Scene η} {c c' : Canvas}

theorem size_drawLabel (he : engine.KeepsSize) {text : String} {w : Widget WindowKey}
    {clipWidth : Int} (h : s.drawLabel engine c text w clipWidth = .ok c') :
    c'.data.size = c.data.size := by
  unfold drawLabel at h
  obtain ⟨_, -, h⟩ := Checked.bind_eq_ok.mp h
  obtain ⟨_, -, h⟩ := Checked.bind_eq_ok.mp h
  obtain ⟨_, -, h⟩ := Checked.bind_eq_ok.mp h
  exact he _ _ _ _ _ _ _ h

theorem size_paintWidget (he : engine.KeepsSize) {w : Widget WindowKey}
    (h : s.paintWidget engine c w = .ok c') : c'.data.size = c.data.size := by
  unfold paintWidget at h
  split at h
  · split at h
    · cases h
      rfl
    · obtain ⟨_, -, h⟩ := Checked.bind_eq_ok.mp h
      obtain ⟨_, -, h⟩ := Checked.bind_eq_ok.mp h
      rw [size_drawLabel he h, Canvas.size_fillRect]
  · obtain ⟨_, -, h⟩ := Checked.bind_eq_ok.mp h
    exact size_drawLabel he h
  · cases h
    rfl

theorem size_paint (he : engine.KeepsSize) (h : s.paint engine c = .ok c') :
    c'.data.size = c.data.size := by
  unfold paint at h
  obtain ⟨c₁, hfold, h⟩ := Checked.bind_eq_ok.mp h
  obtain ⟨_, -, h⟩ := Checked.bind_eq_ok.mp h
  cases h
  have hc₁ : c₁.data.size = (c.clear s.palette.background).data.size :=
    Checked.foldlM_inv (fun c' => c'.data.size = (c.clear s.palette.background).data.size)
      (fun _ _ _ hb hw => (size_paintWidget he hw).trans hb) rfl hfold
  rw [Canvas.size_fillRect, hc₁, Canvas.size_clear]

end Scene

/-! ### Roomy buffers -/

/-- A held buffer over which a canvas of its size can be made: the size in bytes is a 64-bit
value and the memory has room for it. -/
def Allocated.Roomy (a : Allocated PixelBuffer) : Prop :=
  a.width * a.height * 4 ≤ a.buffer.pixels.size ∧
    (a.width * a.height * 4 : Nat) ≤ (18446744073709551615 : Int)

theorem IntRange.u64_contains {v : Nat} (h : (v : Int) ≤ 18446744073709551615) :
    IntRange.u64.contains v = true := by
  rw [IntRange.contains_iff]
  exact ⟨Int.natCast_nonneg v, h⟩

/-- A canvas of a roomy buffer's size is made over its memory, at any scale. -/
theorem Allocated.Roomy.create? {a : Allocated PixelBuffer} (ha : a.Roomy) (scale : Int) :
    Canvas.create? a.buffer.pixels a.width a.height scale =
      some ⟨a.buffer.pixels, a.width, a.height, max scale 1⟩ := by
  obtain ⟨hroom, hbytes⟩ := ha
  have harea : ((a.width * a.height : Nat) : Int) ≤ 18446744073709551615 := by
    have : a.width * a.height ≤ a.width * a.height * 4 := Nat.le_mul_of_pos_right _ (by decide)
    omega
  unfold Canvas.create?
  dsimp only
  rw [← Int.natCast_mul, IntRange.u64_contains harea, IntRange.u64_contains hbytes,
    Bool.true_and, Bool.true_and, if_pos (decide_eq_true hroom)]

namespace Pool

variable {β σ : Type}

/-- Every buffer the pool holds is roomy. -/
def Roomy (p : Pool PixelBuffer) : Prop :=
  ∀ (i : Slot) a, getElem p.slots i i.isLt = some a → a.Roomy

/-- No buffer of the pool is free. -/
def AllBusy (p : Pool β) : Prop := ∀ i : Slot, getElem p.busy i i.isLt = true

instance (p : Pool β) : Decidable p.AllBusy := by
  unfold AllBusy
  infer_instance

theorem hasFree_eq_false_iff {p : Pool β} : p.hasFree = false ↔ p.AllBusy := by
  rw [AllBusy, ← freeSlot?_eq_none_iff, freeSlot?_eq]
  -- both sides read the two busy flags, so compare them flag by flag
  have hlist : p.busy.toList = [p.busy[(0 : Slot)], p.busy[(1 : Slot)]] := by
    apply List.ext_getElem (by rw [Vector.length_toList]; rfl)
    intro n h₁ _
    rw [Vector.length_toList, show poolSize = 2 from rfl] at h₁
    rcases n with _ | _ | n
    · rfl
    · rfl
    · omega
  unfold hasFree
  rw [hlist]
  cases p.busy[(0 : Slot)] <;> cases p.busy[(1 : Slot)] <;> decide

theorem roomy_empty : ({} : Pool PixelBuffer).Roomy := by
  intro i a h
  rcases slot_cases i with rfl | rfl <;> cases h

theorem Roomy.release {p : Pool PixelBuffer} (hp : p.Roomy) (n : Nat) : (p.release n).Roomy := by
  intro i a h
  rw [release_slots] at h
  exact hp i a h

theorem Roomy.submit {p : Pool PixelBuffer} (hp : p.Roomy) (i : Slot) : (p.submit i).Roomy := by
  intro j a h
  rw [submit_slots] at h
  exact hp j a h

/-- A released slot is free. -/
theorem hasFree_release {p : Pool β} (i : Slot) : (p.release i).hasFree = true := by
  cases h : (p.release i).hasFree
  · have hbusy := hasFree_eq_false_iff.mp h i
    rw [release_busy] at hbusy
    simp at hbusy
  · rfl

/-- Writing a held buffer with memory of the same size keeps the pool roomy. -/
theorem Roomy.modifyBuffer {p : Pool PixelBuffer} (hp : p.Roomy) {i : Slot}
    {a : Allocated PixelBuffer} (ha : getElem p.slots i i.isLt = some a)
    {f : PixelBuffer → PixelBuffer}
    (hf : (f a.buffer).pixels.size = a.buffer.pixels.size) : (p.modifyBuffer i f).Roomy := by
  intro j b hb
  by_cases hij : i = j
  · subst hij
    have hslot : (p.modifyBuffer i f).slots[i] = some { a with buffer := f a.buffer } := by
      unfold Pool.modifyBuffer
      rw [getElem_set_slot, if_pos rfl, ha, Option.map_some]
    rw [hslot, Option.some.injEq] at hb
    subst hb
    obtain ⟨hroom, hbytes⟩ := hp i a ha
    exact ⟨hf ▸ hroom, hbytes⟩
  · rw [(modifyBuffer_slots f).2 hij] at hb
    exact hp j b hb

end Pool

/-- An allocator that never fails from good states: making a buffer faults or gives a roomy one
of the asked size, and both making and dropping keep the state good. -/
structure Allocator.Sound {σ : Type} (alloc : Allocator σ PixelBuffer) (good : σ → Prop) :
    Prop where
  make : ∀ {i w h s made s'}, good s → alloc.make i w h s = .ok (made, s') →
    good s' ∧ ∃ b, made = some b ∧ (⟨b, w, h⟩ : Allocated PixelBuffer).Roomy
  drop : ∀ b {s}, good s → good (alloc.drop b s)

theorem IntRange.mul_bounds {r : IntRange} {a b v : Int} (h : r.mul a b = .ok v) :
    v = a * b ∧ v ≤ r.hi := by
  unfold IntRange.mul at h
  split at h
  · rename_i hin
    cases h
    exact ⟨rfl, ((IntRange.contains_iff _ _).mp hin).2⟩
  · cases h

/-- Memory that is not switched to fail makes zeroed buffers of exactly the size in bytes. -/
theorem Memory.allocate_sound : Memory.allocate.Sound fun m => m.failing = false where
  make {i w h m made m'} hm hmake := by
    simp only [Memory.allocate, hm, Bool.false_eq_true, ↓reduceIte] at hmake
    obtain ⟨area, harea, hmake⟩ := Checked.bind_eq_ok.mp hmake
    obtain ⟨bytes, hbytes, hmake⟩ := Checked.bind_eq_ok.mp hmake
    cases hmake
    -- both products are checked, so the size in bytes is exact and fits 32 bits
    obtain ⟨rfl, -⟩ := IntRange.mul_bounds harea
    obtain ⟨rfl, hhi⟩ := IntRange.mul_bounds hbytes
    have hu32 : IntRange.u32.hi = 4294967295 := rfl
    refine ⟨rfl, _, rfl, ?_, ?_⟩
    · simp only [ByteArray.size, Array.size_replicate]
      omega
    · push_cast
      omega
  drop _ _ hm := hm

/-! ### One acquire from a roomy pool -/

namespace Pool

variable {σ : Type} {good : σ → Prop} {alloc : Allocator σ PixelBuffer}
  {p p' : Pool PixelBuffer} {s s' : σ} {w h : Nat} {r : Option Slot}

theorem good_dropSlot (halloc : alloc.Sound good) (a? : Option (Allocated PixelBuffer))
    (hs : good s) : good (alloc.dropSlot a? s) := by
  cases a? with
  | none => exact hs
  | some a => exact halloc.drop a.buffer hs

/-- A sound allocator keeps the pool roomy and the state good. -/
theorem Roomy.acquire (hp : p.Roomy) (halloc : alloc.Sound good) (hs : good s)
    (hacq : p.acquire alloc s w h = .ok (r, p', s')) : p'.Roomy ∧ good s' := by
  rcases acquire_cases hacq with
    ⟨-, -, rfl, rfl⟩ | ⟨i, -, -, -, ⟨-, -, rfl, rfl⟩ | ⟨-, made, hm, -, rfl⟩⟩
  · exact ⟨hp, hs⟩
  · exact ⟨hp, hs⟩
  · -- a new buffer, made after the old one was dropped
    obtain ⟨hs', b, rfl, hb⟩ := halloc.make (good_dropSlot halloc _ hs) hm
    refine ⟨fun j a ha => ?_, hs'⟩
    rw [getElem_set_slot] at ha
    split at ha
    · rw [Option.map_some, Option.some.injEq] at ha
      exact ha ▸ hb
    · exact hp j a ha

/-- With a sound allocator, a nonempty size and a free buffer, an acquire hands out a slot. -/
theorem acquire_isSome (halloc : alloc.Sound good) (hs : good s)
    (hacq : p.acquire alloc s w h = .ok (r, p', s')) (hw : w ≠ 0) (hh : h ≠ 0)
    (hfree : p.hasFree = true) : r.isSome := by
  rw [Option.isSome_iff_ne_none]
  intro hr
  -- each way of handing out nothing is excluded: the size, a free buffer, a sound allocator
  rcases (acquire_eq_none_iff hacq).mp hr with (hz | hz) | hbusy | ⟨i, -, -, s₁, hmake⟩
  · exact hw hz
  · exact hh hz
  · rw [hasFree_eq_false_iff.mpr hbusy] at hfree
    cases hfree
  · obtain ⟨-, b, hb, -⟩ := halloc.make (good_dropSlot halloc _ hs) hmake
    cases hb

/-- With every buffer busy, an acquire hands out nothing and changes nothing. -/
theorem acquire_of_allBusy {alloc : Allocator σ β} {p p' : Pool β}
    (hacq : p.acquire alloc s w h = .ok (r, p', s')) (hbusy : p.AllBusy) :
    r = none ∧ p' = p ∧ s' = s := by
  rcases acquire_cases hacq with ⟨-, hr, hp, hs⟩ | ⟨i, -, -, hi, -⟩
  · exact ⟨hr, hp, hs⟩
  · rw [freeSlot?_eq_none_iff.mpr hbusy] at hi
    cases hi

end Pool

/-! ### One render -/

namespace Panel

variable {η σ : Type} {p p' : Panel η} {pool pool' : Pool PixelBuffer}
  {alloc : Allocator σ PixelBuffer} {mem mem' : σ} {engine : TextEngine} {now : TimeOfDay}
  {frame : Option Frame}

theorem render_view (h : p.render pool alloc mem engine now = .ok (p', pool', mem', frame)) :
    p'.view = p.view := by
  obtain ⟨_, _, _, rfl⟩ := render_panel h
  rfl

/-- What a render does under a sound allocator, from a good state and a roomy pool. -/
structure Rendered (good : σ → Prop) (p p' : Panel η) (pool pool' : Pool PixelBuffer) (mem' : σ)
    (frame : Option Frame) : Prop where
  good : good mem'
  roomy : pool'.Roomy
  /-- With a buffer free, the frame is drawn. -/
  drawn : p.Renderable → pool.hasFree = true → frame.isSome
  /-- With every buffer busy, the frame is pending and the pool left alone. -/
  pending : p.Renderable → pool.AllBusy → p'.pendingFrame = true ∧ pool' = pool

theorem Rendered.of_not_renderable {good : σ → Prop} (hr : ¬p.Renderable) (hmem : good mem')
    (hpool : pool'.Roomy) : Rendered good p p' pool pool' mem' frame :=
  ⟨hmem, hpool, fun h => absurd h hr, fun h => absurd h hr⟩

/-- A renderable panel left without a frame has one pending, with every buffer busy. -/
theorem Rendered.pending_of_none {good : σ → Prop}
    (hR : Rendered good p p' pool pool' mem' none) (hr : p.Renderable) :
    p'.pendingFrame = true ∧ pool'.AllBusy := by
  have hbusy : pool.AllBusy := by
    rw [← Pool.hasFree_eq_false_iff]
    cases hfree : pool.hasFree
    · rfl
    · exact absurd (hR.drawn hr hfree) (by simp)
  obtain ⟨hpend, rfl⟩ := hR.pending hr hbusy
  exact ⟨hpend, hbusy⟩

/-- A physical size at a scale of at least one is empty only for an empty logical size. -/
theorem physicalSize?_ne_zero {w h : Nat} {scale : Int} {pw ph : Nat} (hs : 1 ≤ scale)
    (hsize : physicalSize? w h scale = some (pw, ph)) (hw : w ≠ 0) (hh : h ≠ 0) :
    pw ≠ 0 ∧ ph ≠ 0 := by
  unfold physicalSize? at hsize
  rw [if_neg (by omega)] at hsize
  dsimp only at hsize
  split at hsize
  · cases hsize
    have hpos : scale.toNat ≠ 0 := by omega
    exact ⟨Nat.mul_ne_zero hw hpos, Nat.mul_ne_zero hh hpos⟩
  · cases hsize

/-- **What one render does**, with a sound allocator and a text engine that draws in place. -/
theorem render_sound {good : σ → Prop} (halloc : alloc.Sound good) (he : engine.KeepsSize)
    (hscale : p.ScaleInRange) (hmem : good mem) (hpool : pool.Roomy)
    (h : p.render pool alloc mem engine now = .ok (p', pool', mem', frame)) :
    Rendered good p p' pool pool' mem' frame := by
  unfold render at h
  dsimp only at h
  split at h
  · -- not configured
    rename_i hconf
    cases h
    exact .of_not_renderable (fun ⟨hw, hh, _⟩ => hconf.elim hw hh) hmem hpool
  split at h
  case h_2 hsize =>
    -- no representable size
    cases h
    refine .of_not_renderable (fun ⟨_, _, hs⟩ => ?_) hmem hpool
    obtain ⟨⟨pw, ph⟩, hs⟩ := Option.isSome_iff_exists.mp hs
    exact hsize pw ph hs
  rename_i pw ph hsize
  have hconf : p.state.width ≠ 0 ∧ p.state.height ≠ 0 := by omega
  obtain ⟨hpw, hph⟩ := physicalSize?_ne_zero hscale.1 hsize hconf.1 hconf.2
  have hr : p.Renderable := ⟨hconf.1, hconf.2, by rw [hsize]; rfl⟩
  obtain ⟨_, -, h⟩ := Checked.bind_eq_ok.mp h
  obtain ⟨⟨slot?, pool₁, mem₁⟩, hacq, h⟩ := Checked.bind_eq_ok.mp h
  obtain ⟨hroomy₁, hgood₁⟩ := hpool.acquire halloc hmem hacq
  cases slot? with
  | some i =>
    -- a buffer was handed out: it has the physical size and room for it
    dsimp only at h
    obtain ⟨-, a, ha, rfl, rfl⟩ := Pool.acquire_eq_some hacq rfl
    have hbuf : pool₁.buffer? i = some a.buffer := by
      simp only [Pool.buffer?, ha, Option.map_some]
    have hroom := hroomy₁ i a ha
    rw [hbuf] at h
    dsimp only at h
    rw [hroom.create? p.state.scale] at h
    dsimp only at h
    obtain ⟨c, hpaint, h⟩ := Checked.bind_eq_ok.mp h
    cases h
    have hsize' : c.finish.data.size = a.buffer.pixels.size := by
      rw [Canvas.size_finish, Scene.size_paint he hpaint]
    refine ⟨hgood₁, (hroomy₁.modifyBuffer ha hsize').submit i, fun _ _ => rfl, fun _ hbusy => ?_⟩
    obtain ⟨hn, -⟩ := Pool.acquire_of_allBusy hacq hbusy
    cases hn
  | none =>
    -- no buffer: only for want of a free one
    cases h
    refine ⟨hgood₁, hroomy₁, fun _ hfree => ?_, fun _ hbusy => ?_⟩
    · have hsome := Pool.acquire_isSome halloc hmem hacq hpw hph hfree
      cases hsome
    · obtain ⟨-, rfl, -⟩ := Pool.acquire_of_allBusy hacq hbusy
      rw [Pool.hasFree_eq_false_iff.mpr hbusy]
      exact ⟨rfl, rfl⟩

end Panel

end DeskPanel
