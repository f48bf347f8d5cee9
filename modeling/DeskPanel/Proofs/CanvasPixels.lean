import DeskPanel.Proofs.Coverage
import DeskPanel.Proofs.RectCover

/-!
# The pixels of a canvas

A canvas holds four bytes a pixel, row after row. Clearing writes one colour into every pixel;
filling a rectangle with an opaque colour writes the colour into every pixel of each piece
`coverRects` gives; finishing swaps the first and third byte of every pixel. Each is stated
here pixel by pixel. A pixel write touches the four bytes of its pixel and nothing else, a run
maps each of its pixels once, and the rows of a piece are runs that never meet, since a piece
is no wider than a row.

An opaque colour comes out as its own bytes both ways a canvas turns a channel into a byte:
premultiplied by clearing, and through single precision by filling.

## Main definitions

* `Canvas.pixelAt` — the four bytes of a pixel.
* `Color.bytes` — a colour's bytes as a canvas holds them, red first.

## Main results

* `Canvas.pixelAt_clear`, `Canvas.pixelAt_fillRect`, `Canvas.pixelAt_finish`.
* `Color.premultiplied_le_alpha` — no premultiplied byte exceeds the alpha.
* `Color.bytesOf_fillSource`, `Color.bytesOf_premultiplied` — the bytes of an opaque colour.
-/

namespace DeskPanel

namespace Canvas

/-! ### Pixels of the memory -/

/-- The four bytes of pixel `p` of the memory. -/
def pixelAt (d : ByteArray) (p : Nat) : UInt8 × UInt8 × UInt8 × UInt8 :=
  (getByte d (p * 4), getByte d (p * 4 + 1), getByte d (p * 4 + 2), getByte d (p * 4 + 3))

/-- Writes the four bytes of pixel `p`. -/
def setPixel (d : ByteArray) (p : Nat) (v : UInt8 × UInt8 × UInt8 × UInt8) : ByteArray :=
  putByte (putByte (putByte (putByte d (p * 4) v.1) (p * 4 + 1) v.2.1) (p * 4 + 2) v.2.2.1)
    (p * 4 + 3) v.2.2.2

@[simp] theorem size_setPixel (d : ByteArray) (p : Nat) (v : UInt8 × UInt8 × UInt8 × UInt8) :
    (setPixel d p v).size = d.size := by
  simp only [setPixel, size_putByte]

theorem mapPixels_succ (d : ByteArray) (start n : Nat)
    (f : UInt8 × UInt8 × UInt8 × UInt8 → UInt8 × UInt8 × UInt8 × UInt8) :
    mapPixels d start (n + 1) f =
      mapPixels (setPixel d start (f (pixelAt d start))) (start + 1) n f := by
  rw [mapPixels]
  rfl

theorem getByte_setPixel_of_ne (d : ByteArray) {p k : Nat} (v : UInt8 × UInt8 × UInt8 × UInt8)
    (hk : k / 4 ≠ p) : getByte (setPixel d p v) k = getByte d k := by
  unfold setPixel
  simp only [getByte_putByte, size_putByte]
  rw [if_neg (by omega), if_neg (by omega), if_neg (by omega), if_neg (by omega)]

theorem pixelAt_setPixel_self {d : ByteArray} {p : Nat} (hp : p * 4 + 3 < d.size)
    (v : UInt8 × UInt8 × UInt8 × UInt8) : pixelAt (setPixel d p v) p = v := by
  have h0 : p * 4 < d.size := by omega
  have h1 : p * 4 + 1 < d.size := by omega
  have h2 : p * 4 + 2 < d.size := by omega
  unfold pixelAt setPixel
  simp [getByte_putByte, h0, h1, h2, hp]

theorem pixelAt_setPixel {d : ByteArray} {p : Nat} (hp : p * 4 + 3 < d.size)
    (v : UInt8 × UInt8 × UInt8 × UInt8) (q : Nat) :
    pixelAt (setPixel d p v) q = if q = p then v else pixelAt d q := by
  split
  · rename_i hq
    rw [hq]
    exact pixelAt_setPixel_self hp v
  · rename_i hq
    unfold pixelAt
    rw [getByte_setPixel_of_ne d v (by omega), getByte_setPixel_of_ne d v (by omega),
      getByte_setPixel_of_ne d v (by omega), getByte_setPixel_of_ne d v (by omega)]

/-- Mapping a run of pixels maps each pixel of the run once and leaves the others. -/
theorem pixelAt_mapPixels (f : UInt8 × UInt8 × UInt8 × UInt8 → UInt8 × UInt8 × UInt8 × UInt8)
    (n : Nat) : ∀ {d : ByteArray} {start : Nat}, (start + n) * 4 ≤ d.size → ∀ q,
      pixelAt (mapPixels d start n f) q =
        if start ≤ q ∧ q < start + n then f (pixelAt d q) else pixelAt d q := by
  induction n with
  | zero =>
    intro d start _ q
    rw [if_neg (by omega)]
    rfl
  | succ n ih =>
    intro d start hsize q
    rw [mapPixels_succ, ih (by simp only [size_setPixel]; omega) q, pixelAt_setPixel (by omega)]
    -- the head pixel is written first, and the rest of the run starts after it
    by_cases hq : q = start
    · rw [if_neg (by omega), if_pos hq, if_pos (by omega), hq]
    · rw [if_neg hq]
      by_cases hin : start + 1 ≤ q ∧ q < start + 1 + n
      · rw [if_pos hin, if_pos (by omega)]
      · rw [if_neg hin, if_neg (by omega)]

/-- Pixel `(i, j)` of a memory `stride` pixels wide lies in the run of row `y` from column `x`
exactly when it is in row `y` and in the columns of the run, the run being no wider than a
row. -/
theorem mem_run_iff {stride x count y i j : Nat} (hi : i < stride) (hxc : x + count ≤ stride) :
    (y * stride + x ≤ j * stride + i ∧ j * stride + i < y * stride + x + count) ↔
      (j = y ∧ x ≤ i ∧ i < x + count) := by
  constructor
  · rintro ⟨h1, h2⟩
    have hj : j = y := by
      rcases Nat.lt_trichotomy j y with h | h | h
      · have := Nat.mul_le_mul_right stride (Nat.succ_le_of_lt h)
        rw [Nat.succ_mul] at this
        omega
      · exact h
      · have := Nat.mul_le_mul_right stride (Nat.succ_le_of_lt h)
        rw [Nat.succ_mul] at this
        omega
    subst hj
    omega
  · rintro ⟨rfl, h1, h2⟩
    omega

/-- Mapping rows of a run each maps the pixels of the rectangle they make once and leaves the
others. -/
theorem pixelAt_mapRows (f : UInt8 × UInt8 × UInt8 × UInt8 → UInt8 × UInt8 × UInt8 × UInt8)
    {stride x count : Nat} (hxc : x + count ≤ stride) (rows : Nat) :
    ∀ {d : ByteArray} {y : Nat}, (y + rows) * stride * 4 ≤ d.size → ∀ {i : Nat}, i < stride →
      ∀ j, pixelAt (mapRows d stride x y count rows f) (j * stride + i) =
        if y ≤ j ∧ j < y + rows ∧ x ≤ i ∧ i < x + count then f (pixelAt d (j * stride + i))
        else pixelAt d (j * stride + i) := by
  induction rows with
  | zero =>
    intro d y _ i _ j
    rw [if_neg (by omega)]
    rfl
  | succ rows ih =>
    intro d y hsize i hi j
    -- row `y` ends inside the memory, as do the rows after it
    have hrow := Nat.mul_le_mul_right stride (show y + 1 ≤ y + (rows + 1) by omega)
    rw [Nat.succ_mul] at hrow
    rw [mapRows, ih (by rw [size_mapPixels, show y + 1 + rows = y + (rows + 1) by omega]; exact hsize)
      hi, pixelAt_mapPixels f count (by omega)]
    have hrun := mem_run_iff (y := y) (j := j) hi hxc
    by_cases hj : j = y
    · rw [if_neg (by omega)]
      by_cases hin : x ≤ i ∧ i < x + count
      · rw [if_pos (hrun.mpr ⟨hj, hin⟩), if_pos (by omega)]
      · rw [if_neg (fun h => hin (hrun.mp h).2), if_neg (by omega)]
    · rw [if_neg (fun h => hj (hrun.mp h).1)]
      by_cases hin : y + 1 ≤ j ∧ j < y + 1 + rows ∧ x ≤ i ∧ i < x + count
      · rw [if_pos hin, if_pos (by omega)]
      · rw [if_neg hin, if_neg (by omega)]

/-! ### Clearing, filling and finishing -/

@[simp] theorem width_withData (c : Canvas) (f : ByteArray → ByteArray) :
    (c.withData f).width = c.width := by
  cases c
  rfl

@[simp] theorem height_withData (c : Canvas) (f : ByteArray → ByteArray) :
    (c.withData f).height = c.height := by
  cases c
  rfl

@[simp] theorem scale_withData (c : Canvas) (f : ByteArray → ByteArray) :
    (c.withData f).scale = c.scale := by
  cases c
  rfl

/-- Clearing writes the colour, premultiplied, into every pixel of the canvas. -/
theorem pixelAt_clear {c : Canvas} (hroom : c.byteLength ≤ c.data.size) (color : Color) {q : Nat}
    (hq : q < c.width * c.height) : pixelAt (c.clear color).data q = bytesOf color.premultiplied := by
  unfold clear
  dsimp only
  unfold byteLength at hroom
  rw [data_withData, pixelAt_mapPixels _ _ (by omega), if_pos (by omega)]

/-- Finishing swaps the first and third byte of every pixel of the canvas. -/
theorem pixelAt_finish {c : Canvas} (hroom : c.byteLength ≤ c.data.size) {q : Nat}
    (hq : q < c.width * c.height) {r g b a : UInt8} (hp : pixelAt c.data q = (r, g, b, a)) :
    pixelAt c.finish.data q = (b, g, r, a) := by
  unfold finish
  dsimp only
  unfold byteLength at hroom
  rw [data_withData, pixelAt_mapPixels _ _ (by omega), if_pos (by omega), hp]

/-- A solid source is written as it is, whatever the pixel held. -/
theorem fillWith_solid (src : List Nat) : fillWith src true = fun _ => bytesOf src := by
  funext px
  rfl

/-- Filling pieces of a memory `stride` pixels wide and `height` rows high with one value writes
it into every pixel a piece covers and leaves the others; later pieces write the same value, so
only whether some piece covers a pixel matters. -/
theorem pixelAt_foldl_fill (v : UInt8 × UInt8 × UInt8 × UInt8) {stride height : Nat} :
    ∀ {pieces : List PixelRect} {d : ByteArray},
      (∀ r ∈ pieces, r.x0 < r.x1 ∧ r.x1 ≤ stride ∧ r.y0 < r.y1 ∧ r.y1 ≤ height) →
      height * stride * 4 ≤ d.size → ∀ {i : Nat}, i < stride → ∀ j,
        pixelAt (pieces.foldl (fun d r =>
            mapRows d stride r.x0 r.y0 (r.x1 - r.x0) (r.y1 - r.y0) fun _ => v) d) (j * stride + i) =
          if ∃ r ∈ pieces, r.Covers i j then v else pixelAt d (j * stride + i)
  | [], d, _, _, i, _, j => by simp
  | r :: rs, d, hr, hsize, i, hi, j => by
    obtain ⟨hx, hx1, hy, hy1⟩ := hr r List.mem_cons_self
    have hrows := Nat.mul_le_mul_right stride (show r.y0 + (r.y1 - r.y0) ≤ height by omega)
    rw [List.foldl_cons, pixelAt_foldl_fill v (fun r' h => hr r' (List.mem_cons_of_mem _ h))
      (by rw [size_mapRows]; exact hsize) hi j, pixelAt_mapRows _ (by omega) _ (by omega) hi j]
    by_cases hrest : ∃ r' ∈ rs, r'.Covers i j
    · obtain ⟨r', hr', hc'⟩ := hrest
      rw [if_pos ⟨r', hr', hc'⟩, if_pos ⟨r', List.mem_cons_of_mem _ hr', hc'⟩]
    · rw [if_neg hrest]
      by_cases hc : r.Covers i j
      · unfold PixelRect.Covers at hc
        rw [if_pos (by omega), if_pos ⟨r, List.mem_cons_self, hc⟩]
      · have hnone : ¬∃ r' ∈ r :: rs, r'.Covers i j := by
          rintro ⟨r', hr', hc'⟩
          rcases List.mem_cons.mp hr' with rfl | hr'
          · exact hc hc'
          · exact hrest ⟨r', hr', hc'⟩
        unfold PixelRect.Covers at hc
        rw [if_neg (by omega), if_neg hnone]

/-- Filling with an opaque colour writes its source bytes into every pixel that a piece of the
rectangle covers, and leaves the others. -/
theorem pixelAt_fillRect {c : Canvas} (hroom : c.byteLength ≤ c.data.size) (x y w h : Int)
    {color : Color} (hsolidColour : color.alpha = 255) {i : Nat} (hi : i < c.width) (j : Nat) :
    pixelAt (c.fillRect x y w h color).data (j * c.width + i) =
      if ∃ r ∈ coverRects x y w h c.scale c.width c.height, r.Covers i j then
        bytesOf (fillSource color)
      else pixelAt c.data (j * c.width + i) := by
  have hsolid : (color.alpha == 255) = true := by rw [hsolidColour]; rfl
  unfold fillRect
  dsimp only
  unfold byteLength at hroom
  rw [data_withData, hsolid, fillWith_solid]
  exact pixelAt_foldl_fill _ (coverRects_within x y w h c.scale c.width c.height)
    (by rw [Nat.mul_comm c.height]; exact hroom) hi j

@[simp] theorem width_fillRect (c : Canvas) (x y w h : Int) (color : Color) :
    (c.fillRect x y w h color).width = c.width := by
  simp only [fillRect, width_withData]

@[simp] theorem height_fillRect (c : Canvas) (x y w h : Int) (color : Color) :
    (c.fillRect x y w h color).height = c.height := by
  simp only [fillRect, height_withData]

@[simp] theorem scale_fillRect (c : Canvas) (x y w h : Int) (color : Color) :
    (c.fillRect x y w h color).scale = c.scale := by
  simp only [fillRect, scale_withData]

@[simp] theorem width_clear (c : Canvas) (color : Color) : (c.clear color).width = c.width := by
  simp only [clear, width_withData]

@[simp] theorem height_clear (c : Canvas) (color : Color) :
    (c.clear color).height = c.height := by
  simp only [clear, height_withData]

@[simp] theorem scale_clear (c : Canvas) (color : Color) : (c.clear color).scale = c.scale := by
  simp only [clear, scale_withData]

@[simp] theorem width_finish (c : Canvas) : c.finish.width = c.width := by
  simp only [finish, width_withData]

@[simp] theorem height_finish (c : Canvas) : c.finish.height = c.height := by
  simp only [finish, height_withData]

/-! ### The bytes of an opaque colour -/

/-- Every byte comes back from its single-precision fraction of 255. -/
theorem toByte_unit : ∀ v < 256, toByte (unit v) = v := by decide +kernel

end Canvas

namespace Color

/-- The bytes of a colour as a canvas holds them: red, green, blue and alpha. -/
def bytes (c : Color) : UInt8 × UInt8 × UInt8 × UInt8 :=
  (c.red.toUInt8, c.green.toUInt8, c.blue.toUInt8, c.alpha.toUInt8)

theorem red_lt (c : Color) : c.red < 256 := Nat.mod_lt _ (by decide)

theorem green_lt (c : Color) : c.green < 256 := Nat.mod_lt _ (by decide)

theorem blue_lt (c : Color) : c.blue < 256 := Nat.mod_lt _ (by decide)

/-- Filling sends the channels of an opaque colour through single precision and back. -/
theorem fillSource_of_solid {c : Color} (h : c.alpha = 255) :
    Canvas.fillSource c = [c.red, c.green, c.blue, c.alpha] := by
  unfold Canvas.fillSource
  -- the composition is rewritten, not unfolded, so that the kernel never runs the conversion
  rw [if_pos h, List.map_cons, List.map_cons, List.map_cons, List.map_nil, Function.comp_apply,
    Function.comp_apply, Function.comp_apply, Canvas.toByte_unit _ c.red_lt,
    Canvas.toByte_unit _ c.green_lt, Canvas.toByte_unit _ c.blue_lt, h]
  rfl

/-- Premultiplying leaves the channels of an opaque colour as they are. -/
theorem premultiplied_of_solid {c : Color} (h : c.alpha = 255) :
    c.premultiplied = [c.red, c.green, c.blue, c.alpha] := by
  have hr := c.red_lt
  have hg := c.green_lt
  have hb := c.blue_lt
  unfold premultiplied weigh
  rw [h, show (c.red * 255 + 127) / 255 = c.red by omega,
    show (c.green * 255 + 127) / 255 = c.green by omega,
    show (c.blue * 255 + 127) / 255 = c.blue by omega]

/-- Weighing never raises a channel above its alpha, so every byte of a premultiplied colour is at
most the colour's alpha. -/
theorem premultiplied_le_alpha (c : Color) : ∀ v ∈ c.premultiplied, v ≤ c.alpha := by
  have hweigh : ∀ v, v < 256 → weigh v c.alpha ≤ c.alpha := by
    intro v hv
    have hva : v * c.alpha ≤ 255 * c.alpha := Nat.mul_le_mul_right _ (by omega)
    unfold weigh
    exact Nat.lt_succ_iff.mp ((Nat.div_lt_iff_lt_mul (by decide)).mpr (by omega))
  intro v hv
  simp only [premultiplied, List.mem_cons, List.not_mem_nil, or_false] at hv
  rcases hv with rfl | rfl | rfl | rfl
  · exact hweigh _ c.red_lt
  · exact hweigh _ c.green_lt
  · exact hweigh _ c.blue_lt
  · exact Nat.le_refl _

example : premultiplied ⟨0xFF800080⟩ = [128, 64, 0, 128] := by decide

theorem bytesOf_fillSource {c : Color} (h : c.alpha = 255) :
    Canvas.bytesOf (Canvas.fillSource c) = c.bytes := by
  rw [fillSource_of_solid h]
  rfl

theorem bytesOf_premultiplied {c : Color} (h : c.alpha = 255) :
    Canvas.bytesOf c.premultiplied = c.bytes := by
  rw [premultiplied_of_solid h]
  rfl

end Color

end DeskPanel
