import DeskPanel.Proofs.CanvasPixels
import DeskPanel.Proofs.HitTest
import DeskPanel.Proofs.RenderOutcome

/-!
# The painted frame

With text drawn by the plain engine, which draws nothing, painting a scene is clearing to the
background, filling the band of each button of a tracked window in the window's colour, and
filling the line along the bottom edge in the text colour. When the palette is opaque and every
rectangle is exact at the scale, each pixel of the frame is the bytes of one colour, the one
`Scene.colourAt` gives: the line, else the last button whose band fills the pixel, else the
background. A render submits that frame with red and blue swapped.

The bands are the ones `Fills` describes. On a frame drawn in one tile at scale one, a band of
height zero, from a panel 4 pixels high, still fills the row below the inset.

## Main definitions

* `Palette.Solid` — all four colours of the palette are opaque.
* `Scene.colourAt` — the colour of a pixel of the painted frame.
* `Scene.ExactAt` — every rectangle of the scene is exact at a scale.

## Main results

* `Scene.pixelAt_paint` — painting gives every pixel the bytes of its colour.
* `Panel.render_paints_layout` — the frame a render submits is the layout painted in the palette.
* `Panel.render_fills_band_of_height_zero` — on a panel 4 pixels high, the empty band of a
  button still fills a row.
-/

namespace DeskPanel

open Canvas

/-- The bytes of a colour as a submitted frame holds them: blue, green, red and alpha. -/
def Color.bgra (c : Color) : UInt8 × UInt8 × UInt8 × UInt8 :=
  (c.blue.toUInt8, c.green.toUInt8, c.red.toUInt8, c.alpha.toUInt8)

/-- All four colours of the palette are opaque. -/
def Palette.Solid (p : Palette) : Prop :=
  p.background.alpha = 255 ∧ p.text.alpha = 255 ∧ p.buttonBackground.alpha = 255 ∧
    p.buttonActive.alpha = 255

instance (p : Palette) : Decidable p.Solid := by
  unfold Palette.Solid
  infer_instance

/-- A checked fold whose every step that succeeds is a pure step is that pure fold. -/
theorem Checked.foldlM_eq_foldl {α β : Type} {f : β → α → Checked β} {g : β → α → β}
    (hfg : ∀ b a b', f b a = .ok b' → b' = g b a) :
    ∀ {xs : List α} {b b' : β}, xs.foldlM f b = .ok b' → b' = xs.foldl g b
  | [], _, _, h => by
    cases h
    rfl
  | a :: xs, b, _, h => by
    rw [List.foldlM_cons] at h
    obtain ⟨b₁, h₁, h⟩ := Checked.bind_eq_ok.mp h
    rw [List.foldl_cons, ← hfg b a b₁ h₁]
    exact Checked.foldlM_eq_foldl hfg h

/-! ### Bands and lines -/

/-- Two rectangles of one band, the first ending where or before the second begins and at least
one pixel wide, fill no pixel in common. -/
theorem Fills.not_both {s : Int} {pw ph : Nat} {xa wa xb wb y h : Int} {i j : Nat} (hs : 1 ≤ s)
    (hab : xa + wa ≤ xb) (hwa : 1 ≤ wa) (ha : Fills s pw ph xa y wa h i j)
    (hb : Fills s pw ph xb y wb h i j) : False := by
  unfold Fills at ha hb
  by_cases hone : s = 1 ∧ pw ≤ Cover.tileSide ∧ ph ≤ Cover.tileSide
  · rw [if_pos hone] at ha hb
    omega
  · rw [if_neg hone] at ha hb
    have := Int.mul_le_mul_of_nonneg_left hab (by omega : (0 : Int) ≤ s)
    omega

/-- The line along the bottom edge of a frame `s` times a logical `W × H` fills its last `s`
rows. -/
theorem fills_line_iff {s : Int} {W H pw ph i j : Nat} (hs : 1 ≤ s) (hpw : (pw : Int) = s * W)
    (hph : (ph : Int) = s * H) (hW : 1 ≤ W) (hi : i < pw) (hj : j < ph) :
    Fills s pw ph 0 (H - 1) W 1 i j ↔ s * (H - 1) ≤ j := by
  have hsub : s * ((H : Int) - 1) = s * H - s := by rw [Int.mul_sub, Int.mul_one]
  unfold Fills
  split
  · rename_i hone
    obtain ⟨rfl, -, -⟩ := hone
    rw [Int.one_mul] at hpw hph
    omega
  · rw [Int.mul_zero, Int.zero_add, Int.sub_add_cancel, hsub]
    omega

/-- A button's band fills the rectangle `[s·x, s·(x + w)) × [2s, s·(H − 2))` of the frame,
except on a frame drawn in one tile at scale one from a panel 4 pixels high: there the band is
empty, and rounding still fills row 2. -/
theorem fills_band_iff {s : Int} {pw ph i j : Nat} {x w H : Int} (hs : 1 ≤ s) (hw : 1 ≤ w)
    (hH : H ≠ 4 ∨ ¬(s = 1 ∧ pw ≤ Cover.tileSide ∧ ph ≤ Cover.tileSide)) :
    Fills s pw ph x 2 w (H - 4) i j ↔
      i < pw ∧ j < ph ∧ s * x ≤ i ∧ i < s * (x + w) ∧ 2 * s ≤ j ∧ j < s * (H - 2) := by
  have hend : s * (2 + (H - 4)) = s * H - 2 * s := by ring
  have hbottom : s * (H - 2) = s * H - 2 * s := by ring
  unfold Fills
  split
  · rename_i hone
    obtain ⟨rfl, hpw, hph⟩ := hone
    have hH4 : H ≠ 4 := hH.resolve_right fun h => h ⟨rfl, hpw, hph⟩
    rw [Int.max_eq_right hw]
    simp only [Int.one_mul] at hbottom ⊢
    -- the band is rounded to at least one row, which only an empty band tells apart
    by_cases h5 : 5 ≤ H
    · rw [Int.max_eq_right (by omega : (1 : Int) ≤ H - 4)]
      omega
    · omega
  · -- a panel less than 4 pixels high has no band either way
    have hlow : H < 4 → s * H ≤ 3 * s := fun h4 => by nlinarith
    rw [hend, hbottom, Int.mul_comm s 2]
    omega

namespace Scene

variable {η : Type} (s : Scene η)

/-! ### Painting without text -/

/-- The colour of a window's button. -/
def buttonFill (win : Tracked η) : Color :=
  if win.active then s.palette.buttonActive else s.palette.buttonBackground

/-- What painting a widget leaves on the canvas when no text is drawn: a button of a tracked
window fills its band, inset from the top and bottom edges, in the window's colour. -/
def fillWidget (c : Canvas) (w : Widget WindowKey) : Canvas :=
  match w.kind with
  | .button k =>
    match s.windows.get? k with
    | some win => c.fillRect w.x buttonInset w.width (s.height - 2 * buttonInset) (s.buttonFill win)
    | none => c
  | _ => c

variable {s}

theorem drawLabel_plain {c c' : Canvas} {text : String} {w : Widget WindowKey} {clipWidth : Int}
    (h : s.drawLabel .plain c text w clipWidth = .ok c') : c' = c := by
  unfold drawLabel at h
  obtain ⟨_, -, h⟩ := Checked.bind_eq_ok.mp h
  obtain ⟨_, -, h⟩ := Checked.bind_eq_ok.mp h
  obtain ⟨_, -, h⟩ := Checked.bind_eq_ok.mp h
  cases h
  rfl

theorem paintWidget_plain {c c' : Canvas} {w : Widget WindowKey}
    (h : s.paintWidget .plain c w = .ok c') : c' = s.fillWidget c w := by
  unfold paintWidget at h
  unfold fillWidget
  split at h
  · rename_i k hk
    simp only [hk]
    split at h
    · rename_i hnone
      simp only [hnone]
      cases h
      rfl
    · rename_i win hwin
      obtain ⟨v, hv, h⟩ := Checked.bind_eq_ok.mp h
      obtain ⟨_, -, h⟩ := Checked.bind_eq_ok.mp h
      simp only [hwin]
      rw [drawLabel_plain h, IntRange.sub_eq_ok hv]
      rfl
  · rename_i hk
    obtain ⟨_, -, h⟩ := Checked.bind_eq_ok.mp h
    simp only [hk]
    exact drawLabel_plain h
  · rename_i hk
    cases h
    simp only [hk]

/-- Painting with the plain engine is clearing, filling the buttons' bands and filling the line
along the bottom edge. -/
theorem paint_plain {c c' : Canvas} (h : s.paint .plain c = .ok c') :
    c' = (s.widgets.foldl s.fillWidget (c.clear s.palette.background)).fillRect 0 (s.height - 1)
      s.width 1 s.palette.text := by
  unfold paint at h
  obtain ⟨c₁, hfold, h⟩ := Checked.bind_eq_ok.mp h
  obtain ⟨b, hb, h⟩ := Checked.bind_eq_ok.mp h
  cases h
  rw [Checked.foldlM_eq_foldl (fun _ _ _ => paintWidget_plain) hfold, IntRange.sub_eq_ok hb]

@[simp] theorem width_fillWidget (c : Canvas) (w : Widget WindowKey) :
    (s.fillWidget c w).width = c.width := by
  unfold fillWidget
  split
  · split <;> simp
  · rfl

@[simp] theorem height_fillWidget (c : Canvas) (w : Widget WindowKey) :
    (s.fillWidget c w).height = c.height := by
  unfold fillWidget
  split
  · split <;> simp
  · rfl

@[simp] theorem scale_fillWidget (c : Canvas) (w : Widget WindowKey) :
    (s.fillWidget c w).scale = c.scale := by
  unfold fillWidget
  split
  · split <;> simp
  · rfl

@[simp] theorem size_fillWidget (c : Canvas) (w : Widget WindowKey) :
    (s.fillWidget c w).data.size = c.data.size := by
  unfold fillWidget
  split
  · split <;> simp
  · rfl

/-! ### The colour of each pixel -/

variable (s)

/-- The colour a widget leaves at physical pixel `(i, j)` of a `pw × ph` frame at scale `scale`,
over the colour `below`: a button of a tracked window gives its colour inside its band. -/
def widgetColour (scale : Int) (pw ph i j : Nat) (below : Color) (w : Widget WindowKey) : Color :=
  match w.kind with
  | .button k =>
    match s.windows.get? k with
    | some win =>
      if Fills scale pw ph w.x buttonInset w.width (s.height - 2 * buttonInset) i j then
        s.buttonFill win
      else below
    | none => below
  | _ => below

/-- The colour of physical pixel `(i, j)` of the painted frame: the line along the bottom edge,
over the buttons in the order they are painted, over the background. -/
def colourAt (scale : Int) (pw ph i j : Nat) : Color :=
  if Fills scale pw ph 0 (s.height - 1) s.width 1 i j then s.palette.text
  else s.widgets.foldl (s.widgetColour scale pw ph i j) s.palette.background

/-- Every rectangle the scene fills is exact at the scale: the line along the bottom edge and
each widget's band. -/
structure ExactAt (scale : Int) : Prop where
  line : ExactRect scale 0 (s.height - 1) s.width 1
  bands : ∀ w ∈ s.widgets, ExactRect scale w.x buttonInset w.width (s.height - 2 * buttonInset)

variable {s}

theorem buttonFill_alpha (hpal : s.palette.Solid) (win : Tracked η) :
    (s.buttonFill win).alpha = 255 := by
  unfold buttonFill
  split
  · exact hpal.2.2.2
  · exact hpal.2.2.1

section Pixel

variable {c : Canvas} (hroom : c.byteLength ≤ c.data.size) (hW : c.width ≤ 2 ^ 23)
  (hH : c.height ≤ 2 ^ 23) (hpal : s.palette.Solid) {i j : Nat} (hi : i < c.width)
include hroom hW hH hpal hi

/-- Painting one widget gives each pixel the colour the widget leaves over the pixel's colour. -/
theorem pixelAt_fillWidget {w : Widget WindowKey}
    (hw : ExactRect c.scale w.x buttonInset w.width (s.height - 2 * buttonInset)) {below : Color}
    (hp : pixelAt c.data (j * c.width + i) = below.bytes) :
    pixelAt (s.fillWidget c w).data (j * c.width + i) =
      (s.widgetColour c.scale c.width c.height i j below w).bytes := by
  unfold fillWidget widgetColour
  split
  · split
    · rename_i win _
      rw [pixelAt_fillRect hroom _ _ _ _ (buttonFill_alpha hpal win) hi]
      by_cases hf : Fills c.scale c.width c.height w.x buttonInset w.width
          (s.height - 2 * buttonInset) i j
      · rw [if_pos ((mem_coverRects_iff hw hW hH).mpr hf), if_pos hf,
          Color.bytesOf_fillSource (buttonFill_alpha hpal win)]
      · rw [if_neg (fun h => hf ((mem_coverRects_iff hw hW hH).mp h)), if_neg hf, hp]
    · exact hp
  · exact hp

end Pixel

@[simp] theorem byteLength_fillWidget (c : Canvas) (w : Widget WindowKey) :
    (s.fillWidget c w).byteLength = c.byteLength := by
  simp only [byteLength, width_fillWidget, height_fillWidget]

/-- Painting widgets in order gives each pixel the colours they leave, one over the other. -/
theorem pixelAt_foldl_fillWidget (hpal : s.palette.Solid) {i j : Nat} :
    ∀ (ws : List (Widget WindowKey)) (c : Canvas), c.byteLength ≤ c.data.size →
      c.width ≤ 2 ^ 23 → c.height ≤ 2 ^ 23 → i < c.width →
      (∀ w ∈ ws, ExactRect c.scale w.x buttonInset w.width (s.height - 2 * buttonInset)) →
      ∀ {below : Color}, pixelAt c.data (j * c.width + i) = below.bytes →
        pixelAt (ws.foldl s.fillWidget c).data (j * c.width + i) =
          (ws.foldl (s.widgetColour c.scale c.width c.height i j) below).bytes
  | [], _, _, _, _, _, _, _, hp => hp
  | w :: ws, c, hroom, hW, hH, hi, hws, below, hp => by
    have hstep := pixelAt_fillWidget hroom hW hH hpal hi (hws w List.mem_cons_self) hp
    -- the widget keeps the canvas's size and scale, so the rest paints over it alike
    have hrest := pixelAt_foldl_fillWidget hpal ws (s.fillWidget c w)
      (by rw [byteLength_fillWidget, size_fillWidget]; exact hroom)
      (by rw [width_fillWidget]; exact hW) (by rw [height_fillWidget]; exact hH)
      (by rw [width_fillWidget]; exact hi)
      (fun w' hw' => by rw [scale_fillWidget]; exact hws w' (List.mem_cons_of_mem _ hw'))
      (by rw [width_fillWidget]; exact hstep)
    simp only [width_fillWidget, height_fillWidget, scale_fillWidget] at hrest
    rw [List.foldl_cons, List.foldl_cons]
    exact hrest

@[simp] theorem width_foldl_fillWidget (ws : List (Widget WindowKey)) (c : Canvas) :
    (ws.foldl s.fillWidget c).width = c.width := by
  induction ws generalizing c with
  | nil => rfl
  | cons w ws ih => rw [List.foldl_cons, ih, width_fillWidget]

@[simp] theorem height_foldl_fillWidget (ws : List (Widget WindowKey)) (c : Canvas) :
    (ws.foldl s.fillWidget c).height = c.height := by
  induction ws generalizing c with
  | nil => rfl
  | cons w ws ih => rw [List.foldl_cons, ih, height_fillWidget]

@[simp] theorem scale_foldl_fillWidget (ws : List (Widget WindowKey)) (c : Canvas) :
    (ws.foldl s.fillWidget c).scale = c.scale := by
  induction ws generalizing c with
  | nil => rfl
  | cons w ws ih => rw [List.foldl_cons, ih, scale_fillWidget]

@[simp] theorem size_foldl_fillWidget (ws : List (Widget WindowKey)) (c : Canvas) :
    (ws.foldl s.fillWidget c).data.size = c.data.size := by
  induction ws generalizing c with
  | nil => rfl
  | cons w ws ih => rw [List.foldl_cons, ih, size_fillWidget]

theorem index_lt {W H i j : Nat} (hi : i < W) (hj : j < H) : j * W + i < W * H := by
  have h := Nat.mul_le_mul_right W (Nat.succ_le_of_lt hj)
  rw [Nat.succ_mul, Nat.mul_comm H W] at h
  omega

/-- **Painting a scene.** With the plain engine, an opaque palette, and every rectangle of the
scene exact at the canvas's scale on a canvas of at most `2 ^ 23` pixels each way, painting gives
every pixel of the canvas the bytes of its colour. -/
theorem pixelAt_paint (hpal : s.palette.Solid) {c c' : Canvas}
    (hroom : c.byteLength ≤ c.data.size) (hW : c.width ≤ 2 ^ 23) (hH : c.height ≤ 2 ^ 23)
    (hs : s.ExactAt c.scale) (h : s.paint .plain c = .ok c') {i j : Nat} (hi : i < c.width)
    (hj : j < c.height) :
    pixelAt c'.data (j * c.width + i) = (s.colourAt c.scale c.width c.height i j).bytes := by
  have hq := index_lt hi hj
  have hroom₀ : (c.clear s.palette.background).byteLength ≤
      (c.clear s.palette.background).data.size := by
    simp only [byteLength, width_clear, height_clear, size_clear]
    exact hroom
  -- under the line: the buttons painted over the cleared background
  have hbelow := pixelAt_foldl_fillWidget hpal s.widgets _ hroom₀
    (by rw [width_clear]; exact hW) (by rw [height_clear]; exact hH) (by rw [width_clear]; exact hi)
    (fun w hw => by rw [scale_clear]; exact hs.bands w hw)
    (by rw [width_clear, pixelAt_clear hroom _ hq, Color.bytesOf_premultiplied hpal.1])
  simp only [width_clear, height_clear, scale_clear] at hbelow
  have hroom₁ : (s.widgets.foldl s.fillWidget (c.clear s.palette.background)).byteLength ≤
      (s.widgets.foldl s.fillWidget (c.clear s.palette.background)).data.size := by
    simp only [byteLength, width_foldl_fillWidget, height_foldl_fillWidget, size_foldl_fillWidget,
      width_clear, height_clear, size_clear]
    exact hroom
  have hfill := pixelAt_fillRect hroom₁ 0 (s.height - 1) s.width 1 hpal.2.1
    (by rw [width_foldl_fillWidget, width_clear]; exact hi) j
  simp only [width_foldl_fillWidget, height_foldl_fillWidget, scale_foldl_fillWidget, width_clear,
    height_clear, scale_clear] at hfill
  rw [paint_plain h, hfill, colourAt]
  by_cases hline : Fills c.scale c.width c.height 0 (s.height - 1) s.width 1 i j
  · rw [if_pos ((mem_coverRects_iff hs.line hW hH).mpr hline), if_pos hline,
      Color.bytesOf_fillSource hpal.2.1]
  · rw [if_neg (fun h => hline ((mem_coverRects_iff hs.line hW hH).mp h)), if_neg hline, hbelow]

/-- A widget whose band does not fill a pixel leaves its colour alone. -/
theorem widgetColour_of_not_fills {scale : Int} {pw ph i j : Nat} {below : Color}
    {w : Widget WindowKey}
    (h : ∀ k, w.kind = .button k →
      ¬Fills scale pw ph w.x buttonInset w.width (s.height - 2 * buttonInset) i j) :
    s.widgetColour scale pw ph i j below w = below := by
  unfold widgetColour
  split
  · rename_i k hk
    split
    · rw [if_neg (h k hk)]
    · rfl
  · rfl

/-- Widgets none of whose buttons' bands fill a pixel leave its colour alone. -/
theorem foldl_widgetColour_of_none {scale : Int} {pw ph i j : Nat} :
    ∀ {ws : List (Widget WindowKey)} {below : Color},
      (∀ w ∈ ws, ∀ k, w.kind = .button k →
        ¬Fills scale pw ph w.x buttonInset w.width (s.height - 2 * buttonInset) i j) →
      ws.foldl (s.widgetColour scale pw ph i j) below = below
  | [], _, _ => rfl
  | w :: ws, below, h => by
    rw [List.foldl_cons, widgetColour_of_not_fills (h w List.mem_cons_self),
      foldl_widgetColour_of_none fun w' hw' => h w' (List.mem_cons_of_mem _ hw')]

/-- Over buttons laid out one after another, each at least one pixel wide, a pixel that the band
of a tracked window's button fills takes that window's colour: no other band fills it. -/
theorem foldl_widgetColour_of_fills {scale : Int} {pw ph i j : Nat} (hs : 1 ≤ scale) :
    ∀ {ws : List (Widget WindowKey)} {below : Color}, ws.Pairwise Widget.Precedes →
      (∀ w ∈ ws, ∀ k, w.kind = .button k → 1 ≤ w.width) →
      ∀ {b : Widget WindowKey} {k : WindowKey} {win : Tracked η}, b ∈ ws → b.kind = .button k →
        s.windows.get? k = some win →
        Fills scale pw ph b.x buttonInset b.width (s.height - 2 * buttonInset) i j →
        ws.foldl (s.widgetColour scale pw ph i j) below = s.buttonFill win
  | [], _, _, _, _, _, _, hb, _, _, _ => absurd hb List.not_mem_nil
  | a :: as, below, hpair, hwidth, b, k, win, hb, hk, hwin, hf => by
    rw [List.foldl_cons]
    obtain ⟨hhead, htail⟩ := List.pairwise_cons.mp hpair
    by_cases hbt : b ∈ as
    · exact foldl_widgetColour_of_fills hs htail
        (fun w hw => hwidth w (List.mem_cons_of_mem _ hw)) hbt hk hwin hf
    · -- the button is the head, and the buttons after it begin where or after it ends
      obtain rfl : b = a := (List.mem_cons.mp hb).resolve_right hbt
      have hfill : s.widgetColour scale pw ph i j below b = s.buttonFill win := by
        unfold widgetColour
        simp only [hk, hwin]
        rw [if_pos hf]
      rw [hfill]
      exact foldl_widgetColour_of_none fun w hw _ _ hfw =>
        Fills.not_both hs (hhead w hw) (hwidth b List.mem_cons_self k hk) hf hfw

theorem width_paint {c c' : Canvas} (h : s.paint .plain c = .ok c') : c'.width = c.width := by
  rw [paint_plain h, width_fillRect, width_foldl_fillWidget, width_clear]

theorem height_paint {c c' : Canvas} (h : s.paint .plain c = .ok c') : c'.height = c.height := by
  rw [paint_plain h, height_fillRect, height_foldl_fillWidget, height_clear]

theorem byteLength_paint {c c' : Canvas} (h : s.paint .plain c = .ok c') :
    c'.byteLength = c.byteLength := by
  simp only [byteLength, width_paint h, height_paint h]

end Scene

/-! ### The widgets of texts that fit -/

/-- Seven pixels a character in exact arithmetic: the widths of `fixedWidth` on texts that fit,
and never a negative one. -/
def exactWidth : Measure := fun s => pure ⟨7 * s.length, 12⟩

theorem exactWidth_nonneg : exactWidth.Nonneg := by
  intro s size h
  cases h
  exact Int.mul_nonneg (by decide) (Int.natCast_nonneg _)

theorem width_exactWidth {s : String} (hs : TextFits s) :
    Measure.width exactWidth s = Measure.width fixedWidth s := by
  rw [Measure.width_of_eq_ok (fixedWidth_of_fits hs)]
  rfl

namespace RowLayout

variable {κ : Type} (l : RowLayout κ)

theorem serial_congr {α β : Type} {seg seg' : Int → α → List β} {d d' : α → Int} :
    ∀ {as : List α} (x : Int), (∀ a ∈ as, d a = d' a ∧ ∀ y, seg y a = seg' y a) →
      serial seg d x as = serial seg' d' x as
  | [], _, _ => rfl
  | a :: as, x, h => by
    obtain ⟨hd, hs⟩ := h a List.mem_cons_self
    rw [serial_cons, serial_cons, hs, hd,
      serial_congr _ fun b hb => h b (List.mem_cons_of_mem _ hb)]

/-- The row's widgets depend on the measure only through the widths of the row's texts. -/
theorem plan_congr {m m' : Measure}
    (hc : Measure.width m l.clockLabel = Measure.width m' l.clockLabel)
    (hb : ∀ b ∈ l.buttons, Measure.width m b.2 = Measure.width m' b.2) :
    l.plan m = l.plan m' := by
  have hext : ∀ b ∈ l.buttons, buttonExtent m b.2 = buttonExtent m' b.2 := fun b hb' => by
    unfold buttonExtent
    rw [hb b hb']
  have hstep : ∀ b ∈ l.buttons, buttonStep m b = buttonStep m' b := fun b hb' => by
    unfold buttonStep
    rw [hext b hb']
  have hclock : l.clockExtent m = l.clockExtent m' := by
    unfold clockExtent
    rw [hc]
  have hnat : l.naturalExtent m = l.naturalExtent m' := by
    funext i
    cases i with
    | taskbar => simp only [naturalExtent, List.map_congr_left hstep]
    | clock => simp only [naturalExtent, hclock]
    | spacer => rfl
  have hleft : l.leftover m = l.leftover m' := by
    unfold leftover fixedExtent
    rw [hnat]
  have hitem : l.itemExtent m = l.itemExtent m' := by
    funext i
    cases i <;> simp only [itemExtent, hnat, hleft]
  rw [plan_eq_serial, plan_eq_serial]
  refine serial_congr 0 fun i _ => ⟨congrFun hitem i, fun y => ?_⟩
  cases i with
  | taskbar =>
    simp only [segment]
    rw [buttonsAt_eq_serial, buttonsAt_eq_serial]
    exact serial_congr _ fun b hb' => ⟨hstep b hb', fun z => by unfold buttonAt; rw [hext b hb']⟩
  | clock => simp only [segment, hclock]
  | spacer => simp only [segment, hleft]

/-- A button of the row has a positive width, under a measure that gives no negative widths. -/
theorem width_pos_of_button {m : Measure} (hm : m.Nonneg) {w : Widget κ} (hw : w ∈ l.plan m)
    {k : κ} (hk : w.kind = .button k) : 0 < w.width := by
  rw [plan_eq_serial] at hw
  obtain ⟨i, -, x, hw⟩ := mem_serial hw
  cases i with
  | taskbar =>
    rw [segment, buttonsAt_eq_serial] at hw
    obtain ⟨b, -, y, hw⟩ := mem_serial hw
    rw [List.mem_singleton.mp hw]
    exact buttonExtent_pos hm b.2
  | clock | spacer =>
    rw [segment] at hw
    rw [List.mem_singleton.mp hw] at hk
    cases hk

end RowLayout

/-! ### The frame a render submits -/

/-- A canvas made over some memory is that memory at the size, with a scale of at least one, and
the memory has room for it. -/
theorem Canvas.create?_eq_some {d : ByteArray} {w h : Nat} {scale : Int} {c : Canvas}
    (hc : Canvas.create? d w h scale = some c) :
    c = ⟨d, w, h, max scale 1⟩ ∧ c.byteLength ≤ c.data.size := by
  unfold Canvas.create? at hc
  dsimp only at hc
  split at hc
  · rename_i hfit
    cases hc
    simp only [Bool.and_eq_true, decide_eq_true_eq] at hfit
    exact ⟨rfl, hfit.2⟩
  · cases hc

namespace Panel

variable {η σ : Type}

/-- The scene a render paints over the widgets `ws` at the time of day `now`. -/
def scene (p : Panel η) (ws : List (Widget WindowKey)) (now : TimeOfDay) : Scene η :=
  ⟨ws, p.windows, now.text, IntRange.i32.wrap p.state.width, IntRange.i32.wrap p.state.height,
    p.state.palette, p.buttonLabels⟩

variable {p p' : Panel η} {pool pool' : Pool PixelBuffer} {alloc : Allocator σ PixelBuffer}
  {mem mem' : σ} {now : TimeOfDay}

/-- A render that submits a frame lays the row out, makes a canvas of the physical size over a
buffer, paints the scene of the new widgets on it, and submits the finished memory. -/
theorem render_frame {f : Frame}
    (h : p.render pool alloc mem .plain now = .ok (p', pool', mem', some f)) :
    physicalSize? p.state.width p.state.height p.state.scale = some (f.width, f.height) ∧
      f.scale = p.state.scale ∧ (p.row now).compute fixedWidth = .ok p'.widgets ∧
      ∃ c c', Canvas.create? c.data f.width f.height p.state.scale = some c ∧
        (p.scene p'.widgets now).paint .plain c = .ok c' ∧ f.pixels = c'.finish.data := by
  by_cases hconf : p.state.width = 0 ∨ p.state.height = 0
  · rw [render_of_unconfigured hconf] at h
    cases h
  cases hsize : physicalSize? p.state.width p.state.height p.state.scale with
  | none =>
    rw [render_of_unsized hsize] at h
    cases h
  | some size =>
    obtain ⟨pw, ph⟩ := size
    unfold render at h
    dsimp only [TextEngine.plain] at h
    rw [if_neg hconf, hsize] at h
    dsimp only at h
    obtain ⟨ws, hws, h⟩ := Checked.bind_eq_ok.mp h
    obtain ⟨⟨slot?, pool₁, mem₁⟩, -, h⟩ := Checked.bind_eq_ok.mp h
    cases slot? with
    | none => cases h
    | some i =>
      dsimp only at h
      cases hbuf : pool₁.buffer? i with
      | none =>
        rw [hbuf] at h
        cases h
      | some buf =>
        rw [hbuf] at h
        dsimp only at h
        cases hc : Canvas.create? buf.pixels pw ph p.state.scale with
        | none =>
          rw [hc] at h
          cases h
        | some c =>
          rw [hc] at h
          dsimp only at h
          obtain ⟨c', hpaint, h⟩ := Checked.bind_eq_ok.mp h
          cases h
          have hdata : c.data = buf.pixels := by rw [(Canvas.create?_eq_some hc).1]
          exact ⟨rfl, rfl, hws, c, c', by rw [hdata]; exact hc, hpaint, rfl⟩

/-- The widgets a render lays out over texts that fit follow one another from zero, and each
button is for a tracked window and has a positive width. -/
theorem render_widgets [BEq η] {f : Frame}
    (h : p.render pool alloc mem .plain now = .ok (p', pool', mem', some f))
    (hfit : (p.row now).TextsFit) :
    Laid 0 ((p.row now).totalExtent exactWidth) p'.widgets ∧
      ∀ w ∈ p'.widgets, ∀ k, w.kind = .button k →
        0 < w.width ∧ ∃ win, p.windows.get? k = some win := by
  obtain ⟨-, -, hws, -⟩ := render_frame h
  obtain ⟨hplan, -⟩ := RowLayout.compute_eq_ok _ _ hws
  -- the texts fit, so the pass lays out what a measure without negative widths does
  have hsame : (p.row now).plan fixedWidth = (p.row now).plan exactWidth :=
    RowLayout.plan_congr _ (width_exactWidth hfit.1).symm
      fun b hb => (width_exactWidth (hfit.2 b hb)).symm
  rw [hplan, hsame]
  refine ⟨RowLayout.plan_laid _ exactWidth_nonneg, fun w hw k hk => ⟨RowLayout.width_pos_of_button _
    exactWidth_nonneg hw hk, ?_⟩⟩
  obtain ⟨-, label, hb⟩ := RowLayout.button_of_mem_plan _ hw hk
  obtain ⟨⟨k', win⟩, hwin, he⟩ := List.mem_map.mp hb
  cases he
  exact ⟨win, Registry.get?_of_mem_entries hwin⟩

/-- A physical size with a pixel comes from a scale and a logical size of at least one, and is
the logical size times the scale. -/
theorem physicalSize?_pos {w h pw ph : Nat} {scale : Int}
    (hsize : physicalSize? w h scale = some (pw, ph)) (hpw : 0 < pw) (hph : 0 < ph) :
    1 ≤ scale ∧ 1 ≤ w ∧ 1 ≤ h ∧ (pw : Int) = scale * w ∧ (ph : Int) = scale * h := by
  obtain ⟨hs0, -, -, rfl, rfl⟩ := physicalSize?_eq_some_iff.mp hsize
  have hs1 : 1 ≤ scale := by
    by_contra hlt
    rw [show scale.toNat = 0 by omega, Nat.mul_zero] at hpw
    omega
  refine ⟨hs1, Nat.pos_of_ne_zero fun h0 => ?_, Nat.pos_of_ne_zero fun h0 => ?_, ?_, ?_⟩
  · rw [h0, Nat.zero_mul] at hpw
    omega
  · rw [h0, Nat.zero_mul] at hph
    omega
  · rw [natCast_mul_toNat _ hs0, Int.mul_comm]
  · rw [natCast_mul_toNat _ hs0, Int.mul_comm]

/-- A logical side that stays below `2 ^ 23` once scaled is its own 32-bit value. -/
theorem wrap_of_scale_mul_lt {n : Nat} {s : Int} (hs : 1 ≤ s) (h : s * n < 2 ^ 23) :
    IntRange.i32.wrap n = n :=
  IntRange.wrap_of_le (by rw [IntRange.i32_lo]; omega)
    (by have := le_scale_mul hs (Int.natCast_nonneg n); rw [IntRange.i32_hi]; omega)

/-- Every rectangle of a render's scene is exact at a scale of at least one when the logical
size and the widgets end, scaled, below `2 ^ 23`. -/
theorem scene_exactAt {ws : List (Widget WindowKey)} {scale : Int} (hs1 : 1 ≤ scale)
    (hW1 : 1 ≤ p.state.width) (hH1 : 1 ≤ p.state.height) (hW : scale * p.state.width < 2 ^ 23)
    (hH : scale * p.state.height < 2 ^ 23) (hx : ∀ w ∈ ws, 0 ≤ w.x) (hwidth : ∀ w ∈ ws, 0 ≤ w.width)
    (hws : ∀ w ∈ ws, scale * (w.x + w.width) < 2 ^ 23) : (p.scene ws now).ExactAt scale := by
  have hHle : (p.state.height : Int) ≤ scale * p.state.height :=
    le_scale_mul hs1 (Int.natCast_nonneg _)
  have hsH : scale ≤ scale * p.state.height := by nlinarith
  have hwrapW := wrap_of_scale_mul_lt hs1 hW
  have hwrapH := wrap_of_scale_mul_lt hs1 hH
  have hinset : buttonInset = 2 := rfl
  constructor
  · simp only [scene, hwrapW, hwrapH]
    exact ⟨hs1, by omega, le_refl 0, by omega, by omega, by omega, by omega, by omega,
      by rw [Int.zero_add]; exact hW, by rw [Int.sub_add_cancel]; exact hH⟩
  · intro w hw
    have hend := lt_of_scale_mul_lt hs1 (by omega) (hws w hw)
    -- the band ends two pixels above the bottom edge
    have hband : scale * (buttonInset + (p.state.height - 2 * buttonInset)) < 2 ^ 23 := by
      rw [hinset, show (2 : Int) + (p.state.height - 2 * 2) = p.state.height - 2 by omega,
        Int.mul_sub]
      omega
    simp only [scene, hwrapH]
    have hwidth' := hwidth w hw
    exact ⟨hs1, by omega, hx w hw, by rw [hinset]; omega, by omega, by rw [hinset]; omega,
      by omega, by rw [hinset]; omega, hws w hw, hband⟩

/-- **The pixels of a submitted frame.** A render with the plain engine and an opaque palette,
over texts that fit, whose logical size and widgets end, scaled, below `2 ^ 23`, submits a frame
whose every pixel holds the bytes of the colour `Scene.colourAt` gives it, blue first. -/
theorem render_pixels [BEq η] {f : Frame}
    (h : p.render pool alloc mem .plain now = .ok (p', pool', mem', some f))
    (hpal : p.state.palette.Solid) (hfit : (p.row now).TextsFit)
    (hW : p.state.scale * p.state.width < 2 ^ 23) (hH : p.state.scale * p.state.height < 2 ^ 23)
    (hws : ∀ w ∈ p'.widgets, p.state.scale * (w.x + w.width) < 2 ^ 23)
    {i j : Nat} (hi : i < f.width) (hj : j < f.height) :
    pixelAt f.pixels (j * f.width + i) =
      ((p.scene p'.widgets now).colourAt p.state.scale f.width f.height i j).bgra := by
  obtain ⟨hsize, -, -, c, c', hc, hpaint, hpix⟩ := render_frame h
  obtain ⟨hceq, hroom⟩ := Canvas.create?_eq_some hc
  obtain ⟨hlaid, -⟩ := render_widgets h hfit
  -- a frame with a pixel has a scale of at least one and a logical size of at least one
  obtain ⟨hs1, hW1, hH1, hfw, hfh⟩ := physicalSize?_pos hsize (by omega) (by omega)
  have hsc : c.scale = p.state.scale := by
    rw [hceq]
    exact Int.max_eq_left hs1
  have hcw : c.width = f.width := by rw [hceq]
  have hch : c.height = f.height := by rw [hceq]
  have hexact : (p.scene p'.widgets now).ExactAt c.scale := by
    rw [hsc]
    exact scene_exactAt hs1 hW1 hH1 hW hH (fun w hw => (hlaid.within w hw).1)
      (fun w hw => (hlaid.within w hw).2.1) hws
  have hp := Scene.pixelAt_paint hpal hroom (by omega) (by omega) hexact hpaint (hcw ▸ hi)
    (hch ▸ hj)
  rw [hsc, hcw, hch] at hp
  have hroom' : c'.byteLength ≤ c'.data.size := by
    rw [Scene.byteLength_paint hpaint, Scene.size_paint TextEngine.keepsSize_plain hpaint]
    exact hroom
  have hq : j * f.width + i < c'.width * c'.height := by
    rw [Scene.width_paint hpaint, Scene.height_paint hpaint, hcw, hch]
    exact Scene.index_lt hi hj
  rw [hpix]
  exact pixelAt_finish hroom' hq hp

/-- **The submitted frame is the layout painted in the palette.** Take a render with the plain
engine, which draws no text, of a panel whose four colours are opaque and whose texts fit, whose
logical size `W × H` and widgets end, scaled by `s`, below `2 ^ 23`. When it submits a frame, the
frame is `s·W × s·H` pixels, and each pixel holds, blue first, the bytes of one colour: the text
colour in the last `s` rows; above them, the colour of the window of a button whose band fills
the pixel, active or not; and the background everywhere else. A band is the rectangle `Fills`
describes, inset 2 from the top and the bottom; `fills_band_iff` says when it is the scaled
rectangle `[s·x, s·(x + width)) × [2s, s·(H − 2))`. -/
theorem render_paints_layout [BEq η] {f : Frame}
    (h : p.render pool alloc mem .plain now = .ok (p', pool', mem', some f))
    (hpal : p.state.palette.Solid) (hfit : (p.row now).TextsFit)
    (hW : p.state.scale * p.state.width < 2 ^ 23) (hH : p.state.scale * p.state.height < 2 ^ 23)
    (hws : ∀ w ∈ p'.widgets, p.state.scale * (w.x + w.width) < 2 ^ 23) :
    f.width = p.state.width * p.state.scale.toNat ∧ f.height = p.state.height * p.state.scale.toNat ∧
      ∀ i < f.width, ∀ j < f.height,
        (p.state.scale * (p.state.height - 1) ≤ j →
          pixelAt f.pixels (j * f.width + i) = p.state.palette.text.bgra) ∧
        (j < p.state.scale * (p.state.height - 1) → ∀ b ∈ p'.widgets, ∀ k win,
          b.kind = .button k → p.windows.get? k = some win →
          Fills p.state.scale f.width f.height b.x 2 b.width (p.state.height - 4) i j →
          pixelAt f.pixels (j * f.width + i) = (if win.active then p.state.palette.buttonActive
            else p.state.palette.buttonBackground).bgra) ∧
        (j < p.state.scale * (p.state.height - 1) → (∀ b ∈ p'.widgets, ∀ k, b.kind = .button k →
          ¬Fills p.state.scale f.width f.height b.x 2 b.width (p.state.height - 4) i j) →
          pixelAt f.pixels (j * f.width + i) = p.state.palette.background.bgra) := by
  obtain ⟨hsize, -, -, -⟩ := render_frame h
  obtain ⟨-, -, -, hpw, hph⟩ := physicalSize?_eq_some_iff.mp hsize
  obtain ⟨hlaid, hbuttons⟩ := render_widgets h hfit
  refine ⟨hpw, hph, fun i hi j hj => ?_⟩
  have hpix := render_pixels h hpal hfit hW hH hws hi hj
  obtain ⟨hs1, hW1, -, hfw, hfh⟩ := physicalSize?_pos hsize (by omega) (by omega)
  have hwrapW := wrap_of_scale_mul_lt hs1 hW
  have hwrapH := wrap_of_scale_mul_lt hs1 hH
  have hline := fills_line_iff (H := p.state.height) hs1 hfw hfh hW1 hi hj
  rw [hpix, Scene.colourAt]
  simp only [scene, hwrapW, hwrapH]
  refine ⟨fun hj' => ?_, fun hj' b hb k win hk hwin hf => ?_, fun hj' hnone => ?_⟩
  · rw [if_pos (hline.mpr hj')]
  · -- the bands of the buttons are disjoint, so the pixel's button is the last one painted on it
    rw [if_neg (fun h' => absurd (hline.mp h') (by omega)), Scene.foldl_widgetColour_of_fills hs1
      hlaid.ordered (fun w hw k hk => (hbuttons w hw k hk).1) hb hk hwin hf]
    rfl
  · rw [if_neg (fun h' => absurd (hline.mp h') (by omega))]
    rw [Scene.foldl_widgetColour_of_none fun w hw k hk => hnone w hw k hk]

/-! ### A panel four pixels high -/

/-- A render whose submitted frame maps to `v` submits a frame. -/
theorem exists_of_frame_map {α β γ δ : Type} {x : Checked (α × β × γ × Option Frame)}
    {g : Frame → δ} {v : δ} (h : (x.toOption.bind fun r => r.2.2.2).map g = some v) :
    ∃ a b c f, x = .ok (a, b, c, some f) ∧ g f = v := by
  rcases x with e | ⟨a, b, c, _ | f⟩
  · cases h
  · cases h
  · exact ⟨a, b, c, f, rfl, Option.some.inj h⟩

/-- A panel 9 × 4 pixels at scale one showing one window, titled `a`. Its button band, inset 2
from the top and the bottom, has height zero. -/
def oneWindow : Panel Nat :=
  (((((ofState (PanelState.ofSettings {})).handle (.configure 9 4)).1.handle (.appeared 1)).1.handle
    (.title 1 "a")).1.handle (.done 1)).1

theorem oneWindow_state :
    oneWindow.state.scale = 1 ∧ oneWindow.state.width = 9 ∧ oneWindow.state.height = 4 := by
  decide

/-- At noon the panel lays out its button, the spacer and the clock. -/
theorem oneWindow_compute : (oneWindow.row ⟨12, 0, 0, 0⟩).compute fixedWidth =
    .ok [⟨8, 23, .button ⟨0⟩⟩, ⟨39, 0, .spacer⟩, ⟨39, 51, .clock⟩] := by
  decide

/-- Rendering the panel at noon into an empty pool submits a frame 9 pixels wide whose pixel
`(8, 2)` holds the bytes of the button colour. -/
theorem oneWindow_render : ∃ p' pool' mem' f,
    oneWindow.render {} Memory.allocate {} .plain ⟨12, 0, 0, 0⟩ = .ok (p', pool', mem', some f) ∧
      f.width = 9 ∧ pixelAt f.pixels (2 * 9 + 8) = (74, 74, 74, 255) := by
  -- the whole frame is computed by the kernel: 36 pixels, one button, the line and the swap
  have hrun : ((oneWindow.render {} Memory.allocate {} .plain ⟨12, 0, 0, 0⟩).toOption.bind
      fun r => r.2.2.2).map (fun f => (f.width, pixelAt f.pixels (2 * 9 + 8))) =
        some (9, 74, 74, 74, 255) := by
    set_option maxRecDepth 100000 in decide +kernel
  obtain ⟨p', pool', mem', f, h, hf⟩ := exists_of_frame_map hrun
  exact ⟨p', pool', mem', f, h, (Prod.mk.inj hf).1, (Prod.mk.inj hf).2⟩

theorem render_paints_layout_oneWindow : ∃ p' pool' mem' f,
    oneWindow.render {} Memory.allocate {} .plain ⟨12, 0, 0, 0⟩ = .ok (p', pool', mem', some f) ∧
      oneWindow.state.palette.Solid ∧ (oneWindow.row ⟨12, 0, 0, 0⟩).TextsFit ∧
      oneWindow.state.scale * oneWindow.state.width < 2 ^ 23 ∧
      oneWindow.state.scale * oneWindow.state.height < 2 ^ 23 ∧
      (∀ w ∈ p'.widgets, oneWindow.state.scale * (w.x + w.width) < 2 ^ 23) ∧
      f.width = oneWindow.state.width * oneWindow.state.scale.toNat ∧
      f.height = oneWindow.state.height * oneWindow.state.scale.toNat ∧
      ∀ i < f.width, ∀ j < f.height,
        (oneWindow.state.scale * (oneWindow.state.height - 1) ≤ j →
          pixelAt f.pixels (j * f.width + i) = oneWindow.state.palette.text.bgra) ∧
        (j < oneWindow.state.scale * (oneWindow.state.height - 1) → ∀ b ∈ p'.widgets, ∀ k win,
          b.kind = .button k → oneWindow.windows.get? k = some win →
          Fills oneWindow.state.scale f.width f.height b.x 2 b.width (oneWindow.state.height - 4)
            i j →
          pixelAt f.pixels (j * f.width + i) = (if win.active then
            oneWindow.state.palette.buttonActive else oneWindow.state.palette.buttonBackground).bgra) ∧
        (j < oneWindow.state.scale * (oneWindow.state.height - 1) → (∀ b ∈ p'.widgets, ∀ k,
          b.kind = .button k →
            ¬Fills oneWindow.state.scale f.width f.height b.x 2 b.width (oneWindow.state.height - 4)
              i j) →
          pixelAt f.pixels (j * f.width + i) = oneWindow.state.palette.background.bgra) := by
  obtain ⟨p', pool', mem', f, h, -, -⟩ := oneWindow_render
  obtain ⟨hs, hw, hh⟩ := oneWindow_state
  have hws : p'.widgets = [⟨8, 23, .button ⟨0⟩⟩, ⟨39, 0, .spacer⟩, ⟨39, 51, .clock⟩] := by
    have hc := (render_frame h).2.2.1
    rw [oneWindow_compute] at hc
    exact (Except.ok.inj hc).symm
  have hpal : oneWindow.state.palette.Solid := by decide
  have hfit : (oneWindow.row ⟨12, 0, 0, 0⟩).TextsFit := by
    unfold RowLayout.TextsFit
    decide
  have h23 : (2 : Int) ^ 23 = 8388608 := by norm_num
  have hW : oneWindow.state.scale * oneWindow.state.width < 2 ^ 23 := by
    rw [hs, hw, h23]
    decide
  have hH : oneWindow.state.scale * oneWindow.state.height < 2 ^ 23 := by
    rw [hs, hh, h23]
    decide
  have hext : ∀ w ∈ p'.widgets, oneWindow.state.scale * (w.x + w.width) < 2 ^ 23 := by
    rw [hws, hs, h23]
    decide
  exact ⟨p', pool', mem', f, h, hpal, hfit, hW, hH, hext,
    render_paints_layout h hpal hfit hW hH hext⟩

/-- **A band of height zero still fills a row.** The panel is 4 pixels high at scale one, so the
band `[2s, s·(H − 2))` of its button is empty; yet the pixel `(8, 2)`, below the button and above
the line, takes the button colour and not the background, since a frame drawn in one tile rounds
each side of a rectangle to at least one pixel. -/
theorem render_fills_band_of_height_zero : ∃ p' pool' mem' f,
    oneWindow.render {} Memory.allocate {} .plain ⟨12, 0, 0, 0⟩ = .ok (p', pool', mem', some f) ∧
      8 < f.width ∧ 2 < oneWindow.state.scale * (oneWindow.state.height - 1) ∧
      oneWindow.state.scale * (oneWindow.state.height - 2) ≤ 2 * oneWindow.state.scale ∧
      pixelAt f.pixels (2 * f.width + 8) = oneWindow.state.palette.buttonBackground.bgra ∧
      pixelAt f.pixels (2 * f.width + 8) ≠ oneWindow.state.palette.background.bgra := by
  obtain ⟨p', pool', mem', f, h, hw, hpix⟩ := oneWindow_render
  obtain ⟨hs, -, hh⟩ := oneWindow_state
  have hbg : oneWindow.state.palette.buttonBackground.bgra = (74, 74, 74, 255) := by decide
  have hback : oneWindow.state.palette.background.bgra = (50, 50, 50, 255) := by decide
  refine ⟨p', pool', mem', f, h, by omega, by rw [hs, hh]; decide, by rw [hs, hh]; decide, ?_, ?_⟩
  · rw [hw, hpix, hbg]
  · rw [hw, hpix, hback]
    decide

end Panel

end DeskPanel
