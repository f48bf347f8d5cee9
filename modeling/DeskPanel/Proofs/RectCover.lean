import DeskPanel.Raster.Cover
import DeskPanel.Proofs.SingleWhole

/-!
# The pixels a rectangle covers, exactly

A rectangle of whole logical coordinates is filled at an integer scale. When its corners, scaled,
are whole numbers below `2 ^ 23`, every single-precision step of `coverRects` is exact: the
coordinates convert exactly, their sums and products are exact, and both rounding rules give a
whole edge back. What is covered is then said in integers:

* at scale one on a pixmap of at most 8191 pixels each way, each side is rounded on its own to
  at least one pixel, so a rectangle of width or height zero still covers a line of pixels;
* otherwise the rectangle scaled by `s` is drawn as a path, tile by tile, and an empty side
  covers nothing; each tile is moved exactly into place and back, so the pieces are the
  rectangle cut by the tiles, and the tiles cover the pixmap.

A rectangle with a negative side covers nothing, and whatever is covered lies in the pixmap.

## Main definitions

* `ExactRect` — a rectangle whose scaled corners single precision holds exactly.
* `Fills` — the pixels a rectangle covers, in integers.

## Main results

* `coverRects_within` — every piece lies in the pixmap.
* `mem_coverRects_iff` — a pixel lies in a piece exactly when the rectangle fills it.
-/

namespace DeskPanel

open Binary Binary.Datum

/-! ### Sums of whole numbers -/

/-- A sum of whole numbers of at most 24 bits is computed exactly. -/
theorem Binary.Datum.Exactly.add_whole {x y : Binary32} {a b : Int} (hx : x.Exactly (a * 2 ^ 149))
    (hy : y.Exactly (b * 2 ^ 149)) (hab : (a + b).natAbs < 2 ^ 24) :
    (x + y).Exactly ((a + b) * 2 ^ 149) := by
  have h := hx.add hy (by rw [← Int.add_mul, Int.natAbs_mul]; exact representable_mul_pow hab 149)
    (by rw [← Int.add_mul]; omega)
  rwa [← Int.add_mul] at h

/-- A difference of whole numbers of at most 24 bits is computed exactly. -/
theorem Binary.Datum.Exactly.sub_whole {x y : Binary32} {a b : Int} (hx : x.Exactly (a * 2 ^ 149))
    (hy : y.Exactly (b * 2 ^ 149)) (hab : (a - b).natAbs < 2 ^ 24) :
    (x - y).Exactly ((a - b) * 2 ^ 149) := by
  have h := hx.sub hy (by rw [← Int.sub_mul, Int.natAbs_mul]; exact representable_mul_pow hab 149)
    (by rw [← Int.sub_mul]; omega)
  rwa [← Int.sub_mul] at h

namespace Cover

/-! ### The constants of rasterisation -/

theorem half_exactly : half.Exactly (2 ^ 148) := by
  have hr : Representable (1 * 2 ^ 148) := representable_mul_pow (by decide) 148
  rw [Nat.one_mul] at hr
  exact ⟨false, _, kind_ofRatio false (by decide : 0 < 2) hr (by decide), rfl⟩

theorem nearlyZero_exactly : nearlyZero.Exactly (2 ^ 137) := by
  have hr : Representable (1 * 2 ^ 137) := representable_mul_pow (by decide) 137
  rw [Nat.one_mul] at hr
  have hu : 2 ^ Format.single.unitShift = 2 ^ 137 * 4096 := by decide
  unfold nearlyZero
  rw [hu]
  exact ⟨false, _, kind_ofRatio false (by decide : 0 < 4096) hr (by decide), rfl⟩

/-! ### Whole edges -/

section Edge

variable {v : Binary32} {n : Int}

theorem clampEdge_of_exactly (hv : v.Exactly (n * 2 ^ 149)) (hn : n.natAbs < 2 ^ 31) :
    clampEdge v = n :=
  hv.toIntSat_whole (by simp only [IntRange.i32]; omega) (by simp only [IntRange.i32]; omega)

/-- The first pixel centre at or right of a whole edge is the pixel the edge starts. -/
theorem firstCentre_of_exactly (hv : v.Exactly (n * 2 ^ 149)) (hlo : -2 ^ 23 < n)
    (hhi : n ≤ 2 ^ 23) : firstCentre v = n :=
  (hv.ceil_sub_half half_exactly hlo hhi).toIntSat_whole
    (by simp only [IntRange.i64]; omega) (by simp only [IntRange.i64]; omega)

/-- A whole edge that is not negative rounds to itself. -/
theorem roundEdge_of_exactly (hv : v.Exactly (n * 2 ^ 149)) (h0 : 0 ≤ n) (hn : n < 2 ^ 23) :
    roundEdge v = n :=
  (hv.floor_whole (by omega)).toIntSat_add_half half_exactly h0 hn
    (by simp only [fitLimit]; omega) (by simp only [fitLimit]; omega)

/-- Moving a whole edge by a whole number of pixels is exact. -/
theorem moveBy_exactly (hv : v.Exactly (n * 2 ^ 149)) {d : Int} (hd : d.natAbs < 2 ^ 24)
    (hnd : (n + d).natAbs < 2 ^ 24) : (moveBy v d).Exactly ((n + d) * 2 ^ 149) := by
  unfold moveBy
  split
  · rename_i h0
    rw [h0, Int.add_zero]
    exact hv
  · exact hv.add_whole (exactly_ofInt hd) hnd

end Edge

/-! ### Cutting a range to a pixmap -/

/-- A pixel, counted from `o`, lies in the cut of `[a, b)` to `[0, n)` exactly when it lies in
both. -/
theorem mem_cut_iff (o : Nat) {a b : Int} {n i : Nat} :
    (∃ lo hi, cut a b n = some (lo, hi) ∧ o + lo ≤ i ∧ i < o + hi) ↔
      o + a ≤ i ∧ i < o + b ∧ o ≤ i ∧ i < o + n := by
  unfold cut
  dsimp only
  split
  · simp only [Option.some.injEq, Prod.mk.injEq]
    constructor
    · rintro ⟨lo, hi, ⟨rfl, rfl⟩, h1, h2⟩
      omega
    · intro h
      exact ⟨_, _, ⟨rfl, rfl⟩, by omega, by omega⟩
  · simp only [reduceCtorEq, false_and, exists_false, false_iff]
    omega

theorem cut_le {a b : Int} {n lo hi : Nat} (h : cut a b n = some (lo, hi)) : lo < hi ∧ hi ≤ n := by
  unfold cut at h
  dsimp only at h
  split at h
  · simp only [Option.some.injEq, Prod.mk.injEq] at h
    omega
  · cases h

/-- The rectangle `[a, b) × [c, d)` cut to an `n × m` pixmap, when it keeps something. -/
def cutRect (a b c d : Int) (n m : Nat) : Option PixelRect :=
  (cut a b n).bind fun xs => (cut c d m).map fun ys => ⟨xs.1, ys.1, xs.2, ys.2⟩

/-- A pixel, counted from `(o, p)`, lies in the cut of a rectangle exactly when it lies in the
rectangle and in the pixmap. -/
theorem mem_cutRect_iff (o p : Nat) {a b c d : Int} {n m i j : Nat} :
    (∃ q, cutRect a b c d n m = some q ∧ o + q.x0 ≤ i ∧ i < o + q.x1 ∧ p + q.y0 ≤ j ∧ j < p + q.y1) ↔
      (o + a ≤ i ∧ i < o + b ∧ o ≤ i ∧ i < o + n) ∧ (p + c ≤ j ∧ j < p + d ∧ p ≤ j ∧ j < p + m) := by
  rw [← mem_cut_iff o, ← mem_cut_iff p]
  unfold cutRect
  constructor
  · rintro ⟨q, hq, h1, h2, h3, h4⟩
    cases hx : cut a b n with
    | none => rw [hx] at hq; cases hq
    | some xs =>
      cases hy : cut c d m with
      | none => rw [hx, hy] at hq; cases hq
      | some ys =>
        rw [hx, hy] at hq
        cases hq
        exact ⟨⟨xs.1, xs.2, rfl, h1, h2⟩, ⟨ys.1, ys.2, rfl, h3, h4⟩⟩
  · rintro ⟨⟨lo, hi, hx, h1, h2⟩, ⟨lo', hi', hy, h3, h4⟩⟩
    exact ⟨⟨lo, lo', hi, hi'⟩, by rw [hx, hy]; rfl, h1, h2, h3, h4⟩

theorem cutRect_le {a b c d : Int} {n m : Nat} {q : PixelRect} (h : cutRect a b c d n m = some q) :
    q.x0 < q.x1 ∧ q.x1 ≤ n ∧ q.y0 < q.y1 ∧ q.y1 ≤ m := by
  unfold cutRect at h
  cases hx : cut a b n with
  | none => rw [hx] at h; cases h
  | some xs =>
    cases hy : cut c d m with
    | none => rw [hx, hy] at h; cases h
    | some ys =>
      rw [hx, hy] at h
      cases h
      have := cut_le hx
      have := cut_le hy
      dsimp only
      omega

end Cover

/-- The pixel `(i, j)` lies in the piece. -/
def PixelRect.Covers (r : PixelRect) (i j : Nat) : Prop :=
  r.x0 ≤ i ∧ i < r.x1 ∧ r.y0 ≤ j ∧ j < r.y1

instance (r : PixelRect) (i j : Nat) : Decidable (r.Covers i j) := by
  unfold PixelRect.Covers
  infer_instance

namespace Cover

/-! ### Tiles -/

theorem mem_tileStarts {n x : Nat} : x ∈ tileStarts n ↔ ∃ k, k < (n + 8190) / 8191 ∧ x = k * 8191 := by
  unfold tileStarts tileSide
  simp only [List.mem_map, List.mem_range]
  constructor
  · rintro ⟨k, hk, rfl⟩
    exact ⟨k, hk, rfl⟩
  · rintro ⟨k, hk, rfl⟩
    exact ⟨k, hk, rfl⟩

theorem mem_tilesOf {pw ph : Nat} {t : PixelRect} :
    t ∈ tilesOf pw ph ↔ ∃ y ∈ tileStarts ph, ∃ x ∈ tileStarts pw,
      t = ⟨x, y, min pw (x + tileSide), min ph (y + tileSide)⟩ := by
  unfold tilesOf
  simp only [List.mem_flatMap, List.mem_map]
  constructor
  · rintro ⟨y, hy, x, hx, rfl⟩
    exact ⟨y, hy, x, hx, rfl⟩
  · rintro ⟨y, hy, x, hx, rfl⟩
    exact ⟨y, hy, x, hx, rfl⟩

/-- A tile is a nonempty part of the pixmap, at most one tile wide. -/
theorem tile_bounds {pw ph : Nat} {t : PixelRect} (ht : t ∈ tilesOf pw ph) :
    t.x0 < t.x1 ∧ t.x1 ≤ pw ∧ t.y0 < t.y1 ∧ t.y1 ≤ ph := by
  obtain ⟨y, hy, x, hx, rfl⟩ := mem_tilesOf.mp ht
  obtain ⟨k, hk, rfl⟩ := mem_tileStarts.mp hx
  obtain ⟨l, hl, rfl⟩ := mem_tileStarts.mp hy
  simp only [tileSide]
  omega

/-- The tiles cover the pixmap. -/
theorem exists_tile_iff {pw ph i j : Nat} :
    (∃ t ∈ tilesOf pw ph, t.Covers i j) ↔ i < pw ∧ j < ph := by
  constructor
  · rintro ⟨t, ht, hc⟩
    have := tile_bounds ht
    unfold PixelRect.Covers at hc
    omega
  · rintro ⟨hi, hj⟩
    -- the tile of the pixel starts at the multiple of the tile side below it
    refine ⟨⟨i / 8191 * 8191, j / 8191 * 8191, min pw (i / 8191 * 8191 + tileSide),
      min ph (j / 8191 * 8191 + tileSide)⟩, ?_, ?_⟩
    · exact mem_tilesOf.mpr ⟨_, mem_tileStarts.mpr ⟨j / 8191, by omega, rfl⟩, _,
        mem_tileStarts.mpr ⟨i / 8191, by omega, rfl⟩, rfl⟩
    · unfold PixelRect.Covers tileSide
      dsimp only
      omega

/-! ### A path drawn tile by tile -/

namespace Edges

/-- In a tile, a path covers the cut of the pixels whose centres lie between its edges, when its
bounds fit. -/
theorem coverIn_eq_cutRect (e : Edges) (tw th : Nat) :
    e.coverIn tw th = if (boundsFit e.left e.right && boundsFit e.top e.bottom) = true then
      cutRect (firstCentre e.left) (firstCentre e.right) (firstCentre e.top)
        (firstCentre e.bottom) tw th else none := by
  unfold coverIn cutRect
  cases (boundsFit e.left e.right && boundsFit e.top e.bottom) with
  | false => rfl
  | true =>
    cases cut (firstCentre e.left) (firstCentre e.right) tw <;>
      cases cut (firstCentre e.top) (firstCentre e.bottom) th <;> rfl

/-- Every piece of a path lies in the tile it was drawn in. -/
theorem piecesIn_within {pw ph : Nat} : ∀ {ts : List PixelRect} {e : Edges},
    (∀ t ∈ ts, t.x1 ≤ pw ∧ t.y1 ≤ ph) →
      ∀ r ∈ e.piecesIn ts, r.x0 < r.x1 ∧ r.x1 ≤ pw ∧ r.y0 < r.y1 ∧ r.y1 ≤ ph
  | [], _, _ => by simp [piecesIn]
  | t :: ts, e, hts => by
    intro r hr
    rw [piecesIn] at hr
    rcases List.mem_append.mp hr with hr | hr
    · simp only [Option.mem_toList, Option.map_eq_some_iff] at hr
      obtain ⟨q, hq, rfl⟩ := hr
      rw [coverIn_eq_cutRect] at hq
      split at hq
      · have hq := cutRect_le hq
        have ht := hts t List.mem_cons_self
        dsimp only
        omega
      · cases hq
    · exact piecesIn_within (fun t' ht' => hts t' (List.mem_cons_of_mem _ ht')) r hr

/-- The edges of the path hold the whole numbers `L`, `T`, `R` and `B`. -/
structure Holds (e : Edges) (L T R B : Int) : Prop where
  left : e.left.Exactly (L * 2 ^ 149)
  top : e.top.Exactly (T * 2 ^ 149)
  right : e.right.Exactly (R * 2 ^ 149)
  bottom : e.bottom.Exactly (B * 2 ^ 149)

variable {e : Edges} {L T R B : Int}

/-- Moving whole edges by whole numbers is exact. -/
theorem Holds.move (he : e.Holds L T R B) {dx dy : Int} (hdx : dx.natAbs < 2 ^ 24)
    (hdy : dy.natAbs < 2 ^ 24) (hL : (L + dx).natAbs < 2 ^ 24) (hT : (T + dy).natAbs < 2 ^ 24)
    (hR : (R + dx).natAbs < 2 ^ 24) (hB : (B + dy).natAbs < 2 ^ 24) :
    (e.move dx dy).Holds (L + dx) (T + dy) (R + dx) (B + dy) :=
  ⟨moveBy_exactly he.left hdx hL, moveBy_exactly he.top hdy hT, moveBy_exactly he.right hdx hR,
    moveBy_exactly he.bottom hdy hB⟩

/-- What whole edges of positive extent cover in a tile: the rectangle cut to the tile. -/
theorem Holds.coverIn_eq (he : e.Holds L T R B) (hLR : L < R) (hTB : T < B)
    (hL : -2 ^ 23 < L) (hR : R ≤ 2 ^ 23) (hT : -2 ^ 23 < T) (hB : B ≤ 2 ^ 23) (tw th : Nat) :
    e.coverIn tw th = cutRect L R T B tw th := by
  have hfit : (boundsFit e.left e.right && boundsFit e.top e.bottom) = true := by
    unfold boundsFit
    rw [clampEdge_of_exactly he.left (by omega), clampEdge_of_exactly he.right (by omega),
      clampEdge_of_exactly he.top (by omega), clampEdge_of_exactly he.bottom (by omega)]
    simp only [Bool.and_eq_true, decide_eq_true_eq]
    simp only [IntRange.i32]
    omega
  rw [coverIn_eq_cutRect, if_pos hfit, firstCentre_of_exactly he.left hL (by omega),
    firstCentre_of_exactly he.right (by omega) hR, firstCentre_of_exactly he.top hT (by omega),
    firstCentre_of_exactly he.bottom (by omega) hB]

/-- What a path of whole edges covers, drawn over some tiles: the pixels of those tiles inside
it. Each tile moves the path into its coordinates and back, exactly. -/
theorem Holds.mem_piecesIn (hLR : L < R) (hTB : T < B) (hL : 0 ≤ L) (hR : R < 2 ^ 23)
    (hT : 0 ≤ T) (hB : B < 2 ^ 23) {i j : Nat} :
    ∀ {ts : List PixelRect} {e : Edges}, e.Holds L T R B →
      (∀ t ∈ ts, t.x0 < t.x1 ∧ t.x1 ≤ 2 ^ 23 ∧ t.y0 < t.y1 ∧ t.y1 ≤ 2 ^ 23) →
      ((∃ r ∈ e.piecesIn ts, r.Covers i j) ↔
        ∃ t ∈ ts, t.Covers i j ∧ L ≤ i ∧ i < R ∧ T ≤ j ∧ j < B)
  | [], _, _, _ => by simp [piecesIn]
  | t :: ts, e, he, hts => by
    obtain ⟨hx, hx1, hy, hy1⟩ := hts t List.mem_cons_self
    have hin : (e.move (-(t.x0 : Int)) (-(t.y0 : Int))).Holds
        (L + -t.x0) (T + -t.y0) (R + -t.x0) (B + -t.y0) :=
      he.move (by omega) (by omega) (by omega) (by omega) (by omega) (by omega)
    have hback : ((e.move (-(t.x0 : Int)) (-(t.y0 : Int))).move t.x0 t.y0).Holds L T R B := by
      have h : ((e.move (-(t.x0 : Int)) (-(t.y0 : Int))).move t.x0 t.y0).Holds
          (L + -t.x0 + t.x0) (T + -t.y0 + t.y0) (R + -t.x0 + t.x0) (B + -t.y0 + t.y0) :=
        hin.move (by omega) (by omega) (by omega) (by omega) (by omega) (by omega)
      simpa only [Int.neg_add_cancel_right] using h
    have ih := Holds.mem_piecesIn (i := i) (j := j) hLR hTB hL hR hT hB hback
      (fun t' ht' => hts t' (List.mem_cons_of_mem _ ht'))
    rw [piecesIn]
    rw [hin.coverIn_eq (by omega) (by omega) (by omega) (by omega) (by omega) (by omega)]
    simp only [List.mem_append, or_and_right, exists_or]
    -- the piece of the head tile is the rectangle cut to that tile
    have hhead : (∃ r ∈ ((cutRect (L + -t.x0) (R + -t.x0) (T + -t.y0) (B + -t.y0) (t.x1 - t.x0)
        (t.y1 - t.y0)).map fun p => (⟨t.x0 + p.x0, t.y0 + p.y0, t.x0 + p.x1, t.y0 + p.y1⟩ :
          PixelRect)).toList, r.Covers i j) ↔
        t.Covers i j ∧ L ≤ i ∧ i < R ∧ T ≤ j ∧ j < B := by
      have h := mem_cutRect_iff t.x0 t.y0 (a := L + -t.x0) (b := R + -t.x0) (c := T + -t.y0)
        (d := B + -t.y0) (n := t.x1 - t.x0) (m := t.y1 - t.y0) (i := i) (j := j)
      simp only [Option.mem_toList, Option.map_eq_some_iff]
      unfold PixelRect.Covers
      constructor
      · rintro ⟨r, ⟨q, hq, rfl⟩, hc⟩
        have := h.mp ⟨q, hq, hc⟩
        omega
      · intro hc
        obtain ⟨q, hq, hq'⟩ := h.mpr (by omega)
        exact ⟨_, ⟨q, hq, rfl⟩, hq'⟩
    rw [hhead, ih]
    simp only [List.mem_cons, or_and_right, exists_or, exists_eq_left]

/-- What a path of whole edges covers on a pixmap of at most `2 ^ 23` pixels each way: the
pixels of the pixmap inside it, none when a side is empty. -/
theorem Holds.mem_pathCover (he : e.Holds L T R B) (hLR : L ≤ R) (hTB : T ≤ B) (hL : 0 ≤ L)
    (hR : R < 2 ^ 23) (hT : 0 ≤ T) (hB : B < 2 ^ 23) {pw ph : Nat} (hpw : pw ≤ 2 ^ 23)
    (hph : ph ≤ 2 ^ 23) {i j : Nat} :
    (∃ r ∈ pathCover e pw ph, r.Covers i j) ↔
      i < pw ∧ j < ph ∧ L ≤ i ∧ i < R ∧ T ≤ j ∧ j < B := by
  have hw : (e.right - e.left).Exactly ((R - L) * 2 ^ 149) := he.right.sub_whole he.left (by omega)
  have hh : (e.bottom - e.top).Exactly ((B - T) * 2 ^ 149) := he.bottom.sub_whole he.top (by omega)
  unfold pathCover
  rw [he.left.isFinite, he.top.isFinite, he.right.isFinite, he.bottom.isFinite, hw.isFinite,
    hh.isFinite, hw.le_eq nearlyZero_exactly, hh.le_eq nearlyZero_exactly]
  simp only [Bool.and_self, Bool.not_true, Bool.false_or]
  split
  · -- a side of whole pixels is at most `1/4096` only when it is empty
    rename_i hempty
    simp only [Bool.or_eq_true, decide_eq_true_eq] at hempty
    simp only [List.not_mem_nil, false_and, exists_false, false_iff]
    omega
  · rename_i hwide
    simp only [Bool.or_eq_true, decide_eq_true_eq, not_or] at hwide
    rw [he.mem_piecesIn (by omega) (by omega) hL hR hT hB
      (fun t ht => by have := tile_bounds ht; omega)]
    constructor
    · rintro ⟨t, ht, hc, hin⟩
      exact ⟨(exists_tile_iff.mp ⟨t, ht, hc⟩).1, (exists_tile_iff.mp ⟨t, ht, hc⟩).2, hin⟩
    · rintro ⟨hi, hj, hin⟩
      obtain ⟨t, ht, hc⟩ := exists_tile_iff.mpr ⟨hi, hj⟩
      exact ⟨t, ht, hc, hin⟩

end Edges

/-! ### Rounding each edge on its own -/

/-- Rounding each edge on its own covers the cut of the rounded rectangle, unless its far edges
leave the 32-bit range. -/
theorem roundedCover_eq_cutRect (left top right bottom : Binary32) (pw ph : Nat) :
    roundedCover left top right bottom pw ph =
      if (IntRange.i32.contains (roundEdge left + max 1 (roundEdge (right - left))) &&
          IntRange.i32.contains (roundEdge top + max 1 (roundEdge (bottom - top)))) = true then
        cutRect (roundEdge left) (roundEdge left + max 1 (roundEdge (right - left)))
          (roundEdge top) (roundEdge top + max 1 (roundEdge (bottom - top))) pw ph
      else none := by
  unfold roundedCover cutRect
  dsimp only
  cases (IntRange.i32.contains (roundEdge left + max 1 (roundEdge (right - left))) &&
      IntRange.i32.contains (roundEdge top + max 1 (roundEdge (bottom - top)))) with
  | false => rfl
  | true =>
    cases cut (roundEdge left) (roundEdge left + max 1 (roundEdge (right - left))) pw <;>
      cases cut (roundEdge top) (roundEdge top + max 1 (roundEdge (bottom - top))) ph <;> rfl

/-- At scale one, whole edges that are not negative round to themselves, and an empty side to
one pixel. -/
theorem roundedCover_of_exactly {left top right bottom : Binary32} {x y w h : Int}
    (hl : left.Exactly (x * 2 ^ 149)) (ht : top.Exactly (y * 2 ^ 149))
    (hr : right.Exactly ((x + w) * 2 ^ 149)) (hb : bottom.Exactly ((y + h) * 2 ^ 149))
    (hx : 0 ≤ x) (hy : 0 ≤ y) (hw : 0 ≤ w) (hh : 0 ≤ h) (hxw : x + w < 2 ^ 23)
    (hyh : y + h < 2 ^ 23) (pw ph : Nat) :
    roundedCover left top right bottom pw ph = cutRect x (x + max 1 w) y (y + max 1 h) pw ph := by
  have hw' : (right - left).Exactly (w * 2 ^ 149) := by
    have h := hr.sub_whole hl (by omega)
    rwa [show x + w - x = w by omega] at h
  have hh' : (bottom - top).Exactly (h * 2 ^ 149) := by
    have h' := hb.sub_whole ht (by omega)
    rwa [show y + h - y = h by omega] at h'
  rw [roundedCover_eq_cutRect, roundEdge_of_exactly hl hx (by omega),
    roundEdge_of_exactly ht hy (by omega), roundEdge_of_exactly hw' hw (by omega),
    roundEdge_of_exactly hh' hh (by omega), if_pos]
  simp only [IntRange.contains, Bool.and_eq_true, decide_eq_true_eq]
  simp only [IntRange.i32]
  omega

end Cover

/-! ### The pixels a rectangle covers -/

open Cover

/-- Whatever a rectangle covers lies in the pixmap. -/
theorem coverRects_within (x y w h s : Int) (pw ph : Nat) :
    ∀ r ∈ coverRects x y w h s pw ph, r.x0 < r.x1 ∧ r.x1 ≤ pw ∧ r.y0 < r.y1 ∧ r.y1 ≤ ph := by
  intro r hr
  unfold coverRects at hr
  dsimp only at hr
  split at hr
  · simp at hr
  · split at hr
    · rw [Option.mem_toList, roundedCover_eq_cutRect] at hr
      split at hr
      · exact cutRect_le hr
      · cases hr
    · unfold pathCover at hr
      dsimp only at hr
      split at hr
      · simp at hr
      · exact Edges.piecesIn_within (fun t ht => by have := tile_bounds ht; omega) r hr

theorem le_scale_mul {s a : Int} (hs : 1 ≤ s) (ha : 0 ≤ a) : a ≤ s * a := by
  have := Int.mul_le_mul_of_nonneg_right hs ha
  rwa [Int.one_mul] at this

theorem lt_of_scale_mul_lt {s a b : Int} (hs : 1 ≤ s) (hb : 0 ≤ b) (h : s * a < b) : a < b := by
  by_cases ha : 0 ≤ a
  · have := le_scale_mul hs ha
    omega
  · omega

/-- A rectangle of whole logical coordinates whose corners, scaled by `s`, are whole numbers that
single precision holds exactly: an origin that is not negative and below `2 ^ 23`, sides above
`-2 ^ 23`, and far corners that end, scaled, below `2 ^ 23`. -/
structure ExactRect (s x y w h : Int) : Prop where
  one_le_scale : 1 ≤ s
  scale_lt : s < 2 ^ 23
  x_nonneg : 0 ≤ x
  y_nonneg : 0 ≤ y
  x_lt : x < 2 ^ 23
  y_lt : y < 2 ^ 23
  width_gt : -2 ^ 23 < w
  height_gt : -2 ^ 23 < h
  right_lt : s * (x + w) < 2 ^ 23
  bottom_lt : s * (y + h) < 2 ^ 23

/-- The pixels `(i, j)` of a `pw × ph` pixmap that a rectangle of whole coordinates fills at scale
`s`. A side that is negative fills nothing. At scale one on a pixmap drawn in one tile each side
is rounded on its own to at least one pixel; otherwise the scaled rectangle fills the pixels it
contains, none when a side is empty. -/
def Fills (s : Int) (pw ph : Nat) (x y w h : Int) (i j : Nat) : Prop :=
  i < pw ∧ j < ph ∧ 0 ≤ w ∧ 0 ≤ h ∧
    if s = 1 ∧ pw ≤ tileSide ∧ ph ≤ tileSide then
      x ≤ i ∧ i < x + max 1 w ∧ y ≤ j ∧ j < y + max 1 h
    else s * x ≤ i ∧ i < s * (x + w) ∧ s * y ≤ j ∧ j < s * (y + h)

instance (s : Int) (pw ph : Nat) (x y w h : Int) (i j : Nat) :
    Decidable (Fills s pw ph x y w h i j) := by
  unfold Fills
  infer_instance

theorem exists_mem_cutRect_iff {a b c d : Int} {n m i j : Nat} :
    (∃ r ∈ (cutRect a b c d n m).toList, r.Covers i j) ↔
      (a ≤ i ∧ i < b ∧ i < n) ∧ (c ≤ j ∧ j < d ∧ j < m) := by
  have h := mem_cutRect_iff 0 0 (a := a) (b := b) (c := c) (d := d) (n := n) (m := m) (i := i)
    (j := j)
  simp only [Option.mem_toList]
  constructor
  · rintro ⟨q, hq, hc⟩
    unfold PixelRect.Covers at hc
    have := h.mp ⟨q, hq, by omega⟩
    omega
  · intro hc
    obtain ⟨q, hq, hc'⟩ := h.mpr (by omega)
    exact ⟨q, hq, by unfold PixelRect.Covers; omega⟩

/-- **The pixels a rectangle covers.** For a rectangle whose scaled corners single precision holds
exactly, on a pixmap of at most `2 ^ 23` pixels each way, a pixel lies in a piece of
`coverRects` exactly when the rectangle fills it. -/
theorem mem_coverRects_iff {s x y w h : Int} (hr : ExactRect s x y w h) {pw ph : Nat}
    (hpw : pw ≤ 2 ^ 23) (hph : ph ≤ 2 ^ 23) {i j : Nat} :
    (∃ r ∈ coverRects x y w h s pw ph, r.Covers i j) ↔ Fills s pw ph x y w h i j := by
  obtain ⟨hs1, hs, hx, hy, hxl, hyl, hw, hh, hsr, hsb⟩ := hr
  have hxw := lt_of_scale_mul_lt hs1 (by decide) hsr
  have hyh := lt_of_scale_mul_lt hs1 (by decide) hsb
  have hfx : (ofInt x : Binary32).Exactly (x * 2 ^ 149) := exactly_ofInt (by omega)
  have hfy : (ofInt y : Binary32).Exactly (y * 2 ^ 149) := exactly_ofInt (by omega)
  have hfr : (ofInt x + ofInt w : Binary32).Exactly ((x + w) * 2 ^ 149) :=
    hfx.add_whole (exactly_ofInt (by omega)) (by omega)
  have hfb : (ofInt y + ofInt h : Binary32).Exactly ((y + h) * 2 ^ 149) :=
    hfy.add_whole (exactly_ofInt (by omega)) (by omega)
  unfold coverRects Fills
  dsimp only
  rw [hfx.le_eq hfr, hfy.le_eq hfb]
  split
  · -- a negative side, or an empty pixmap
    rename_i hempty
    simp only [Bool.or_eq_true, Bool.not_eq_true', Bool.and_eq_false_iff, decide_eq_false_iff_not,
      decide_eq_true_eq] at hempty
    simp only [List.not_mem_nil, false_and, exists_false, false_iff]
    rintro ⟨hi, hj, hw0, hh0, -⟩
    omega
  · rename_i hsides
    simp only [Bool.or_eq_true, Bool.not_eq_true', Bool.and_eq_false_iff, decide_eq_false_iff_not,
      decide_eq_true_eq, not_or, Decidable.not_not] at hsides
    have hw0 : 0 ≤ w := by omega
    have hh0 : 0 ≤ h := by omega
    split
    · rw [roundedCover_of_exactly hfx hfy hfr hfb hx hy hw0 hh0 hxw hyh,
        exists_mem_cutRect_iff]
      omega
    · -- scaled, the corners are whole numbers below `2 ^ 23`, so the path holds them exactly
      have hfs : (ofInt s : Binary32).Exactly (s * 2 ^ 149) := exactly_ofInt (by omega)
      have hsx0 : 0 ≤ s * x := Int.mul_nonneg (by omega) hx
      have hsy0 : 0 ≤ s * y := Int.mul_nonneg (by omega) hy
      have hsr0 : s * x ≤ s * (x + w) := Int.mul_le_mul_of_nonneg_left (by omega) (by omega)
      have hsb0 : s * y ≤ s * (y + h) := Int.mul_le_mul_of_nonneg_left (by omega) (by omega)
      have hsx : s * x < 2 ^ 23 := by omega
      have hsy : s * y < 2 ^ 23 := by omega
      have hscaled {v : Binary32} {a : Int} (hv : v.Exactly (a * 2 ^ 149)) (h0 : 0 ≤ s * a)
          (h1 : s * a < 2 ^ 23) : (v * ofInt s).Exactly (s * a * 2 ^ 149) := by
        rw [Int.mul_comm s a]
        exact hv.mul_whole hfs (by rw [Int.mul_comm]; omega)
      have he : Edges.Holds ⟨ofInt x * ofInt s, ofInt y * ofInt s, (ofInt x + ofInt w) * ofInt s,
          (ofInt y + ofInt h) * ofInt s⟩ (s * x) (s * y) (s * (x + w)) (s * (y + h)) :=
        ⟨hscaled hfx hsx0 hsx, hscaled hfy hsy0 hsy, hscaled hfr (by omega) hsr,
          hscaled hfb (by omega) hsb⟩
      rw [he.mem_pathCover hsr0 hsb0 hsx0 hsr hsy0 hsb hpw hph]
      omega

end DeskPanel
