import Mathlib.Algebra.Order.BigOperators.Group.List
import Mathlib.Tactic.Ring
import DeskPanel.Panel.Render

/-!
# Where a render overflows

A render computes its geometry in 32-bit arithmetic that faults on overflow. With text measured
at seven pixels a character, every quantity the layout pass computes is a partial sum of
nonnegative widths, so the pass faults exactly when the last of them, the row's extent, passes
the top of the range; and once the pass is through, painting stays inside the widgets it placed.

The extent is the width of the items that are not spacers plus, for each spacer, the width they
leave over. One spacer brings the row to the panel's width, which the physical size keeps in
range; every further spacer adds the leftover once more, and nothing keeps that sum in range.

## Main definitions

* `TextFits` — a text whose padded width at seven pixels a character is a 32-bit value.
* `RowLayout.extent` — how far right a row reaches, in exact arithmetic.
* `Computes`, `Advances` — a checked computation of a known value, and a step of the pass.
* `Panel.Reachable` — the panels that events and renders reach.

## Main results

* `RowLayout.compute_ok`, `RowLayout.compute_error` — the pass succeeds exactly when the extent
  is a 32-bit value.
* `Scene.paint_ok` — painting the widgets of a pass never faults.
* `Panel.render_overflows_iff` — a reachable panel whose texts fit faults exactly when it is
  configured, has a physical size, and its row reaches past `2 ^ 31 - 1`.
-/

namespace DeskPanel

/-! ### Checked arithmetic in range -/

@[simp] theorem Checked.ok_bind {α β : Type} (a : α) (f : α → Checked β) :
    (Except.ok a : Checked α) >>= f = f a := rfl

@[simp] theorem Checked.error_bind {α β : Type} (e : Overflow) (f : α → Checked β) :
    (Except.error e : Checked α) >>= f = .error e := rfl

namespace IntRange

theorem i32_hi : i32.hi = 2147483647 := rfl

theorem i32_lo : i32.lo = -2147483648 := rfl

theorem add_ok {r : IntRange} {a b : Int} (h : r.lo ≤ a + b) (h' : a + b ≤ r.hi) :
    r.add a b = .ok (a + b) := by
  simp [add, h, h']

theorem add_error {r : IntRange} {a b : Int} (h : r.hi < a + b) : r.add a b = .error .add := by
  have h' : ¬a + b ≤ r.hi := Int.not_le.mpr h
  simp [add, h']

theorem sub_ok {r : IntRange} {a b : Int} (h : r.lo ≤ a - b) (h' : a - b ≤ r.hi) :
    r.sub a b = .ok (a - b) := by
  simp [sub, h, h']

theorem mul_ok {r : IntRange} {a b : Int} (h : r.lo ≤ a * b) (h' : a * b ≤ r.hi) :
    r.mul a b = .ok (a * b) := by
  simp [mul, h, h']

/-- A value of the type wraps to itself. -/
theorem wrap_of_le {r : IntRange} {v : Int} (h : r.lo ≤ v) (h' : v ≤ r.hi) : r.wrap v = v := by
  unfold wrap
  rw [Int.emod_eq_of_lt (by omega) (by omega)]
  omega

end IntRange

/-- A checked computation of a nonnegative value `v`: it gives `v` when `v` is a 32-bit value
and faults when `v` passes the top of the range. -/
structure Computes (c : Checked Int) (v : Int) : Prop where
  nonneg : 0 ≤ v
  ok : v ≤ IntRange.i32.hi → c = .ok v
  error : IntRange.i32.hi < v → ∃ e, c = .error e

namespace Computes

theorem of_ok {c : Checked Int} {v : Int} (h0 : 0 ≤ v) (hv : v ≤ IntRange.i32.hi)
    (hc : c = .ok v) : Computes c v :=
  ⟨h0, fun _ => hc, fun h => absurd h (Int.not_lt.mpr hv)⟩

theorem add {a b : Int} (ha : 0 ≤ a) (hb : 0 ≤ b) : Computes (IntRange.i32.add a b) (a + b) where
  nonneg := by omega
  ok h := IntRange.add_ok (by rw [IntRange.i32_lo]; omega) h
  error h := ⟨_, IntRange.add_error h⟩

/-- Feeding a computed value into a computation that adds `w` to it computes the sum. -/
theorem bind {c : Checked Int} {v w : Int} {k : Int → Checked Int} (hc : Computes c v)
    (hw : 0 ≤ w) (hk : v ≤ IntRange.i32.hi → Computes (k v) (v + w)) :
    Computes (c >>= k) (v + w) where
  nonneg := by have := hc.nonneg; omega
  ok h := by
    have hv : v ≤ IntRange.i32.hi := by omega
    rw [hc.ok hv, Checked.ok_bind]
    exact (hk hv).ok h
  error h := by
    by_cases hv : v ≤ IntRange.i32.hi
    · rw [hc.ok hv, Checked.ok_bind]
      exact (hk hv).error h
    · obtain ⟨e, he⟩ := hc.error (Int.not_le.mp hv)
      exact ⟨e, by rw [he, Checked.error_bind]⟩

theorem congr {c : Checked Int} {v v' : Int} (hc : Computes c v) (h : v = v') : Computes c v' :=
  h ▸ hc

end Computes

/-- Adding computed terms to a running total from `a`, as `RowLayout.sumBy` does, computes the
exact sum. -/
theorem computes_foldlM_add {α : Type} {f : α → Checked Int} {g : α → Int} :
    ∀ {xs : List α}, (∀ a ∈ xs, Computes (f a) (g a)) → ∀ (a : Int), 0 ≤ a →
      a ≤ IntRange.i32.hi →
      Computes (xs.foldlM (fun acc x => do IntRange.i32.add acc (← f x)) a) (a + (xs.map g).sum)
  | [], _, a, h0, h1 => Computes.of_ok (by simpa using h0) (by simpa using h1) (by simp; rfl)
  | x :: xs, hf, a, h0, _ => by
    rw [List.foldlM_cons, List.map_cons, List.sum_cons]
    have hx := hf x List.mem_cons_self
    have htail : ∀ y ∈ xs, Computes (f y) (g y) := fun y hy => hf y (List.mem_cons_of_mem _ hy)
    have hsum : 0 ≤ (xs.map g).sum :=
      List.sum_nonneg (by simpa using fun y hy => (htail y hy).nonneg)
    -- the first term, then the rest of the fold from the new total
    have hfirst : Computes (f x >>= fun b => IntRange.i32.add a b) (g x + a) :=
      hx.bind h0 fun _ => (Computes.add h0 hx.nonneg).congr (Int.add_comm _ _)
    have hnext : 0 ≤ g x + a := hfirst.nonneg
    exact (hfirst.bind hsum fun hv => computes_foldlM_add htail _ hnext hv).congr (by omega)

/-! ### Texts and the widths of items -/

/-- A text fits when its width at seven pixels a character, with padding on both sides, is a
32-bit value. -/
def TextFits (s : String) : Prop := 7 * (s.length : Int) + 2 * buttonPadding ≤ IntRange.i32.hi

instance : DecidablePred TextFits := fun _ => inferInstanceAs (Decidable (_ ≤ _))

theorem buttonPadding_eq : buttonPadding = 8 := rfl

theorem buttonMaxWidth_eq : buttonMaxWidth = 200 := rfl

theorem TextFits.le {s : String} (h : TextFits s) : 7 * (s.length : Int) + 16 ≤ 2147483647 := by
  unfold TextFits at h
  rw [buttonPadding_eq, IntRange.i32_hi] at h
  omega

/-- A text that fits measures seven pixels a character. -/
theorem fixedWidth_of_fits {s : String} (h : TextFits s) :
    fixedWidth s = .ok ⟨7 * s.length, 12⟩ := by
  have h' := h.le
  have hlen : IntRange.i32.wrap s.length = s.length :=
    IntRange.wrap_of_le (by rw [IntRange.i32_lo]; omega) (by rw [IntRange.i32_hi]; omega)
  have hmul : IntRange.i32.mul 7 s.length = .ok (7 * s.length) :=
    IntRange.mul_ok (by rw [IntRange.i32_lo]; omega) (by rw [IntRange.i32_hi]; omega)
  simp only [fixedWidth, hlen, hmul, Checked.ok_bind]
  rfl

namespace RowLayout

variable {κ : Type}

/-- The width of a button whose label has `n` characters. -/
def buttonSpan (n : Nat) : Int := min (7 * n + 2 * buttonPadding) buttonMaxWidth

/-- The width an item takes on its own. -/
def naturalSpan (l : RowLayout κ) : Item → Int
  | .taskbar =>
    if l.buttons.isEmpty then 0
    else (l.buttons.map fun b => buttonSpan b.2.length + buttonPadding).sum + buttonPadding
  | .clock => 7 * l.clockLabel.length + 2 * buttonPadding
  | .spacer => 0

/-- The width of the items that are not spacers. -/
def fixedSpan (l : RowLayout κ) : Int := ((l.items.filter (· != .spacer)).map l.naturalSpan).sum

/-- The width each spacer takes: what the other items leave over. -/
def spacerSpan (l : RowLayout κ) : Int := max (l.width - l.fixedSpan) 0

/-- How far right the row reaches: the items that are not spacers, and each spacer's share. -/
def extent (l : RowLayout κ) : Int := l.fixedSpan + l.items.count .spacer * l.spacerSpan

/-- The texts a pass measures fit: the clock's and each button's label. -/
def TextsFit (l : RowLayout κ) : Prop := TextFits l.clockLabel ∧ ∀ b ∈ l.buttons, TextFits b.2

theorem buttonSpan_ge (n : Nat) : 2 * buttonPadding ≤ buttonSpan n := by
  rw [buttonSpan, buttonPadding_eq, buttonMaxWidth_eq]
  omega

theorem buttonSpan_le (n : Nat) : buttonSpan n ≤ buttonMaxWidth := by
  simp only [buttonSpan]
  omega

/-- The padded width of a text that fits is a 32-bit sum. -/
theorem add_padding_of_fits {s : String} (h : TextFits s) :
    IntRange.i32.add (7 * s.length) (2 * buttonPadding) =
      .ok (7 * s.length + 2 * buttonPadding) := by
  have h' := h.le
  rw [buttonPadding_eq]
  exact IntRange.add_ok (by rw [IntRange.i32_lo]; omega) (by rw [IntRange.i32_hi]; omega)

theorem buttonWidth_of_fits {label : String} (h : TextFits label) :
    buttonWidth fixedWidth label = .ok (buttonSpan label.length) := by
  rw [buttonWidth, fixedWidth_of_fits h, Checked.ok_bind]
  dsimp only
  rw [add_padding_of_fits h, Checked.ok_bind]
  rfl

theorem clockWidth_of_fits {l : RowLayout κ} (h : TextFits l.clockLabel) :
    l.clockWidth fixedWidth = .ok (7 * l.clockLabel.length + 2 * buttonPadding) := by
  rw [clockWidth, fixedWidth_of_fits h, Checked.ok_bind]
  exact add_padding_of_fits h

theorem sumBy_computes {α : Type} {f : α → Checked Int} {g : α → Int} {xs : List α}
    (hf : ∀ a ∈ xs, Computes (f a) (g a)) : Computes (sumBy f xs) (xs.map g).sum :=
  (computes_foldlM_add hf 0 (Int.le_refl 0) (by rw [IntRange.i32_hi]; omega)).congr
    (Int.zero_add _)

/-- Each item's width is computed exactly, and faults only when it is not a 32-bit value. -/
theorem naturalWidth_computes {l : RowLayout κ} (h : l.TextsFit) (i : Item) :
    Computes (l.naturalWidth fixedWidth i) (l.naturalSpan i) := by
  have hp := buttonPadding_eq
  cases i with
  | taskbar =>
    rw [naturalWidth, naturalSpan]
    split
    · exact Computes.of_ok (Int.le_refl 0) (by rw [IntRange.i32_hi]; omega) rfl
    · -- the buttons one after another, then the padding after the last
      have hbuttons : ∀ b ∈ l.buttons, Computes
          ((fun (b : κ × String) => do
            IntRange.i32.add (← buttonWidth fixedWidth b.2) buttonPadding) b)
          (buttonSpan b.2.length + buttonPadding) := by
        intro b hb
        have hge := buttonSpan_ge b.2.length
        dsimp only
        rw [buttonWidth_of_fits (h.2 b hb), Checked.ok_bind]
        exact Computes.add (by omega) (by omega)
      exact (sumBy_computes hbuttons).bind (by omega) fun _ =>
        Computes.add (sumBy_computes hbuttons).nonneg (by omega)
  | clock =>
    have h' := h.1.le
    rw [naturalWidth, naturalSpan]
    exact Computes.of_ok (by omega) (by rw [IntRange.i32_hi]; omega) (clockWidth_of_fits h.1)
  | spacer =>
    rw [naturalWidth, naturalSpan]
    exact Computes.of_ok (Int.le_refl 0) (by rw [IntRange.i32_hi]; omega) rfl

theorem fixedSpan_computes {l : RowLayout κ} (h : l.TextsFit) :
    Computes (sumBy (l.naturalWidth fixedWidth) (l.items.filter (· != .spacer))) l.fixedSpan :=
  sumBy_computes fun i _ => naturalWidth_computes h i

theorem spacerWidth_ok {l : RowLayout κ} (h : l.TextsFit) (hw0 : 0 ≤ l.width)
    (hw : l.width ≤ IntRange.i32.hi) (hf : l.fixedSpan ≤ IntRange.i32.hi) :
    l.spacerWidth fixedWidth = .ok l.spacerSpan := by
  have h0 := (fixedSpan_computes h).nonneg
  rw [spacerWidth, (fixedSpan_computes h).ok hf, Checked.ok_bind,
    IntRange.sub_ok (by rw [IntRange.i32_lo]; rw [IntRange.i32_hi] at hf hw; omega)
      (by rw [IntRange.i32_hi] at hw ⊢; omega)]
  rfl

theorem spacerWidth_error {l : RowLayout κ} (h : l.TextsFit) (hf : IntRange.i32.hi < l.fixedSpan) :
    ∃ e, l.spacerWidth fixedWidth = .error e := by
  obtain ⟨e, he⟩ := (fixedSpan_computes h).error hf
  exact ⟨e, by rw [spacerWidth, he, Checked.error_bind]⟩

end RowLayout

/-! ### The layout pass -/

/-- A widget the painter draws without leaving the 32-bit range: it starts at or right of zero,
and a button or the clock is at least one padding wide and ends inside the range. -/
def Widget.Paintable {κ : Type} (w : Widget κ) : Prop :=
  0 ≤ w.x ∧ (w.kind = .spacer ∨ buttonPadding ≤ w.width ∧ w.x + w.width ≤ IntRange.i32.hi)

/-- One step of the layout pass: from position `x` it appends widgets the painter can draw and
moves `d` to the right, faulting exactly when the new position passes the top of the range. -/
structure Advances {κ α : Type} (F : List (Widget κ) × Int → α → Checked (List (Widget κ) × Int))
    (a : α) (d : Int) : Prop where
  nonneg : 0 ≤ d
  ok : ∀ ws x, 0 ≤ x → x + d ≤ IntRange.i32.hi →
    ∃ more, F (ws, x) a = .ok (ws ++ more, x + d) ∧ ∀ w ∈ more, w.Paintable
  error : ∀ ws x, 0 ≤ x → x ≤ IntRange.i32.hi → IntRange.i32.hi < x + d →
    ∃ e, F (ws, x) a = .error e

section Pass

variable {κ α : Type} {F : List (Widget κ) × Int → α → Checked (List (Widget κ) × Int)}
  {d : α → Int}

theorem sum_nonneg_of_advances {xs : List α} (hF : ∀ a ∈ xs, Advances F a (d a)) :
    0 ≤ (xs.map d).sum :=
  List.sum_nonneg (by simpa using fun a ha => (hF a ha).nonneg)

/-- A pass whose steps all advance reaches the sum of their widths, when that is in range. -/
theorem foldlM_advances_ok :
    ∀ {xs : List α}, (∀ a ∈ xs, Advances F a (d a)) → ∀ (ws : List (Widget κ)) (x : Int), 0 ≤ x →
      x + (xs.map d).sum ≤ IntRange.i32.hi →
      ∃ more, xs.foldlM F (ws, x) = .ok (ws ++ more, x + (xs.map d).sum) ∧
        ∀ w ∈ more, w.Paintable
  | [], _, ws, x, _, _ => ⟨[], by simp; rfl, by simp⟩
  | a :: xs, hF, ws, x, hx, hsum => by
    have ha := hF a List.mem_cons_self
    have htail : ∀ b ∈ xs, Advances F b (d b) := fun b hb => hF b (List.mem_cons_of_mem _ hb)
    have hrest := sum_nonneg_of_advances htail
    have hd := ha.nonneg
    rw [List.map_cons, List.sum_cons] at hsum ⊢
    obtain ⟨m₁, h₁, hm₁⟩ := ha.ok ws x hx (by omega)
    obtain ⟨m₂, h₂, hm₂⟩ := foldlM_advances_ok htail (ws ++ m₁) (x + d a) (by omega) (by omega)
    refine ⟨m₁ ++ m₂, ?_, ?_⟩
    · rw [List.foldlM_cons, h₁, Checked.ok_bind, h₂, List.append_assoc, Int.add_assoc]
    · intro w hw
      rcases List.mem_append.mp hw with hw | hw
      exacts [hm₁ w hw, hm₂ w hw]

/-- A pass whose steps all advance faults when the sum of their widths passes the top. -/
theorem foldlM_advances_error :
    ∀ {xs : List α}, (∀ a ∈ xs, Advances F a (d a)) → ∀ (ws : List (Widget κ)) (x : Int), 0 ≤ x →
      x ≤ IntRange.i32.hi → IntRange.i32.hi < x + (xs.map d).sum →
      ∃ e, xs.foldlM F (ws, x) = .error e
  | [], _, _, x, _, hx, h => by
    rw [List.map_nil, List.sum_nil, Int.add_zero] at h
    exact absurd hx (Int.not_le.mpr h)
  | a :: xs, hF, ws, x, hx₀, hx, h => by
    have ha := hF a List.mem_cons_self
    have htail : ∀ b ∈ xs, Advances F b (d b) := fun b hb => hF b (List.mem_cons_of_mem _ hb)
    rw [List.map_cons, List.sum_cons] at h
    rw [List.foldlM_cons]
    by_cases hfit : x + d a ≤ IntRange.i32.hi
    · -- the first step stays in range, and the rest of the pass passes the top
      obtain ⟨m₁, h₁, -⟩ := ha.ok ws x hx₀ hfit
      rw [h₁, Checked.ok_bind]
      exact foldlM_advances_error htail _ _ (by have := ha.nonneg; omega) hfit (by omega)
    · obtain ⟨e, he⟩ := ha.error ws x hx₀ hx (by omega)
      exact ⟨e, by rw [he, Checked.error_bind]⟩

end Pass

namespace RowLayout

variable {κ : Type}

/-- The width an item takes in the row, with spacers `sp` wide. -/
def itemSpan (l : RowLayout κ) (sp : Int) (i : Item) : Int :=
  if i = .spacer then sp else l.naturalSpan i

/-- The row reaches as far as its items' widths add up to. -/
theorem sum_itemSpan (l : RowLayout κ) (sp : Int) (is : List Item) :
    (is.map (l.itemSpan sp)).sum =
      ((is.filter (· != .spacer)).map l.naturalSpan).sum + is.count .spacer * sp := by
  induction is with
  | nil => simp
  | cons i is ih =>
    cases i <;> simp [itemSpan, ih] <;> ring

theorem extent_eq_sum (l : RowLayout κ) : l.extent = (l.items.map (l.itemSpan l.spacerSpan)).sum :=
  (sum_itemSpan l l.spacerSpan l.items).symm

theorem fixedSpan_le_extent (l : RowLayout κ) : l.fixedSpan ≤ l.extent := by
  have hsp : 0 ≤ l.spacerSpan := Int.le_max_right _ _
  have : 0 ≤ (l.items.count .spacer : Int) * l.spacerSpan := Int.mul_nonneg (by omega) hsp
  rw [extent]
  omega

theorem advances_button {l : RowLayout κ} (h : l.TextsFit) {b : κ × String} (hb : b ∈ l.buttons) :
    Advances (fun (acc : List (Widget κ) × Int) (k, label) => do
      let w ← buttonWidth fixedWidth label
      let step ← IntRange.i32.add w buttonPadding
      let next ← IntRange.i32.add acc.2 step
      pure (acc.1 ++ [⟨acc.2, w, .button k⟩], next)) b (buttonSpan b.2.length + buttonPadding) := by
  obtain ⟨k, label⟩ := b
  change Advances _ _ (buttonSpan label.length + buttonPadding)
  have hge := buttonSpan_ge label.length
  have hle := buttonSpan_le label.length
  have hp := buttonPadding_eq
  have hm := buttonMaxWidth_eq
  have hstep : IntRange.i32.add (buttonSpan label.length) buttonPadding =
      .ok (buttonSpan label.length + buttonPadding) :=
    IntRange.add_ok (by rw [IntRange.i32_lo]; omega) (by rw [IntRange.i32_hi]; omega)
  refine ⟨by omega, ?_, ?_⟩
  · intro ws x hx hfit
    refine ⟨[⟨x, buttonSpan label.length, .button k⟩], ?_, ?_⟩
    · dsimp only
      rw [buttonWidth_of_fits (h.2 _ hb), Checked.ok_bind, hstep, Checked.ok_bind,
        IntRange.add_ok (by rw [IntRange.i32_lo]; omega) hfit, Checked.ok_bind]
      rfl
    · intro w hw
      rw [List.mem_singleton] at hw
      subst hw
      exact ⟨hx, .inr ⟨by dsimp only; omega, by dsimp only; omega⟩⟩
  · intro ws x hx _ hover
    dsimp only
    rw [buttonWidth_of_fits (h.2 _ hb), Checked.ok_bind, hstep, Checked.ok_bind,
      IntRange.add_error hover, Checked.error_bind]
    exact ⟨_, rfl⟩

theorem advances_place {l : RowLayout κ} (h : l.TextsFit) {sp : Int} (hsp : 0 ≤ sp) (i : Item) :
    Advances (fun (acc : List (Widget κ) × Int) item => do
      let (more, next) ← l.place fixedWidth sp acc.2 item
      pure (acc.1 ++ more, next)) i (l.itemSpan sp i) := by
  have hp := buttonPadding_eq
  cases i with
  | taskbar =>
    have hbuttons : ∀ b ∈ l.buttons, Advances _ b (buttonSpan b.2.length + buttonPadding) :=
      fun b hb => advances_button h hb
    have hsum := sum_nonneg_of_advances hbuttons
    by_cases hempty : l.buttons.isEmpty
    · -- without windows the taskbar takes no space
      rw [itemSpan, if_neg (by decide), naturalSpan, if_pos hempty]
      refine ⟨Int.le_refl 0, ?_, ?_⟩
      · intro ws x _ _
        refine ⟨[], ?_, by simp⟩
        dsimp only
        rw [place, if_pos hempty, pure_bind, List.append_nil, Int.add_zero]
        rfl
      · intro ws x _ hx hover
        omega
    · rw [itemSpan, if_neg (by decide), naturalSpan, if_neg hempty]
      refine ⟨by omega, ?_, ?_⟩
      · intro ws x hx hfit
        obtain ⟨more, hfold, hmore⟩ :=
          foldlM_advances_ok hbuttons [] (x + buttonPadding) (by omega) (by omega)
        refine ⟨more, ?_, hmore⟩
        dsimp only
        rw [place, if_neg hempty, IntRange.add_ok (by rw [IntRange.i32_lo]; omega) (by omega),
          Checked.ok_bind, hfold, Checked.ok_bind, List.nil_append]
        rw [show x + buttonPadding +
            (l.buttons.map fun b => buttonSpan b.2.length + buttonPadding).sum =
          x + ((l.buttons.map fun b => buttonSpan b.2.length + buttonPadding).sum +
            buttonPadding) by omega]
        rfl
      · intro ws x hx₀ hx hover
        dsimp only
        rw [place, if_neg hempty]
        by_cases hpad : x + buttonPadding ≤ IntRange.i32.hi
        · obtain ⟨e, he⟩ := foldlM_advances_error hbuttons [] (x + buttonPadding) (by omega) hpad
            (by omega)
          rw [IntRange.add_ok (by rw [IntRange.i32_lo]; omega) hpad, Checked.ok_bind, he,
            Checked.error_bind]
          exact ⟨e, rfl⟩
        · rw [IntRange.add_error (by omega), Checked.error_bind, Checked.error_bind]
          exact ⟨_, rfl⟩
  | clock =>
    have h' := h.1.le
    rw [itemSpan, if_neg (by decide), naturalSpan]
    have hclock : IntRange.i32.hi ≥ 7 * (l.clockLabel.length : Int) + 2 * buttonPadding := by
      rw [IntRange.i32_hi]
      omega
    refine ⟨by omega, ?_, ?_⟩
    · intro ws x hx hfit
      refine ⟨[⟨x, 7 * l.clockLabel.length + 2 * buttonPadding, .clock⟩], ?_, ?_⟩
      · dsimp only
        rw [place, clockWidth_of_fits h.1, Checked.ok_bind,
          IntRange.add_ok (by rw [IntRange.i32_lo]; omega) hfit, Checked.ok_bind, pure_bind]
        rfl
      · intro w hw
        rw [List.mem_singleton] at hw
        subst hw
        exact ⟨hx, .inr ⟨by dsimp only; omega, by dsimp only; omega⟩⟩
    · intro ws x _ _ hover
      dsimp only
      rw [place, clockWidth_of_fits h.1, Checked.ok_bind, IntRange.add_error hover,
        Checked.error_bind, Checked.error_bind]
      exact ⟨_, rfl⟩
  | spacer =>
    rw [itemSpan, if_pos rfl]
    refine ⟨hsp, ?_, ?_⟩
    · intro ws x hx hfit
      refine ⟨[⟨x, sp, .spacer⟩], ?_, ?_⟩
      · dsimp only
        rw [place, IntRange.add_ok (by rw [IntRange.i32_lo]; omega) hfit, Checked.ok_bind,
          pure_bind]
        rfl
      · intro w hw
        rw [List.mem_singleton] at hw
        subst hw
        exact ⟨hx, .inl rfl⟩
    · intro ws x _ _ hover
      dsimp only
      rw [place, IntRange.add_error hover, Checked.error_bind, Checked.error_bind]
      exact ⟨_, rfl⟩

/-- **The layout pass succeeds when the row's extent is a 32-bit value**, and the painter can
draw every widget it places. -/
theorem compute_ok {l : RowLayout κ} (h : l.TextsFit) (hw₀ : 0 ≤ l.width)
    (hw : l.width ≤ IntRange.i32.hi) (hext : l.extent ≤ IntRange.i32.hi) :
    ∃ ws, l.compute fixedWidth = .ok ws ∧ ∀ w ∈ ws, w.Paintable := by
  have hfixed := Int.le_trans (fixedSpan_le_extent l) hext
  have hsp : 0 ≤ l.spacerSpan := Int.le_max_right _ _
  obtain ⟨ws, hfold, hws⟩ := foldlM_advances_ok (fun i _ => advances_place h hsp i) []
    0 (Int.le_refl 0) (by rw [Int.zero_add, ← extent_eq_sum]; exact hext)
  refine ⟨ws, ?_, hws⟩
  rw [compute, spacerWidth_ok h hw₀ hw hfixed, Checked.ok_bind, hfold, Checked.ok_bind]
  rfl

/-- **The layout pass faults when the row's extent passes the top of the range.** -/
theorem compute_error {l : RowLayout κ} (h : l.TextsFit) (hw₀ : 0 ≤ l.width)
    (hw : l.width ≤ IntRange.i32.hi) (hext : IntRange.i32.hi < l.extent) :
    ∃ e, l.compute fixedWidth = .error e := by
  by_cases hfixed : l.fixedSpan ≤ IntRange.i32.hi
  · -- the fixed items fit, so the spacers carry the pass past the top
    have hsp : 0 ≤ l.spacerSpan := Int.le_max_right _ _
    obtain ⟨e, he⟩ := foldlM_advances_error (fun i _ => advances_place h hsp i) []
      0 (Int.le_refl 0) (by rw [IntRange.i32_hi]; omega)
      (by rw [Int.zero_add, ← extent_eq_sum]; exact hext)
    rw [compute, spacerWidth_ok h hw₀ hw hfixed, Checked.ok_bind, he, Checked.error_bind]
    exact ⟨e, rfl⟩
  · obtain ⟨e, he⟩ := spacerWidth_error h (Int.not_le.mp hfixed)
    rw [compute, he, Checked.error_bind]
    exact ⟨e, rfl⟩

end RowLayout

/-! ### Painting -/

/-- A checked fold whose every step succeeds succeeds. -/
theorem Checked.foldlM_ok {α β : Type} {f : β → α → Checked β} :
    ∀ {xs : List α}, (∀ b, ∀ a ∈ xs, ∃ b', f b a = .ok b') → ∀ b, ∃ b', xs.foldlM f b = .ok b'
  | [], _, b => ⟨b, rfl⟩
  | a :: xs, hf, b => by
    obtain ⟨b₁, h₁⟩ := hf b a List.mem_cons_self
    rw [List.foldlM_cons, h₁, Checked.ok_bind]
    exact Checked.foldlM_ok (fun b' a' ha' => hf b' a' (List.mem_cons_of_mem _ ha')) b₁

namespace Scene

variable {η : Type}

/-- The texts a frame draws fit: the clock's and every button's label. -/
def TextsFit (s : Scene η) : Prop := TextFits s.clockLabel ∧ ∀ kl ∈ s.labels, TextFits kl.2

theorem textFits_unknown : TextFits "?" := by
  rw [TextFits, buttonPadding_eq, IntRange.i32_hi]
  decide

theorem TextsFit.label {s : Scene η} (h : s.TextsFit) (k : WindowKey) : TextFits (s.label k) := by
  rw [Scene.label]
  cases hk : s.labels.lookup k with
  | none => exact textFits_unknown
  | some t =>
    obtain ⟨l₁, l₂, hl, -⟩ := List.lookup_eq_some_iff.mp hk
    exact h.2 (k, t) (by rw [hl]; simp)

/-- A label drawn inside a widget that starts in range never faults. -/
theorem drawLabel_ok {s : Scene η} (hh₀ : 0 ≤ s.height) (hh : s.height ≤ IntRange.i32.hi)
    {text : String} (ht : TextFits text) (c : Canvas) {w : Widget WindowKey} (hx₀ : 0 ≤ w.x)
    (hx : w.x + buttonPadding ≤ IntRange.i32.hi) (clipWidth : Int) :
    s.drawLabel .plain c text w clipWidth = .ok c := by
  have hp := buttonPadding_eq
  rw [drawLabel, IntRange.add_ok (by rw [IntRange.i32_lo]; omega) hx, Checked.ok_bind]
  dsimp only [TextEngine.plain]
  rw [fixedWidth_of_fits ht, Checked.ok_bind]
  dsimp only
  rw [IntRange.sub_ok (by rw [IntRange.i32_lo]; omega) (by omega), Checked.ok_bind]
  rfl

/-- A widget the painter can draw is painted without a fault. -/
theorem paintWidget_ok {s : Scene η} (hs : s.TextsFit) (hh₀ : 0 ≤ s.height)
    (hh : s.height ≤ IntRange.i32.hi) (c : Canvas) {w : Widget WindowKey} (hw : w.Paintable) :
    ∃ c', s.paintWidget .plain c w = .ok c' := by
  have hp := buttonPadding_eq
  have hinset : buttonInset = 2 := rfl
  obtain ⟨x, width, kind⟩ := w
  obtain ⟨hx₀, hw⟩ := hw
  cases kind with
  | button k =>
    obtain ⟨hwide, hend⟩ := hw.resolve_left (by simp)
    dsimp only at hx₀ hwide hend
    rw [paintWidget]
    dsimp only
    split
    · exact ⟨c, rfl⟩
    · rw [IntRange.sub_ok (by rw [IntRange.i32_lo]; omega) (by omega), Checked.ok_bind,
        IntRange.sub_ok (by rw [IntRange.i32_lo]; omega) (by omega), Checked.ok_bind]
      exact ⟨_, drawLabel_ok hh₀ hh (hs.label k) _ hx₀ (by dsimp only; omega) _⟩
  | clock =>
    obtain ⟨hwide, hend⟩ := hw.resolve_left (by simp)
    dsimp only at hx₀ hwide hend
    rw [paintWidget]
    dsimp only
    rw [IntRange.sub_ok (by rw [IntRange.i32_lo]; omega) (by omega), Checked.ok_bind]
    exact ⟨_, drawLabel_ok hh₀ hh hs.1 _ hx₀ (by dsimp only; omega) _⟩
  | spacer => exact ⟨c, rfl⟩

/-- **Painting never faults** on widgets the painter can draw, with texts that fit. -/
theorem paint_ok {s : Scene η} (hs : s.TextsFit) (hh₀ : 0 ≤ s.height)
    (hh : s.height ≤ IntRange.i32.hi) (hw : ∀ w ∈ s.widgets, w.Paintable) (c : Canvas) :
    ∃ c', s.paint .plain c = .ok c' := by
  obtain ⟨c₁, h₁⟩ := Checked.foldlM_ok
    (fun c' w hw' => paintWidget_ok hs hh₀ hh c' (hw w hw')) (c.clear s.palette.background)
  rw [paint, h₁, Checked.ok_bind, IntRange.sub_ok (by rw [IntRange.i32_lo]; omega) (by omega),
    Checked.ok_bind]
  exact ⟨_, rfl⟩

end Scene

/-! ### The panels a run reaches -/

theorem Checked.exists_bind_ok {α β : Type} {x : Checked α} {f : α → Checked β}
    (hx : ∃ a, x = .ok a) (hf : ∀ a, ∃ b, f a = .ok b) : ∃ b, x >>= f = .ok b := by
  obtain ⟨a, rfl⟩ := hx
  exact hf a

theorem Checked.bind_eq_ok {α β : Type} {x : Checked α} {f : α → Checked β} {b : β} :
    x >>= f = .ok b ↔ ∃ a, x = .ok a ∧ f a = .ok b := by
  cases x with
  | error e => simp only [Checked.error_bind, reduceCtorEq, false_and, exists_false]
  | ok a => simp only [Checked.ok_bind, Except.ok.injEq, exists_eq_left']

/-- A physical size exists only for logical sizes that are 32-bit values, at a scale of at
least one. -/
theorem physicalSize?_le {w h : Nat} {scale : Int} {pw ph : Nat} (hs : 1 ≤ scale)
    (hsize : physicalSize? w h scale = some (pw, ph)) :
    (w : Int) ≤ IntRange.i32.hi ∧ (h : Int) ≤ IntRange.i32.hi := by
  unfold physicalSize? at hsize
  have hpos : 1 ≤ scale.toNat := by omega
  have hw : w ≤ w * scale.toNat := Nat.le_mul_of_pos_right w hpos
  have hh : h ≤ h * scale.toNat := Nat.le_mul_of_pos_right h hpos
  rw [if_neg (by omega)] at hsize
  dsimp only at hsize
  split at hsize
  · rename_i hfit
    rw [IntRange.i32_hi] at hfit ⊢
    omega
  · cases hsize

namespace Pool

/-- With an allocator that never faults, acquiring a buffer never faults. -/
theorem acquire_ok {β σ : Type} (p : Pool β) {alloc : Allocator σ β}
    (halloc : ∀ i w h s, ∃ r, alloc.make i w h s = .ok r) (s : σ) (w h : Nat) :
    ∃ r, p.acquire alloc s w h = .ok r := by
  unfold acquire
  split
  · exact ⟨_, rfl⟩
  · split
    · exact ⟨_, rfl⟩
    · split
      · exact ⟨_, rfl⟩
      · rename_i i _ _
        obtain ⟨⟨made, s'⟩, hm⟩ := halloc i w h (alloc.dropSlot p.slots[i] s)
        rw [hm, Checked.ok_bind]
        dsimp only
        split <;> exact ⟨_, rfl⟩

end Pool

namespace Panel

variable {η σ : Type}

/-- The scale lies between one and `maxScale`. -/
def ScaleInRange (p : Panel η) : Prop := 1 ≤ p.state.scale ∧ p.state.scale ≤ maxScale

theorem ScaleInRange.of_scale_eq {p q : Panel η} (h : p.ScaleInRange)
    (hq : q.state.scale = p.state.scale) : q.ScaleInRange := by
  unfold ScaleInRange
  rw [hq]
  exact h

/-- The scale of an output is clamped before the panel takes it. -/
theorem ScaleInRange.applyOutputScale {p : Panel η} (h : p.ScaleInRange) :
    p.applyOutputScale.1.ScaleInRange := by
  unfold Panel.applyOutputScale
  split
  · exact h
  · rename_i factor _
    have hm : maxScale = 8 := rfl
    have hclamp : 1 ≤ (if factor < 1 then 1 else if maxScale < factor then maxScale else factor) ∧
        (if factor < 1 then 1 else if maxScale < factor then maxScale else factor) ≤ maxScale := by
      split <;> (try split) <;> omega
    dsimp only
    generalize (if factor < 1 then 1 else if maxScale < factor then maxScale else factor) = s
      at hclamp ⊢
    split
    · exact h
    · exact hclamp

theorem onWindow_state (p : Panel η) (r? : Option (Registry η)) :
    (p.onWindow r?).1.state = p.state := by
  cases r? <;> rfl

/-- Each event keeps the scale in range. -/
theorem ScaleInRange.handle [BEq η] {p : Panel η} (h : p.ScaleInRange) (e : Event η) :
    (p.handle e).1.ScaleInRange := by
  cases e with
  | title id t => exact h.of_scale_eq (by simp only [Panel.handle, onWindow_state])
  | appId id a => exact h.of_scale_eq (by simp only [Panel.handle, onWindow_state])
  | state id s => exact h.of_scale_eq (by simp only [Panel.handle, onWindow_state])
  | closed id =>
    simp only [Panel.handle]
    split <;> exact h
  | surfaceEnter o =>
    simp only [Panel.handle]
    apply ScaleInRange.applyOutputScale
    split <;> exact h
  | outputSelected o => exact ScaleInRange.applyOutputScale h
  | outputScale o f =>
    simp only [Panel.handle]
    split
    · exact ScaleInRange.applyOutputScale h
    · exact h
  | button seat serial down =>
    simp only [Panel.handle]
    split
    · exact h
    · split
      · exact h
      · split <;> exact h
  | _ => exact h

/-- What a render does to its panel: nothing, when it lays nothing out, or it stores the widgets
of a pass over the row with the engine's measure, with new label faults and a new pending flag. -/
theorem render_laid {p p' : Panel η} {pool pool' : Pool PixelBuffer}
    {alloc : Allocator σ PixelBuffer} {mem mem' : σ} {engine : TextEngine} {now : TimeOfDay}
    {frame : Option Frame} (h : p.render pool alloc mem engine now = .ok (p', pool', mem', frame)) :
    p' = p ∨ ∃ widgets faults pending,
      (⟨p.state.items, IntRange.i32.wrap p.state.width, p.buttonLabels, now.text⟩ :
        RowLayout WindowKey).compute engine.measure = .ok widgets ∧
      p' = { p with widgets, markupFaults := faults, pendingFrame := pending } := by
  unfold render at h
  dsimp only at h
  split at h
  · cases h
    exact .inl rfl
  · split at h
    · obtain ⟨ws, hws, h⟩ := Checked.bind_eq_ok.mp h
      -- every way on from the pass keeps its widgets and sets only the pending flag
      suffices hpending : ∃ pending, p' =
          { p with
            widgets := ws
            markupFaults := p.markupFaults ++ p.labelFaults.toArray
            pendingFrame := pending } by
        obtain ⟨pending, rfl⟩ := hpending
        exact .inr ⟨ws, _, pending, hws, rfl⟩
      obtain ⟨⟨_, _, _⟩, -, h⟩ := Checked.bind_eq_ok.mp h
      dsimp only at h
      split at h
      · split at h
        · split at h
          · obtain ⟨_, -, h⟩ := Checked.bind_eq_ok.mp h
            cases h
            exact ⟨_, rfl⟩
          · cases h
            exact ⟨_, rfl⟩
        · cases h
          exact ⟨_, rfl⟩
      · cases h
        exact ⟨_, rfl⟩
    · cases h
      exact .inl rfl

/-- A render changes only the widgets, the label faults and the pending flag of the panel. -/
theorem render_panel {p p' : Panel η} {pool pool' : Pool PixelBuffer}
    {alloc : Allocator σ PixelBuffer} {mem mem' : σ} {engine : TextEngine} {now : TimeOfDay}
    {frame : Option Frame} (h : p.render pool alloc mem engine now = .ok (p', pool', mem', frame)) :
    ∃ widgets faults pending,
      p' = { p with widgets, markupFaults := faults, pendingFrame := pending } := by
  rcases render_laid h with rfl | ⟨widgets, faults, pending, -, rfl⟩
  · exact ⟨_, _, _, rfl⟩
  · exact ⟨widgets, faults, pending, rfl⟩

/-- A render keeps the panel's state. -/
theorem render_state {p p' : Panel η} {pool pool' : Pool PixelBuffer}
    {alloc : Allocator σ PixelBuffer} {mem mem' : σ} {engine : TextEngine} {now : TimeOfDay}
    {frame : Option Frame} (h : p.render pool alloc mem engine now = .ok (p', pool', mem', frame)) :
    p'.state = p.state := by
  obtain ⟨_, _, _, rfl⟩ := render_panel h
  rfl

/-- The panels that a sequence of events and renders reaches from a new one. -/
inductive Reachable [BEq η] : Panel η → Prop
  | new (s : Settings) : Reachable (ofState (PanelState.ofSettings s))
  | handle {p : Panel η} (e : Event η) : Reachable p → Reachable (p.handle e).1
  | render {σ : Type} {p p' : Panel η} {pool pool' : Pool PixelBuffer}
      {alloc : Allocator σ PixelBuffer} {mem mem' : σ} {engine : TextEngine} {now : TimeOfDay}
      {frame : Option Frame} :
      Reachable p → p.render pool alloc mem engine now = .ok (p', pool', mem', frame) →
        Reachable p'
  | takePending {p : Panel η} : Reachable p → Reachable p.takePending.1

theorem Reachable.scaleInRange [BEq η] {p : Panel η} (hp : p.Reachable) : p.ScaleInRange := by
  induction hp with
  | new s =>
    have hm : maxScale = 8 := rfl
    exact ⟨Int.le_refl 1, by change (1 : Int) ≤ maxScale; omega⟩
  | handle e _ ih => exact ih.handle e
  | render _ h ih => exact ih.of_scale_eq (by rw [render_state h])
  | takePending _ ih => exact ih
end Panel

/-! ### Where a render overflows -/

namespace Panel

variable {η σ : Type}

/-- The row a render lays out at the time of day `now`. -/
def row (p : Panel η) (now : TimeOfDay) : RowLayout WindowKey :=
  { items := p.state.items, width := IntRange.i32.wrap p.state.width, buttons := p.buttonLabels,
    clockLabel := now.text }

theorem render_of_unconfigured {p : Panel η} (h : p.state.width = 0 ∨ p.state.height = 0)
    (pool : Pool PixelBuffer) (alloc : Allocator σ PixelBuffer) (mem : σ) (engine : TextEngine)
    (now : TimeOfDay) : p.render pool alloc mem engine now = .ok (p, pool, mem, none) := by
  unfold render
  dsimp only
  rw [if_pos h]
  rfl

theorem render_of_unsized {p : Panel η}
    (hsize : physicalSize? p.state.width p.state.height p.state.scale = none)
    (pool : Pool PixelBuffer) (alloc : Allocator σ PixelBuffer) (mem : σ) (engine : TextEngine)
    (now : TimeOfDay) : p.render pool alloc mem engine now = .ok (p, pool, mem, none) := by
  unfold render
  dsimp only
  split
  · rfl
  · rw [hsize]
    rfl

/-- A configured panel of a physical size faults where its layout pass faults. -/
theorem render_error {p : Panel η} (hconf : ¬(p.state.width = 0 ∨ p.state.height = 0))
    {pw ph : Nat} (hsize : physicalSize? p.state.width p.state.height p.state.scale = some (pw, ph))
    (engine : TextEngine) {now : TimeOfDay} {e : Overflow}
    (he : (p.row now).compute engine.measure = .error e)
    (pool : Pool PixelBuffer) (alloc : Allocator σ PixelBuffer) (mem : σ) :
    p.render pool alloc mem engine now = .error e := by
  unfold render
  dsimp only
  rw [if_neg hconf, hsize]
  dsimp only
  rw [row] at he
  rw [he, Checked.error_bind]

/-- A configured panel of a physical size, whose pass places widgets the painter can draw,
renders without a fault when the allocator never faults. -/
theorem render_ok {p : Panel η} (hconf : ¬(p.state.width = 0 ∨ p.state.height = 0))
    {pw ph : Nat} (hsize : physicalSize? p.state.width p.state.height p.state.scale = some (pw, ph))
    {now : TimeOfDay} {ws : List (Widget WindowKey)} (hws : (p.row now).compute fixedWidth = .ok ws)
    (hpaint : ∀ w ∈ ws, w.Paintable) (hfit : (p.row now).TextsFit)
    (hh : (p.state.height : Int) ≤ IntRange.i32.hi) (pool : Pool PixelBuffer)
    {alloc : Allocator σ PixelBuffer} (halloc : ∀ i w h s, ∃ r, alloc.make i w h s = .ok r)
    (mem : σ) : ∃ r, p.render pool alloc mem .plain now = .ok r := by
  have hwrap : IntRange.i32.wrap p.state.height = p.state.height :=
    IntRange.wrap_of_le (by rw [IntRange.i32_lo]; omega) hh
  unfold render
  dsimp only [TextEngine.plain]
  rw [if_neg hconf, hsize]
  dsimp only
  rw [row] at hws
  obtain ⟨⟨slot?, pool₁, mem₁⟩, hacq⟩ := pool.acquire_ok halloc mem pw ph
  rw [hws, Checked.ok_bind, hacq, Checked.ok_bind]
  dsimp only
  -- each way out of the buffer handling returns; the one that paints does not fault
  split
  · split
    · split
      · refine Checked.exists_bind_ok (Scene.paint_ok ?_ ?_ ?_ hpaint _) fun _ => ⟨_, rfl⟩
        · exact hfit
        · dsimp only
          rw [hwrap]
          omega
        · dsimp only
          rw [hwrap]
          exact hh
      · exact ⟨_, rfl⟩
    · exact ⟨_, rfl⟩
  · exact ⟨_, rfl⟩

/-- **A render faults exactly when its row outgrows 32 bits.** Take a panel that events and
renders reach, texts that fit, and an allocator that never faults; measure text at seven pixels
a character. Then a render faults exactly when the panel is configured, has a physical size,
and the row's extent passes `2 ^ 31 - 1`. The physical size keeps the panel's width in range,
but each spacer after the first adds the leftover width once more. -/
theorem render_overflows_iff [BEq η] {p : Panel η} (hp : p.Reachable) (pool : Pool PixelBuffer)
    {alloc : Allocator σ PixelBuffer} (halloc : ∀ i w h s, ∃ r, alloc.make i w h s = .ok r)
    (mem : σ) (now : TimeOfDay) (hfit : (p.row now).TextsFit) :
    (∃ e, p.render pool alloc mem .plain now = .error e) ↔
      p.state.width ≠ 0 ∧ p.state.height ≠ 0 ∧
        (physicalSize? p.state.width p.state.height p.state.scale).isSome ∧
        IntRange.i32.hi < (p.row now).extent := by
  have hscale := hp.scaleInRange.1
  by_cases hconf : p.state.width = 0 ∨ p.state.height = 0
  · -- an unconfigured panel renders nothing
    rw [render_of_unconfigured hconf]
    constructor
    · rintro ⟨e, he⟩
      cases he
    · rintro ⟨hw, hh, -⟩
      rcases hconf with h | h
      exacts [(hw h).elim, (hh h).elim]
  · have hconf' : p.state.width ≠ 0 ∧ p.state.height ≠ 0 := not_or.mp hconf
    cases hsize : physicalSize? p.state.width p.state.height p.state.scale with
    | none =>
      rw [render_of_unsized hsize]
      constructor
      · rintro ⟨e, he⟩
        cases he
      · rintro ⟨-, -, hsome, -⟩
        cases hsome
    | some size =>
      obtain ⟨pw, ph⟩ := size
      obtain ⟨hw, hh⟩ := physicalSize?_le hscale hsize
      -- the row is as wide as the panel
      have hwrap : (p.row now).width = p.state.width :=
        IntRange.wrap_of_le (by rw [IntRange.i32_lo]; omega) hw
      have hw₀ : 0 ≤ (p.row now).width := by rw [hwrap]; omega
      have hw' : (p.row now).width ≤ IntRange.i32.hi := by rw [hwrap]; exact hw
      by_cases hext : (p.row now).extent ≤ IntRange.i32.hi
      · obtain ⟨ws, hws, hpaint⟩ := RowLayout.compute_ok hfit hw₀ hw' hext
        obtain ⟨r, hr⟩ := render_ok hconf hsize hws hpaint hfit hh pool halloc mem
        rw [hr]
        constructor
        · rintro ⟨e, he⟩
          cases he
        · rintro ⟨-, -, -, hover⟩
          exact absurd hext (Int.not_le.mpr hover)
      · obtain ⟨e, he⟩ := RowLayout.compute_error hfit hw₀ hw' (Int.not_le.mp hext)
        have hrender : p.render pool alloc mem .plain now = .error e :=
          render_error hconf hsize .plain he pool alloc mem
        exact ⟨fun _ => ⟨hconf'.1, hconf'.2, rfl, Int.not_le.mp hext⟩, fun _ => ⟨e, hrender⟩⟩

theorem render_overflows_iff_two_spacers :
    (((ofState (PanelState.ofSettings { items := "SS" }) : Panel Nat).handle
      (.configure 1073741824 30)).1).Reachable ∧
    (∀ i w h (s : Unit), ∃ r,
      (⟨fun _ _ _ s => .ok (none, s), fun _ s => s⟩ : Allocator Unit PixelBuffer).make i w h s =
        .ok r) ∧
    ((((ofState (PanelState.ofSettings { items := "SS" }) : Panel Nat).handle
      (.configure 1073741824 30)).1).row ⟨12, 0, 0, 0⟩).TextsFit ∧
    ((∃ e, (((ofState (PanelState.ofSettings { items := "SS" }) : Panel Nat).handle
      (.configure 1073741824 30)).1).render {}
        (⟨fun _ _ _ s => .ok (none, s), fun _ s => s⟩ : Allocator Unit PixelBuffer) ()
        .plain ⟨12, 0, 0, 0⟩ = .error e) ↔
      1073741824 ≠ 0 ∧ 30 ≠ 0 ∧ (physicalSize? 1073741824 30 1).isSome ∧
        IntRange.i32.hi < ((((ofState (PanelState.ofSettings { items := "SS" }) : Panel Nat).handle
          (.configure 1073741824 30)).1).row ⟨12, 0, 0, 0⟩).extent) :=
  have hp := Reachable.handle (.configure 1073741824 30) (.new { items := "SS" })
  have halloc : ∀ i w h (s : Unit), ∃ r,
      (⟨fun _ _ _ s => .ok (none, s), fun _ s => s⟩ : Allocator Unit PixelBuffer).make i w h s =
        .ok r := fun _ _ _ s => ⟨(none, s), rfl⟩
  have hfit : ((((ofState (PanelState.ofSettings { items := "SS" }) : Panel Nat).handle
      (.configure 1073741824 30)).1).row ⟨12, 0, 0, 0⟩).TextsFit := ⟨by decide, by decide⟩
  ⟨hp, halloc, hfit, render_overflows_iff hp {} halloc () ⟨12, 0, 0, 0⟩ hfit⟩

/-- Two spacers each take the whole width of a panel `2 ^ 30` pixels wide, and the second
carries the row past the top of the range. -/
theorem render_overflows_with_two_spacers :
    ∃ e, (((ofState (PanelState.ofSettings { items := "SS" }) : Panel Nat).handle
      (.configure 1073741824 30)).1).render {} Memory.allocate {} .plain ⟨12, 0, 0, 0⟩ =
        .error e :=
  ⟨.add, rfl⟩

end Panel

end DeskPanel
