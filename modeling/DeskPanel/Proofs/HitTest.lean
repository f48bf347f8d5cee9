import DeskPanel.Proofs.RowGeometry

/-!
# Hit-testing the row

A press goes to the first widget that contains the pointer. That this is *the* widget under the
pointer rests on the layout. With a measure that gives no negative widths, a pass lays the
widgets out from left to right: each starts where or after the one before it ends, none starts
left of zero, and none ends past the row's end, which a pass that succeeds keeps in the 32-bit
range. So testing a widget never overflows, at most one widget contains any point, and a press
activates the window of the button under it. A press on a clock, a spacer, a gap, left of the
row or past its end activates nothing.

## Main definitions

* `Widget.covers` — the span a widget covers, in exact arithmetic.
* `Widget.Precedes` — one widget ends where or before another begins.
* `Laid` — widgets laid out from left to right within a stretch of the row.
* `Exclusive` — widgets on which a press goes to the one widget under the pointer.
* `Measure.Nonneg` — a measure that gives no negative widths.

## Main results

* `RowLayout.plan_laid` — the row's widgets are laid out within the row.
* `Laid.exclusive` — widgets laid out within the 32-bit range are hit-tested exclusively.
* `RowLayout.compute_exclusive` — so are the widgets of every pass that does not overflow.
* `RowLayout.hit_testing_exclusive` — the widgets of a pass are ordered and disjoint, and a
  press on a button goes to a window the registry tracks.
-/

namespace DeskPanel

namespace Widget

variable {κ : Type}

/-- Whether the widget covers the point `x`: `[x, x + width)`, in exact arithmetic. -/
def covers (w : Widget κ) (x : Int) : Bool := decide (w.x ≤ x ∧ x < w.x + w.width)

/-- One widget ends where or before another begins. -/
def Precedes (a b : Widget κ) : Prop := a.x + a.width ≤ b.x

/-- Testing a widget whose span lies in the 32-bit range never overflows, and tells whether it
covers the point. -/
theorem contains_eq_covers {w : Widget κ} (h₀ : 0 ≤ w.x) (hw : 0 ≤ w.width)
    (hhi : w.x + w.width ≤ IntRange.i32.hi) (x : Int) : w.contains x = .ok (w.covers x) := by
  unfold contains right covers
  rw [IntRange.add_ok (by rw [IntRange.i32_lo]; omega) hhi]
  by_cases hx : w.x ≤ x
  · rw [if_pos hx]
    simp [hx]
  · rw [if_neg hx]
    simp only [hx, false_and, decide_false]
    rfl

/-- A widget that another one precedes covers nothing the other covers. -/
theorem Precedes.not_covers {a b : Widget κ} (h : a.Precedes b) {x : Int} (ha : a.covers x = true) :
    b.covers x = false := by
  unfold Precedes at h
  unfold covers at ha ⊢
  simp only [decide_eq_true_eq] at ha
  simp only [decide_eq_false_iff_not, not_and, Int.not_lt]
  omega

end Widget

/-! ### Widgets laid out from left to right -/

section Laid

variable {κ : Type}

/-- Widgets laid out from left to right between `a` and `b`: each ends where or before the ones
after it begin, and each starts at or right of `a`, has no negative width and ends at or left
of `b`. -/
structure Laid (a b : Int) (ws : List (Widget κ)) : Prop where
  ordered : ws.Pairwise Widget.Precedes
  within : ∀ w ∈ ws, a ≤ w.x ∧ 0 ≤ w.width ∧ w.x + w.width ≤ b

theorem Laid.nil (a b : Int) : Laid a b ([] : List (Widget κ)) := ⟨List.Pairwise.nil, nofun⟩

theorem Laid.singleton {w : Widget κ} (hw : 0 ≤ w.width) : Laid w.x (w.x + w.width) [w] :=
  ⟨List.pairwise_singleton _ _, fun w' hw' => by
    rw [List.mem_singleton.mp hw']
    exact ⟨Int.le_refl _, hw, Int.le_refl _⟩⟩

theorem Laid.mono {a b a' b' : Int} {ws : List (Widget κ)} (h : Laid a b ws) (ha : a' ≤ a)
    (hb : b ≤ b') : Laid a' b' ws :=
  ⟨h.ordered, fun w hw => by
    obtain ⟨h₁, h₂, h₃⟩ := h.within w hw
    exact ⟨Int.le_trans ha h₁, h₂, Int.le_trans h₃ hb⟩⟩

/-- Widgets laid out up to `b`, then widgets laid out from `b`, are laid out together. -/
theorem Laid.append {a b c : Int} {ws ws' : List (Widget κ)} (h : Laid a b ws) (h' : Laid b c ws')
    (hab : a ≤ b) (hbc : b ≤ c) : Laid a c (ws ++ ws') := by
  refine ⟨List.pairwise_append.mpr ⟨h.ordered, h'.ordered, fun w hw w' hw' => ?_⟩,
    fun w hw => ?_⟩
  · -- the first part ends where the second begins
    exact Int.le_trans (h.within w hw).2.2 (h'.within w' hw').1
  · rcases List.mem_append.mp hw with hw | hw
    · exact (h.mono (Int.le_refl a) hbc).within w hw
    · exact (h'.mono hab (Int.le_refl c)).within w hw

/-- Pieces placed one after another, each laid out within the room it takes, are laid out within
the room they take together. -/
theorem laid_serial {α : Type} {seg : Int → α → List (Widget κ)} {d : α → Int}
    (hd : ∀ a, 0 ≤ d a) (hseg : ∀ x a, Laid x (x + d a) (seg x a)) :
    ∀ (x : Int) (as : List α), Laid x (x + (as.map d).sum) (serial seg d x as)
  | x, [] => by
    rw [serial_nil]
    exact Laid.nil _ _
  | x, a :: as => by
    rw [serial_cons, List.map_cons, List.sum_cons, ← Int.add_assoc]
    have hrest : 0 ≤ (as.map d).sum := List.sum_nonneg (by simpa using fun b _ => hd b)
    exact (hseg x a).append (laid_serial hd hseg (x + d a) as) (by have := hd a; omega)
      (by omega)

/-- The last widget ends right of every other. -/
theorem Laid.right_le_last {a b : Int} {ws : List (Widget κ)} (h : Laid a b ws) {w z : Widget κ}
    (hw : w ∈ ws) (hz : z ∈ ws.getLast?) : w.x + w.width ≤ z.x + z.width := by
  obtain ⟨init, rfl⟩ := List.getLast?_eq_some_iff.mp hz
  rcases List.mem_append.mp hw with hw | hw
  · have hpre := (List.pairwise_append.mp h.ordered).2.2 w hw z List.mem_cons_self
    have hz₀ := (h.within z (List.mem_append_right _ List.mem_cons_self)).2.1
    unfold Widget.Precedes at hpre
    omega
  · rw [List.mem_singleton.mp hw]

end Laid

/-! ### Pressing on widgets laid out in range -/

section Press

variable {κ : Type}

/-- Widgets on which a press goes to the one widget under the pointer: each ends where or before
the next begins, none starts left of zero or has a negative width, testing any of them never
overflows, at most one covers any point, and a press goes to the action of the widget covering
the point, which is nothing left of zero or past the last widget. -/
structure Exclusive (ws : List (Widget κ)) : Prop where
  ordered : ∀ (i : Nat) (hi : i + 1 < ws.length), ws[i].x + ws[i].width ≤ ws[i + 1].x
  width_nonneg : ∀ w ∈ ws, 0 ≤ w.width
  start_nonneg : ∀ w ∈ ws.head?, 0 ≤ w.x
  contains : ∀ w ∈ ws, ∀ x, w.contains x = .ok (w.covers x)
  at_most_one : ∀ x, ws.countP (·.covers x) ≤ 1
  press : ∀ x, pressTarget ws x = .ok ((ws.find? (·.covers x)).bind Widget.action)
  press_outside : ∀ x, (x < 0 ∨ ∀ z ∈ ws.getLast?, z.x + z.width ≤ x) → pressTarget ws x = .ok none

/-- A press goes to the first widget that covers the point, when testing never overflows. -/
theorem pressTarget_eq_find? {x : Int} :
    ∀ {ws : List (Widget κ)}, (∀ w ∈ ws, w.contains x = .ok (w.covers x)) →
      pressTarget ws x = .ok ((ws.find? (·.covers x)).bind Widget.action)
  | [], _ => rfl
  | w :: ws, h => by
    rw [pressTarget, h w List.mem_cons_self, Checked.ok_bind, List.find?_cons]
    cases w.covers x with
    | true => rfl
    | false => exact pressTarget_eq_find? fun w' hw' => h w' (List.mem_cons_of_mem _ hw')

/-- Of widgets each of which precedes the ones after it, at most one covers any point. -/
theorem countP_covers_le_one {x : Int} :
    ∀ {ws : List (Widget κ)}, ws.Pairwise Widget.Precedes → ws.countP (·.covers x) ≤ 1
  | [], _ => Nat.zero_le _
  | w :: ws, h => by
    obtain ⟨hw, hws⟩ := List.pairwise_cons.mp h
    rw [List.countP_cons]
    cases hcov : w.covers x with
    | true =>
      -- the widgets after it start where or after it ends
      have hnone : ws.countP (·.covers x) = 0 :=
        List.countP_eq_zero.mpr fun b hb => by
          rw [(hw b hb).not_covers hcov]
          exact Bool.false_ne_true
      rw [hnone]
      rfl
    | false =>
      rw [if_neg Bool.false_ne_true, Nat.add_zero]
      exact countP_covers_le_one hws

/-- No widget laid out from `a` covers a point left of `a`. -/
theorem Laid.find?_of_lt {a b : Int} {ws : List (Widget κ)} (h : Laid a b ws) {x : Int}
    (hx : x < a) : ws.find? (·.covers x) = none :=
  List.find?_eq_none.mpr fun w hw => by
    have := (h.within w hw).1
    simp only [Widget.covers, decide_eq_true_eq, not_and, Int.not_lt]
    omega

/-- No widget covers a point at or past the end of the last. -/
theorem Laid.find?_of_last_le {a b : Int} {ws : List (Widget κ)} (h : Laid a b ws) {x : Int}
    (hx : ∀ z ∈ ws.getLast?, z.x + z.width ≤ x) : ws.find? (·.covers x) = none := by
  refine List.find?_eq_none.mpr fun w hw => ?_
  obtain ⟨z, hz⟩ := Option.isSome_iff_exists.mp
    (List.getLast?_isSome.mpr (List.ne_nil_of_mem hw))
  have hle := h.right_le_last hw hz
  have hzx := hx z hz
  simp only [Widget.covers, decide_eq_true_eq, not_and, Int.not_lt]
  omega

/-- Testing widgets laid out from zero within the 32-bit range never overflows. -/
theorem Laid.contains_ok {b : Int} {ws : List (Widget κ)} (h : Laid 0 b ws)
    (hb : b ≤ IntRange.i32.hi) : ∀ w ∈ ws, ∀ x, w.contains x = .ok (w.covers x) := by
  intro w hw
  obtain ⟨h₀, hw₀, hend⟩ := h.within w hw
  exact Widget.contains_eq_covers h₀ hw₀ (Int.le_trans hend hb)

/-- **Widgets laid out from zero within the 32-bit range are hit-tested exclusively.** -/
theorem Laid.exclusive {b : Int} {ws : List (Widget κ)} (h : Laid 0 b ws)
    (hb : b ≤ IntRange.i32.hi) : Exclusive ws where
  ordered := List.isChain_iff_getElem.mp h.ordered.isChain
  width_nonneg w hw := (h.within w hw).2.1
  start_nonneg w hw := (h.within w (List.mem_of_mem_head? hw)).1
  contains := h.contains_ok hb
  at_most_one _ := countP_covers_le_one h.ordered
  press x := pressTarget_eq_find? fun w hw => h.contains_ok hb w hw x
  press_outside x hx := by
    rw [pressTarget_eq_find? fun w hw => h.contains_ok hb w hw x]
    rcases hx with hx | hx
    · rw [h.find?_of_lt hx]
      rfl
    · rw [h.find?_of_last_le hx]
      rfl

end Press

/-! ### The widgets of a pass -/

/-- A measure that gives no negative widths. -/
def Measure.Nonneg (m : Measure) : Prop := ∀ s size, m s = .ok size → 0 ≤ size.width

theorem Measure.width_nonneg {m : Measure} (hm : m.Nonneg) (s : String) :
    0 ≤ Measure.width m s := by
  unfold Measure.width
  split
  · rename_i size hsize
    exact hm s size hsize
  · exact Int.le_refl 0

namespace RowLayout

variable {κ : Type} (l : RowLayout κ) {m : Measure}

theorem buttonExtent_pos (hm : m.Nonneg) (label : String) : 0 < buttonExtent m label := by
  have := Measure.width_nonneg hm label
  rw [buttonExtent, buttonPadding_eq, buttonMaxWidth_eq]
  omega

theorem buttonExtent_le (label : String) : buttonExtent m label ≤ buttonMaxWidth :=
  Int.min_le_right _ _

theorem buttonStep_pos (hm : m.Nonneg) (b : κ × String) : 0 < buttonStep m b := by
  have := buttonExtent_pos hm b.2
  rw [buttonStep, buttonPadding_eq]
  omega

theorem itemExtent_nonneg (hm : m.Nonneg) (i : Item) : 0 ≤ l.itemExtent m i := by
  cases i with
  | taskbar =>
    rw [itemExtent, naturalExtent]
    split
    · exact Int.le_refl 0
    · have : 0 ≤ (l.buttons.map (buttonStep m)).sum := List.sum_nonneg fun v hv => by
        obtain ⟨b, -, rfl⟩ := List.mem_map.mp hv
        exact Int.le_of_lt (buttonStep_pos hm b)
      rw [buttonPadding_eq]
      omega
  | clock =>
    have := Measure.width_nonneg hm l.clockLabel
    rw [itemExtent, naturalExtent, clockExtent, buttonPadding_eq]
    omega
  | spacer => exact Int.le_max_right _ _

theorem laid_buttonsAt (hm : m.Nonneg) (x : Int) :
    Laid x (x + (l.buttons.map (buttonStep m)).sum) (l.buttonsAt m x) := by
  rw [buttonsAt_eq_serial]
  refine laid_serial (fun b => Int.le_of_lt (buttonStep_pos hm b)) (fun y b => ?_) x l.buttons
  · -- a button, then the padding after it
    have hpos := buttonExtent_pos hm b.2
    exact (Laid.singleton (Int.le_of_lt hpos)).mono (Int.le_refl y)
      (by rw [buttonStep, buttonPadding_eq]; dsimp only [buttonAt]; omega)

/-- Each item's widgets lie within the room the item takes. -/
theorem laid_segment (hm : m.Nonneg) (x : Int) (i : Item) :
    Laid x (x + l.itemExtent m i) (l.segment m x i) := by
  cases i with
  | taskbar =>
    rw [segment, itemExtent, naturalExtent]
    split
    · rename_i hnil
      rw [buttonsAt, hnil, List.mapIdx_nil]
      exact Laid.nil _ _
    · have := l.laid_buttonsAt hm (x + buttonPadding)
      exact this.mono (by rw [buttonPadding_eq]; omega) (by rw [Int.add_assoc])
  | clock => exact Laid.singleton (w := ⟨x, l.clockExtent m, .clock⟩) (l.itemExtent_nonneg hm .clock)
  | spacer =>
    exact Laid.singleton (w := ⟨x, l.leftover m, .spacer⟩) (l.itemExtent_nonneg hm .spacer)

/-- **The row's widgets are laid out from left to right within the row.** -/
theorem plan_laid (hm : m.Nonneg) : Laid 0 (l.totalExtent m) (l.plan m) := by
  have h := laid_serial (l.itemExtent_nonneg hm) (l.laid_segment hm) 0 l.items
  rw [Int.zero_add] at h
  rw [plan_eq_serial]
  exact h

theorem mem_serial {α β : Type} {seg : Int → α → List β} {d : α → Int} {w : β} :
    ∀ {x : Int} {as : List α}, w ∈ serial seg d x as → ∃ a ∈ as, ∃ y, w ∈ seg y a
  | x, [], h => by cases h
  | x, a :: as, h => by
    rw [serial_cons] at h
    rcases List.mem_append.mp h with h | h
    · exact ⟨a, List.mem_cons_self, x, h⟩
    · obtain ⟨b, hb, y, hy⟩ := mem_serial h
      exact ⟨b, List.mem_cons_of_mem _ hb, y, hy⟩

/-- A button of the row is at most `buttonMaxWidth` wide and is for one of the row's windows. -/
theorem button_of_mem_plan {w : Widget κ} (hw : w ∈ l.plan m) {k : κ} (hk : w.kind = .button k) :
    w.width ≤ buttonMaxWidth ∧ ∃ label, (k, label) ∈ l.buttons := by
  rw [plan_eq_serial] at hw
  obtain ⟨i, -, x, hw⟩ := mem_serial hw
  cases i with
  | taskbar =>
    rw [segment, buttonsAt_eq_serial] at hw
    obtain ⟨b, hb, y, hw⟩ := mem_serial hw
    rw [List.mem_singleton.mp hw] at hk ⊢
    cases hk
    exact ⟨buttonExtent_le b.2, b.2, hb⟩
  | clock | spacer =>
    -- the one widget of a clock or a spacer is no button
    rw [segment] at hw
    rw [List.mem_singleton.mp hw] at hk
    cases hk

end RowLayout

/-- The windows a registry lists are the ones it tracks. -/
theorem Registry.get?_of_mem_entries {η : Type} [BEq η] {r : Registry η} {k : WindowKey}
    {w : Tracked η} (h : (k, w) ∈ r.entries) : r.get? k = some w := by
  obtain ⟨k', -, hk'⟩ := List.mem_filterMap.mp h
  obtain ⟨w', hw', he⟩ := Option.map_eq_some_iff.mp hk'
  cases he
  exact hw'

namespace RowLayout

/-- The widgets of a pass that does not overflow, with a measure that gives no negative widths,
are hit-tested exclusively. -/
theorem compute_exclusive {κ : Type} {l : RowLayout κ} {m : Measure} (hm : m.Nonneg)
    {ws : List (Widget κ)} (h : l.compute m = .ok ws) : Exclusive ws := by
  obtain ⟨rfl, -, -, hend⟩ := compute_eq_ok _ m h
  exact (plan_laid _ hm).exclusive hend

variable {η : Type} [BEq η]

/-- **Layout is ordered and disjoint, so hit-testing is exclusive.** Take any items, registry,
width, markup setting and clock text, and a measure that gives no negative widths. When the pass
over the registry's windows does not overflow, its widgets follow one another from zero, each
ending where or before the next begins, with no negative width; testing any of them never
overflows; at most one covers any point; and a press goes to the action of the widget covering
it, so to the window of a button, and to nothing on a clock, a spacer, a gap, left of zero or
past the last widget. Every button is at most `buttonMaxWidth` wide and is for a window the
registry tracks. -/
theorem hit_testing_exclusive {items : List Item} {width : Int} {r : Registry η} {markup : Bool}
    {clockLabel : String} {m : Measure} (hm : m.Nonneg) {ws : List (Widget WindowKey)}
    (h : (ofWindows items width r markup clockLabel).compute m = .ok ws) :
    Exclusive ws ∧
      ∀ w ∈ ws, ∀ k, w.kind = .button k → w.width ≤ buttonMaxWidth ∧ (r.get? k).isSome := by
  refine ⟨compute_exclusive hm h, fun w hw k hk => ?_⟩
  obtain ⟨rfl, -⟩ := compute_eq_ok _ m h
  obtain ⟨hwidth, label, hb⟩ := button_of_mem_plan _ hw hk
  obtain ⟨⟨k', win⟩, hwin, he⟩ := List.mem_map.mp hb
  cases he
  exact ⟨hwidth, by rw [Registry.get?_of_mem_entries hwin]; rfl⟩

theorem hit_testing_exclusive_untitled :
    Measure.Nonneg (fun s => pure ⟨7 * (s.length : Int), 12⟩ : Measure) ∧
      (ofWindows [.taskbar, .spacer, .clock] 800 (({} : Registry Nat).report 1).1 false
        "09:05").compute (fun s => pure ⟨7 * (s.length : Int), 12⟩ : Measure) =
        .ok [⟨8, 23, .button ⟨0⟩⟩, ⟨39, 710, .spacer⟩, ⟨749, 51, .clock⟩] ∧
      (Exclusive ([⟨8, 23, .button ⟨0⟩⟩, ⟨39, 710, .spacer⟩, ⟨749, 51, .clock⟩] :
          List (Widget WindowKey)) ∧
        ∀ w ∈ [(⟨8, 23, .button ⟨0⟩⟩ : Widget WindowKey), ⟨39, 710, .spacer⟩, ⟨749, 51, .clock⟩],
          ∀ k, w.kind = .button k → w.width ≤ buttonMaxWidth ∧
            ((({} : Registry Nat).report 1).1.get? k).isSome) :=
  have hm : Measure.Nonneg (fun s => pure ⟨7 * (s.length : Int), 12⟩ : Measure) := fun s size h => by
    cases h
    exact Int.mul_nonneg (by decide) (Int.natCast_nonneg _)
  have h : (ofWindows [.taskbar, .spacer, .clock] 800 (({} : Registry Nat).report 1).1 false
      "09:05").compute (fun s => pure ⟨7 * (s.length : Int), 12⟩ : Measure) =
      .ok [⟨8, 23, .button ⟨0⟩⟩, ⟨39, 710, .spacer⟩, ⟨749, 51, .clock⟩] := by decide +kernel
  ⟨hm, h, hit_testing_exclusive hm h⟩

end RowLayout

end DeskPanel
