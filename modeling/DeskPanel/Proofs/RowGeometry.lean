import DeskPanel.Proofs.Frame

/-!
# The geometry of a row

A layout pass works out each item's width twice: once on its own, to find what the spacers get,
and once while it places the widgets from left to right. This module gives the row's geometry
in exact arithmetic, from the widths the measure gives, and shows that a pass that does not
overflow places exactly that. The items come as consecutive segments of the row. Each segment
is as wide as its item on its own, and a spacer's is the width the other items leave over.

Placing pieces one after another is `serial`: each piece is laid where the ones before it
reached. Its closed form (`serial_eq_flatten`) puts piece `j` at the room the pieces before it
take. A checked pass whose every step places one piece computes it (`foldlM_eq_serial`).

## Main definitions

* `Measure.width` — the width a measure gives a text.
* `serial` — pieces placed one after another.
* `RowLayout.ofWindows` — the row a render lays out over a registry's windows.
* `RowLayout.buttonExtent`, `RowLayout.naturalExtent`, `RowLayout.fixedExtent`,
  `RowLayout.leftover`, `RowLayout.itemExtent`, `RowLayout.startOf`, `RowLayout.totalExtent` —
  the row's geometry.
* `RowLayout.buttonsAt`, `RowLayout.segment`, `RowLayout.plan` — the widgets it places.

## Main results

* `RowLayout.compute_eq_ok` — a pass that does not overflow places the plan, and the row's end
  is a 32-bit value.
* `RowLayout.compute_lays_out_segments` — over a registry's windows, the pass lays the items out
  as consecutive segments, each as wide as the item's natural width.
-/

namespace DeskPanel

/-- The width a measure gives a text; a text it faults on counts as zero, which no pass that
succeeds ever uses. -/
def Measure.width (m : Measure) (s : String) : Int :=
  match m s with
  | .ok size => size.width
  | .error _ => 0

theorem Measure.width_of_eq_ok {m : Measure} {s : String} {size : TextSize} (h : m s = .ok size) :
    Measure.width m s = size.width := by
  rw [Measure.width, h]

/-- A checked sum that succeeds lies in the range of its type. -/
theorem IntRange.add_bounds {r : IntRange} {a b v : Int} (h : r.add a b = .ok v) :
    r.lo ≤ v ∧ v ≤ r.hi := by
  unfold IntRange.add at h
  split at h
  · rename_i hin
    cases h
    exact (IntRange.contains_iff _ _).mp hin
  · cases h

/-! ### Pieces placed one after another -/

section Serial

variable {α β : Type} (seg : Int → α → List β) (d : α → Int)

/-- Pieces placed one after another from `x`: each is laid where the ones before it reached, and
takes `d a` of room. -/
def serial : Int → List α → List β
  | _, [] => []
  | x, a :: as => seg x a ++ serial (x + d a) as

@[simp] theorem serial_nil (x : Int) : serial seg d x [] = [] := rfl

@[simp] theorem serial_cons (x : Int) (a : α) (as : List α) :
    serial seg d x (a :: as) = seg x a ++ serial seg d (x + d a) as := rfl

/-- The room the first `j` pieces take. -/
theorem sum_take_succ_cons (a : α) (as : List α) (j : Nat) :
    ((List.take (j + 1) (a :: as)).map d).sum = d a + ((as.take j).map d).sum := by
  rw [List.take_succ_cons, List.map_cons, List.sum_cons]

/-- Piece `j` is laid at the room the pieces before it take. -/
theorem serial_eq_flatten (x : Int) (as : List α) :
    serial seg d x as = (as.mapIdx fun j a => seg (x + ((as.take j).map d).sum) a).flatten := by
  induction as generalizing x with
  | nil => rfl
  | cons a as ih =>
    rw [serial_cons, ih, List.mapIdx_cons, List.flatten_cons]
    simp only [List.take_zero, List.map_nil, List.sum_nil, Int.add_zero, sum_take_succ_cons,
      Int.add_assoc]

/-- One widget for each piece: piece `j` at the room the pieces before it take. -/
theorem serial_singleton (f : Int → α → β) (x : Int) (as : List α) :
    serial (fun x a => [f x a]) d x as = as.mapIdx fun j a => f (x + ((as.take j).map d).sum) a := by
  induction as generalizing x with
  | nil => rfl
  | cons a as ih =>
    rw [serial_cons, ih, List.mapIdx_cons, List.singleton_append]
    simp only [List.take_zero, List.map_nil, List.sum_nil, Int.add_zero, sum_take_succ_cons,
      Int.add_assoc]

/-- A checked pass whose every step places one piece and moves past it places them all. -/
theorem foldlM_eq_serial {F : List β × Int → α → Checked (List β × Int)}
    (hF : ∀ ws x a r, F (ws, x) a = .ok r → r = (ws ++ seg x a, x + d a)) :
    ∀ (as : List α) (ws : List β) (x : Int) {r : List β × Int}, as.foldlM F (ws, x) = .ok r →
      r = (ws ++ serial seg d x as, x + (as.map d).sum)
  | [], ws, x, r, h => by
    cases h
    rw [serial_nil, List.append_nil, List.map_nil, List.sum_nil, Int.add_zero]
  | a :: as, ws, x, r, h => by
    rw [List.foldlM_cons] at h
    obtain ⟨r₁, h₁, h⟩ := Checked.bind_eq_ok.mp h
    rw [hF ws x a r₁ h₁] at h
    rw [foldlM_eq_serial hF as _ _ h, serial_cons, List.map_cons, List.sum_cons,
      List.append_assoc, Int.add_assoc]

end Serial

/-! ### The exact geometry -/

namespace RowLayout

variable {κ : Type} (l : RowLayout κ) (m : Measure)

/-- A button's width in exact arithmetic: its label's width and padding on both sides, at most
`buttonMaxWidth`. -/
def buttonExtent (label : String) : Int :=
  min (Measure.width m label + 2 * buttonPadding) buttonMaxWidth

/-- The room a button takes in its taskbar: its width and the padding after it. -/
def buttonStep (b : κ × String) : Int := buttonExtent m b.2 + buttonPadding

/-- The widget of a button that starts at `x`. -/
def buttonAt (x : Int) (b : κ × String) : Widget κ := ⟨x, buttonExtent m b.2, .button b.1⟩

/-- The clock's width in exact arithmetic: its text's width and padding on both sides. -/
def clockExtent : Int := Measure.width m l.clockLabel + 2 * buttonPadding

/-- The width an item takes on its own. A taskbar takes nothing without windows, and otherwise
the padding before its first button and each button with the padding after it. -/
def naturalExtent : Item → Int
  | .taskbar => if l.buttons = [] then 0 else buttonPadding + (l.buttons.map (buttonStep m)).sum
  | .clock => l.clockExtent m
  | .spacer => 0

/-- The width of the items that are not spacers. -/
def fixedExtent : Int := ((l.items.filter (· != .spacer)).map (l.naturalExtent m)).sum

/-- The width each spacer takes: what the other items leave over, never less than zero. -/
def leftover : Int := max (l.width - l.fixedExtent m) 0

/-- The room an item takes in the row. -/
def itemExtent : Item → Int
  | .taskbar => l.naturalExtent m .taskbar
  | .clock => l.naturalExtent m .clock
  | .spacer => l.leftover m

/-- Where the item at index `j` starts: the room the items before it take. -/
def startOf (j : Nat) : Int := ((l.items.take j).map (l.itemExtent m)).sum

/-- Where the row ends: the room all its items take. -/
def totalExtent : Int := (l.items.map (l.itemExtent m)).sum

/-- The buttons of a taskbar whose first button starts at `x`: button `k` comes after the
buttons before it, each followed by the padding. -/
def buttonsAt (x : Int) : List (Widget κ) :=
  l.buttons.mapIdx fun k b => buttonAt m (x + ((l.buttons.take k).map (buttonStep m)).sum) b

/-- The widgets of an item that starts at `x`: a taskbar's buttons after the padding, the
clock, or a spacer as wide as the leftover. -/
def segment (x : Int) : Item → List (Widget κ)
  | .taskbar => l.buttonsAt m (x + buttonPadding)
  | .clock => [⟨x, l.clockExtent m, .clock⟩]
  | .spacer => [⟨x, l.leftover m, .spacer⟩]

/-- The widgets of the row: each item's, from where the items before it end. -/
def plan : List (Widget κ) := (l.items.mapIdx fun j i => l.segment m (l.startOf m j) i).flatten

theorem buttonsAt_eq_serial (x : Int) :
    l.buttonsAt m x = serial (fun x b => [buttonAt m x b]) (buttonStep m) x l.buttons :=
  (serial_singleton _ _ _ _).symm

theorem plan_eq_serial : l.plan m = serial (l.segment m) (l.itemExtent m) 0 l.items := by
  rw [serial_eq_flatten, plan]
  simp only [startOf, Int.zero_add]

theorem totalExtent_eq_startOf : l.totalExtent m = l.startOf m l.items.length := by
  rw [totalExtent, startOf, List.take_length]

/-- The row ends at the width of the items that are not spacers and the leftover once for each
spacer. -/
theorem sum_itemExtent (is : List Item) :
    (is.map (l.itemExtent m)).sum =
      ((is.filter (· != .spacer)).map (l.naturalExtent m)).sum + is.count .spacer * l.leftover m := by
  induction is with
  | nil => simp
  | cons i is ih =>
    cases i <;> simp [itemExtent, ih] <;> ring

theorem totalExtent_eq : l.totalExtent m = l.fixedExtent m + l.items.count .spacer * l.leftover m :=
  l.sum_itemExtent m l.items

/-- With a single spacer and fixed items that fit, the row ends at the panel's width. -/
theorem totalExtent_of_one_spacer (h₁ : l.items.count .spacer = 1) (hfit : l.fixedExtent m ≤ l.width) :
    l.totalExtent m = l.width := by
  rw [totalExtent_eq, h₁, leftover]
  omega

/-! ### A pass that succeeds computes the exact geometry -/

theorem buttonWidth_eq_ok {label : String} {w : Int} (h : buttonWidth m label = .ok w) :
    w = buttonExtent m label := by
  unfold buttonWidth at h
  obtain ⟨size, hsize, h⟩ := Checked.bind_eq_ok.mp h
  obtain ⟨w', hw', h⟩ := Checked.bind_eq_ok.mp h
  cases h
  rw [buttonExtent, Measure.width_of_eq_ok hsize, ← IntRange.add_eq_ok hw']

theorem clockWidth_eq_ok {w : Int} (h : l.clockWidth m = .ok w) : w = l.clockExtent m := by
  unfold clockWidth at h
  obtain ⟨size, hsize, h⟩ := Checked.bind_eq_ok.mp h
  rw [IntRange.add_eq_ok h, clockExtent, Measure.width_of_eq_ok hsize]

/-- A checked sum that succeeds adds every term, each computed exactly. -/
theorem foldlM_add_eq_ok {α : Type} {f : α → Checked Int} {g : α → Int}
    (hf : ∀ a v, f a = .ok v → v = g a) :
    ∀ (xs : List α) (acc : Int) {v : Int},
      xs.foldlM (fun acc a => do IntRange.i32.add acc (← f a)) acc = .ok v →
        (∀ a ∈ xs, f a = .ok (g a)) ∧ v = acc + (xs.map g).sum
  | [], acc, v, h => by
    cases h
    exact ⟨nofun, by rw [List.map_nil, List.sum_nil, Int.add_zero]⟩
  | a :: xs, acc, v, h => by
    rw [List.foldlM_cons] at h
    obtain ⟨acc', h₁, h⟩ := Checked.bind_eq_ok.mp h
    obtain ⟨b, hb, h₁⟩ := Checked.bind_eq_ok.mp h₁
    obtain ⟨hxs, rfl⟩ := foldlM_add_eq_ok hf xs acc' h
    obtain rfl := hf a b hb
    refine ⟨fun a' ha' => ?_, ?_⟩
    · rcases List.mem_cons.mp ha' with rfl | ha'
      exacts [hb, hxs a' ha']
    · rw [IntRange.add_eq_ok h₁, List.map_cons, List.sum_cons, Int.add_assoc]

theorem sumBy_eq_ok {α : Type} {f : α → Checked Int} {g : α → Int}
    (hf : ∀ a v, f a = .ok v → v = g a) {xs : List α} {v : Int} (h : sumBy f xs = .ok v) :
    (∀ a ∈ xs, f a = .ok (g a)) ∧ v = (xs.map g).sum := by
  obtain ⟨hxs, rfl⟩ := foldlM_add_eq_ok hf xs 0 h
  exact ⟨hxs, Int.zero_add _⟩

theorem buttonStep_eq_ok {b : κ × String} {v : Int}
    (h : (do IntRange.i32.add (← buttonWidth m b.2) buttonPadding) = .ok v) :
    v = buttonStep m b := by
  obtain ⟨w, hw, h⟩ := Checked.bind_eq_ok.mp h
  rw [IntRange.add_eq_ok h, buttonWidth_eq_ok m hw, buttonStep]

/-- An item's width on its own, when it is computed, is its exact width. -/
theorem naturalWidth_eq_ok {i : Item} {v : Int} (h : l.naturalWidth m i = .ok v) :
    v = l.naturalExtent m i := by
  cases i with
  | taskbar =>
    rw [naturalWidth] at h
    rw [naturalExtent]
    split at h
    · rename_i hempty
      cases h
      rw [if_pos (List.isEmpty_iff.mp hempty)]
    · rename_i hne
      obtain ⟨s, hs, h⟩ := Checked.bind_eq_ok.mp h
      obtain ⟨-, rfl⟩ := sumBy_eq_ok (fun b v hb => buttonStep_eq_ok m hb) hs
      rw [if_neg (fun e => hne (List.isEmpty_iff.mpr e)), IntRange.add_eq_ok h, Int.add_comm]
  | clock => exact l.clockWidth_eq_ok m h
  | spacer =>
    cases h
    rfl

/-- When the spacers' width is computed, it is the leftover, and the width of every item that
is not a spacer was computed exactly on the way. -/
theorem spacerWidth_eq_ok {sp : Int} (h : l.spacerWidth m = .ok sp) :
    sp = l.leftover m ∧
      ∀ i ∈ l.items, i ≠ .spacer → l.naturalWidth m i = .ok (l.naturalExtent m i) := by
  unfold spacerWidth at h
  obtain ⟨fixed, hfixed, h⟩ := Checked.bind_eq_ok.mp h
  obtain ⟨rest, hrest, h⟩ := Checked.bind_eq_ok.mp h
  cases h
  obtain ⟨hitems, rfl⟩ := sumBy_eq_ok (fun i v hv => l.naturalWidth_eq_ok m hv) hfixed
  refine ⟨by rw [IntRange.sub_eq_ok hrest, leftover, fixedExtent], fun i hi hs => ?_⟩
  exact hitems i (List.mem_filter.mpr ⟨hi, bne_iff_ne.mpr hs⟩)

/-- One item of the pass, with spacers as wide as the leftover, places the item's segment and
moves past the room it takes. -/
theorem place_eq_ok {x : Int} {i : Item} {r : List (Widget κ) × Int}
    (h : l.place m (l.leftover m) x i = .ok r) : r = (l.segment m x i, x + l.itemExtent m i) := by
  cases i with
  | taskbar =>
    rw [place] at h
    split at h
    · rename_i hempty
      cases h
      have hnil := List.isEmpty_iff.mp hempty
      simp only [segment, buttonsAt, itemExtent, naturalExtent, hnil, List.mapIdx_nil, if_true,
        Int.add_zero]
    · rename_i hne
      obtain ⟨x₁, hx₁, h⟩ := Checked.bind_eq_ok.mp h
      -- each button is placed where the ones before it reached, then the padding after it
      have hbuttons := foldlM_eq_serial (fun x b => [buttonAt m x b]) (buttonStep m)
        (fun ws x b r hb => by
          obtain ⟨w, hw, hb⟩ := Checked.bind_eq_ok.mp hb
          obtain ⟨step, hstep, hb⟩ := Checked.bind_eq_ok.mp hb
          obtain ⟨next, hnext, hb⟩ := Checked.bind_eq_ok.mp hb
          cases hb
          obtain rfl := buttonWidth_eq_ok m hw
          rw [IntRange.add_eq_ok hnext, IntRange.add_eq_ok hstep]
          rfl) l.buttons [] x₁ h
      rw [hbuttons, IntRange.add_eq_ok hx₁, segment, buttonsAt_eq_serial, itemExtent, naturalExtent,
        if_neg (fun e => hne (List.isEmpty_iff.mpr e)), List.nil_append, Int.add_assoc]
  | clock =>
    rw [place] at h
    obtain ⟨w, hw, h⟩ := Checked.bind_eq_ok.mp h
    obtain ⟨next, hnext, h⟩ := Checked.bind_eq_ok.mp h
    cases h
    obtain rfl := l.clockWidth_eq_ok m hw
    rw [IntRange.add_eq_ok hnext]
    rfl
  | spacer =>
    rw [place] at h
    obtain ⟨next, hnext, h⟩ := Checked.bind_eq_ok.mp h
    cases h
    rw [IntRange.add_eq_ok hnext]
    rfl

/-- Each step of the pass ends inside the 32-bit range, from a position inside it. -/
theorem place_bounds {sp x : Int} {i : Item} {r : List (Widget κ) × Int}
    (h : l.place m sp x i = .ok r) (hx : IntRange.i32.lo ≤ x ∧ x ≤ IntRange.i32.hi) :
    IntRange.i32.lo ≤ r.2 ∧ r.2 ≤ IntRange.i32.hi := by
  cases i with
  | taskbar =>
    rw [place] at h
    split at h
    · cases h
      exact hx
    · obtain ⟨x₁, hx₁, h⟩ := Checked.bind_eq_ok.mp h
      -- every button moves to a checked sum
      refine Checked.foldlM_inv (fun acc => IntRange.i32.lo ≤ acc.2 ∧ acc.2 ≤ IntRange.i32.hi)
        (fun acc b acc' _ hb => ?_) (IntRange.add_bounds hx₁) h
      obtain ⟨_, _, hb⟩ := Checked.bind_eq_ok.mp hb
      obtain ⟨_, _, hb⟩ := Checked.bind_eq_ok.mp hb
      obtain ⟨next, hnext, hb⟩ := Checked.bind_eq_ok.mp hb
      cases hb
      exact IntRange.add_bounds hnext
  | clock =>
    rw [place] at h
    obtain ⟨_, _, h⟩ := Checked.bind_eq_ok.mp h
    obtain ⟨next, hnext, h⟩ := Checked.bind_eq_ok.mp h
    cases h
    exact IntRange.add_bounds hnext
  | spacer =>
    rw [place] at h
    obtain ⟨next, hnext, h⟩ := Checked.bind_eq_ok.mp h
    cases h
    exact IntRange.add_bounds hnext

/-- **A pass that does not overflow places the plan.** The spacers get the leftover, every item
that is not a spacer has its exact natural width, and the row's end is a 32-bit value. -/
theorem compute_eq_ok {ws : List (Widget κ)} (h : l.compute m = .ok ws) :
    ws = l.plan m ∧ l.spacerWidth m = .ok (l.leftover m) ∧
      (∀ i ∈ l.items, l.naturalWidth m i = .ok (l.naturalExtent m i)) ∧
      l.totalExtent m ≤ IntRange.i32.hi := by
  unfold compute at h
  obtain ⟨sp, hsp, h⟩ := Checked.bind_eq_ok.mp h
  obtain ⟨⟨ws', xend⟩, hfold, h⟩ := Checked.bind_eq_ok.mp h
  cases h
  obtain ⟨rfl, hnatural⟩ := l.spacerWidth_eq_ok m hsp
  have hpass := foldlM_eq_serial (l.segment m) (l.itemExtent m)
    (fun ws x i r h => by
      obtain ⟨⟨more, next⟩, hplace, h⟩ := Checked.bind_eq_ok.mp h
      cases h
      obtain ⟨rfl, rfl⟩ := Prod.mk.inj (l.place_eq_ok m hplace)
      rfl) l.items [] 0 hfold
  -- the pass ends where the row ends, and every step of it stays in range
  have hend : IntRange.i32.lo ≤ xend ∧ xend ≤ IntRange.i32.hi :=
    Checked.foldlM_inv (fun acc => IntRange.i32.lo ≤ acc.2 ∧ acc.2 ≤ IntRange.i32.hi)
      (fun acc i acc' hacc hi => by
        obtain ⟨⟨more, next⟩, hplace, hi⟩ := Checked.bind_eq_ok.mp hi
        cases hi
        have hnext := l.place_bounds m hplace hacc
        exact hnext)
      (by show IntRange.i32.lo ≤ 0 ∧ (0 : Int) ≤ IntRange.i32.hi; decide) hfold
  obtain ⟨rfl, rfl⟩ := Prod.mk.inj hpass
  refine ⟨by rw [plan_eq_serial, List.nil_append], hsp, fun i hi => ?_, ?_⟩
  · cases i with
    | spacer => rfl
    | _ => exact hnatural _ hi nofun
  · rw [totalExtent, ← Int.zero_add (List.sum _)]
    exact hend.2

end RowLayout

/-! ### The row of a render -/

namespace RowLayout

variable {κ : Type} (l : RowLayout κ) (m : Measure)

/-- What a pass lays out, in the row's exact geometry. -/
structure LaysOut (ws : List (Widget κ)) : Prop where
  /-- The items come as consecutive segments: item `j`'s widgets where the items before it end. -/
  segments : ws = (l.items.mapIdx fun j i => l.segment m (l.startOf m j) i).flatten
  /-- Each spacer gets the width the other items leave over. -/
  spacer : l.spacerWidth m = .ok (l.leftover m)
  /-- The width computed for each item on its own is the room its segment takes. -/
  natural : ∀ i ∈ l.items, l.naturalWidth m i = .ok (l.naturalExtent m i)
  /-- The row ends at the width of the items that are not spacers and the leftover once for
  each spacer. -/
  total : l.totalExtent m = l.fixedExtent m + l.items.count .spacer * l.leftover m
  /-- With a single spacer and fixed items that fit, it ends at the panel's width. -/
  fills : l.items.count .spacer = 1 → l.fixedExtent m ≤ l.width → l.totalExtent m = l.width

theorem laysOut_of_compute {ws : List (Widget κ)} (h : l.compute m = .ok ws) : l.LaysOut m ws :=
  have hpass := l.compute_eq_ok m h
  ⟨hpass.1, hpass.2.1, hpass.2.2.1, l.totalExtent_eq m, l.totalExtent_of_one_spacer m⟩

end RowLayout

namespace RowLayout

variable {η : Type}

/-- The row a render lays out over the windows of a registry: one button per window, in report
order, showing its label, read as markup when `markup` is set. -/
def ofWindows (items : List Item) (width : Int) (r : Registry η) (markup : Bool)
    (clockLabel : String) : RowLayout WindowKey :=
  ⟨items, width, r.entries.map fun (k, w) => (k, Markup.displayText w.label markup), clockLabel⟩

/-- **Natural widths match the computed layout.** Over a registry's windows, a pass that does
not overflow lays the items out as consecutive segments of the row: item `j` starts where the
items before it end. A taskbar gives one button per window in registry order, after the padding
and the buttons before it, each followed by the padding; a clock one widget as wide as its text
with padding; each spacer one widget as wide as the width the other items leave over. The width
the pass computes for each item on its own is the room its segment takes. -/
theorem compute_lays_out_segments {items : List Item} {width : Int} {r : Registry η}
    {markup : Bool} {clockLabel : String} {m : Measure} {ws : List (Widget WindowKey)}
    (h : (ofWindows items width r markup clockLabel).compute m = .ok ws) :
    (ofWindows items width r markup clockLabel).LaysOut m ws :=
  laysOut_of_compute _ m h

theorem compute_lays_out_segments_editor :
    (ofWindows [.taskbar, .spacer, .clock] 800
        ((({} : Registry Nat).report 1).1.setTitle 1 "Editor" |>.getD {}) false "09:05").compute
        fixedWidth = .ok [⟨8, 58, .button ⟨0⟩⟩, ⟨74, 675, .spacer⟩, ⟨749, 51, .clock⟩] ∧
      (ofWindows [.taskbar, .spacer, .clock] 800
        ((({} : Registry Nat).report 1).1.setTitle 1 "Editor" |>.getD {}) false "09:05").LaysOut
        fixedWidth [⟨8, 58, .button ⟨0⟩⟩, ⟨74, 675, .spacer⟩, ⟨749, 51, .clock⟩] :=
  have h : (ofWindows [.taskbar, .spacer, .clock] 800
      ((({} : Registry Nat).report 1).1.setTitle 1 "Editor" |>.getD {}) false "09:05").compute
      fixedWidth = .ok [⟨8, 58, .button ⟨0⟩⟩, ⟨74, 675, .spacer⟩, ⟨749, 51, .clock⟩] := by decide
  ⟨h, compute_lays_out_segments h⟩

end RowLayout

namespace Panel

variable {η : Type}

/-- A render lays its row out over the panel's windows. -/
theorem row_eq_ofWindows (p : Panel η) (now : TimeOfDay) :
    p.row now = RowLayout.ofWindows p.state.items (IntRange.i32.wrap p.state.width) p.windows
      p.state.markup now.text := rfl

end Panel

end DeskPanel
