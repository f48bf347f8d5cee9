import DeskPanel.Proofs.HitTest
import DeskPanel.Proofs.LoopPhases
import DeskPanel.Proofs.Release

/-!
# A press activates the window under the pointer

A pointer button pressed down is answered by activating the window whose button lies under the
seat's pointer: the panel takes the whole-pixel column of the seat's recorded position, finds the
widget of its last layout that contains the column, and when that widget is a button the loop
asks the display to activate the button's window for the seat, provided the window is still
tracked. A released button, a seat with no recorded position, a column over a gap, the clock or
a spacer, and a button whose window is gone activate nothing.

A panel keeps the widgets of its last layout: events leave them alone and a render stores those of
a pass that did not overflow. With an engine that measures no negative width such widgets are
hit-tested exclusively, so the widget containing the column is the one button that covers it,
and testing never overflows. A window that is closed cannot come back under its old key: the
slot map issues every key once, so a key that names no window any more never names one again,
whatever events and renders come after.

## Main definitions

* `Panel.LaidOut` — the widgets of a panel are those of its last layout.
* `Registry.Retired` — a key that names no window and never will.
* `Panel.Follows` — the panels that events and renders reach from a panel.

## Main results

* `Exclusive.pressTarget_eq_some` — a press goes to the button covering the point.
* `Tape.activate_mem_respondCalls` — the activations of answering one event.
* `Panel.LaidOut.exclusive`, `Panel.LaidOut.fault?_eq_none` — laid out widgets are hit-tested
  exclusively and without a fault.
* `RunLoop.laidOut_run` — a run keeps the widgets laid out.
* `Registry.Retired.handle`, `Panel.Follows.retired` — a retired key stays retired.
* `RunLoop.press_activates_window_under_pointer`.
-/

namespace DeskPanel

/-! ### The widget a press lands on -/

/-- Of a list in which at most one element passes a test, the first to pass is any that does. -/
theorem List.find?_eq_some_of_countP_le_one {α : Type} {p : α → Bool} :
    ∀ {l : List α}, l.countP p ≤ 1 → ∀ {a : α}, a ∈ l → p a = true → l.find? p = some a
  | [], _, _, ha, _ => absurd ha List.not_mem_nil
  | b :: l, h, a, ha, hpa => by
    rw [List.find?_cons]
    cases hpb : p b with
    | true =>
      rcases List.mem_cons.mp ha with rfl | ha
      · rfl
      · -- a second element passing the test would make two
        rw [List.countP_cons, hpb, if_pos rfl] at h
        have hpos : 0 < l.countP p := List.countP_pos_iff.mpr ⟨a, ha, hpa⟩
        omega
    | false =>
      rw [List.countP_cons, hpb, if_neg Bool.false_ne_true, Nat.add_zero] at h
      rcases List.mem_cons.mp ha with rfl | ha
      · rw [hpa] at hpb
        cases hpb
      · exact List.find?_eq_some_of_countP_le_one h ha hpa

section Press

variable {κ : Type}

theorem Widget.action_eq_some {w : Widget κ} {k : κ} : w.action = some k ↔ w.kind = .button k := by
  obtain ⟨x, width, kind⟩ := w
  cases kind <;> simp [Widget.action]

/-- **On widgets hit-tested exclusively, a press goes to the button covering the point.** -/
theorem Exclusive.pressTarget_eq_some {ws : List (Widget κ)} (hx : Exclusive ws) {x : Int}
    {k : κ} : pressTarget ws x = .ok (some k) ↔ ∃ w ∈ ws, w.covers x ∧ w.kind = .button k := by
  rw [hx.press x]
  constructor
  · intro h
    obtain ⟨w, hw, hk⟩ := Option.bind_eq_some_iff.mp (Except.ok.inj h)
    have hcov := List.find?_some hw
    exact ⟨w, List.mem_of_find?_eq_some hw, hcov, Widget.action_eq_some.mp hk⟩
  · rintro ⟨w, hw, hcov, hk⟩
    rw [List.find?_eq_some_of_countP_le_one (hx.at_most_one x) hw hcov, Option.bind_some,
      Widget.action_eq_some.mpr hk]

end Press

/-! ### What a panel makes of a press -/

namespace Panel

variable {η : Type} [BEq η]

omit [BEq η] in
theorem onWindow_ne_activate (p : Panel η) (r? : Option (Registry η)) {k : WindowKey}
    {seat : Nat} : (p.onWindow r?).2 ≠ .activate k seat := by
  cases r? <;> nofun

omit [BEq η] in
theorem applyOutputScale_ne_activate (p : Panel η) {k : WindowKey} {seat : Nat} :
    p.applyOutputScale.2 ≠ .activate k seat := by
  rw [applyOutputScale_outcome rfl]
  split <;> nofun

/-- A panel asks to activate a window only for a button pressed down by a seat with a recorded
position, and then for the window of the press's target at the position's column. -/
theorem handle_eq_activate {p : Panel η} {e : Event η} {k : WindowKey} {seat : Nat} :
    (p.handle e).2.1 = .activate k seat ↔
      ∃ serial x, e = .button seat serial true ∧ p.pointers.column? seat = some x ∧
        pressTarget p.widgets x = .ok (some k) := by
  constructor
  · intro h
    cases e with
    | button seat' serial down =>
      -- only a press down, from a seat with a column, over a button, asks for an activation
      simp only [handle] at h
      split at h
      · cases h
      · rename_i hdown
        split at h
        · cases h
        · rename_i x hx
          split at h
          · rename_i k' hk
            obtain ⟨rfl, rfl⟩ := Outcome.activate.inj h
            obtain rfl : down = true := by simpa using hdown
            exact ⟨serial, x, rfl, hx, hk⟩
          · cases h
    | title id t | appId id t | state id t =>
      simp only [handle] at h
      exact absurd h (onWindow_ne_activate _ _)
    | outputSelected o | surfaceEnter o =>
      simp only [handle] at h
      exact absurd h (applyOutputScale_ne_activate _)
    | outputScale o f =>
      simp only [handle] at h
      split at h
      · exact absurd h (applyOutputScale_ne_activate _)
      · cases h
    | done id =>
      simp only [handle, renderIf] at h
      split at h <;> cases h
    | closed id | outputRemoved id =>
      simp only [handle] at h
      split at h <;> cases h
    | appeared id | configure w ht | surfaceClosed | pointerEnter s x y | pointerMotion s x y
    | seatRemoved s | bufferReleased s =>
      simp only [handle] at h
      cases h
  · rintro ⟨serial, x, rfl, hx, hk⟩
    simp only [handle, Bool.not_true, Bool.false_eq_true, if_false, hx, hk]

/-- A press releases no handle. -/
theorem handle_button_released (p : Panel η) (seat serial : Nat) (down : Bool) :
    (p.handle (.button seat serial down)).2.2 = [] := by
  simp only [handle]
  split
  · rfl
  · split
    · rfl
    · split <;> rfl

end Panel

/-! ### What answering a press calls -/

namespace Tape

variable {δ σ η : Type} [BEq η]

/-- Answering an event that the panel answers with an activation hands the event down, releases
nothing, and activates the key's window by its handle if the window is still tracked. -/
theorem respondCalls_of_activate {l : RunLoop δ σ η} {e : Event η} {k : WindowKey} {seat : Nat}
    (hout : (l.panel.handle e).2.1 = .activate k seat) :
    respondCalls l e =
      .handle e :: ((l.panel.windows.get? k).map fun w => Call.activate w.id seat).toList := by
  -- only a press asks for an activation, and a press keeps the panel and releases nothing
  obtain ⟨serial, -, rfl, -⟩ := Panel.handle_eq_activate.mp hout
  unfold respondCalls
  rw [Panel.handle_button_released, hout, Panel.handle_button_fst]
  dsimp only
  cases l.panel.windows.get? k <;> rfl

/-- Answering an event activates a window exactly when the panel asks for it and the window is
still tracked, with the window's handle. -/
theorem activate_mem_respondCalls {l : RunLoop δ σ η} {e : Event η} {id : η} {seat : Nat} :
    Call.activate id seat ∈ respondCalls l e ↔
      ∃ k win, (l.panel.handle e).2.1 = .activate k seat ∧ l.panel.windows.get? k = some win ∧
        win.id = id := by
  constructor
  · intro h
    cases hout : (l.panel.handle e).2.1 with
    | activate k seat' =>
      rw [respondCalls_of_activate hout] at h
      rcases List.mem_cons.mp h with h | h
      · cases h
      obtain ⟨win, hwin, he⟩ := Option.map_eq_some_iff.mp (Option.mem_toList.mp h)
      obtain ⟨rfl, rfl⟩ := Call.activate.inj he
      exact ⟨k, win, rfl, hwin, rfl⟩
    | idle | render | bufferReleased _ | terminate =>
      -- any other answer adds nothing after the releases
      unfold respondCalls at h
      rw [hout] at h
      simp at h
  · rintro ⟨k, win, hout, hwin, rfl⟩
    rw [respondCalls_of_activate hout, hwin]
    exact List.mem_cons_of_mem _ (List.mem_singleton_self _)

end Tape

/-! ### Activations follow presses -/

namespace Call

variable {η : Type}

/-- One call of the press protocol, from the seat whose button the previous call handed down to
the panel, if it did; `none` marks an activation that follows no press of its seat. -/
def pressStep : Option Nat → Call η → Option (Option Nat)
  | s, .activate _ seat => if s = some seat then some none else none
  | _, .handle (.button seat _ true) => some (some seat)
  | _, _ => some none

/-- Only handing a press down to the panel leaves its seat pending. -/
theorem pressStep_eq_some_some {c : Call η} {s : Option Nat} {seat : Nat}
    (h : c.pressStep s = some (some seat)) : ∃ serial, c = .handle (.button seat serial true) := by
  unfold pressStep at h
  split at h
  · split at h <;> cases h
  · cases h
    exact ⟨_, rfl⟩
  · cases h

theorem pressStep_activate (s : Option Nat) (id : η) (seat : Nat) :
    (Call.activate id seat).pressStep s = if s = some seat then some none else none := rfl

/-- A call that is no activation is allowed from every state. -/
theorem pressStep_isSome {c : Call η} (hc : ∀ id seat, c ≠ .activate id seat) (s : Option Nat) :
    (c.pressStep s).isSome := by
  unfold pressStep
  split
  · exact absurd rfl (hc _ _)
  · rfl
  · rfl

end Call

variable {η : Type}

/-- The state of the press protocol after a sequence of calls; `none` once an activation follows
no press. -/
def pressPhase (cs : List (Call η)) : Option (Option Nat) := cs.foldlM Call.pressStep none

/-- Every activation comes right after a button pressed down by its seat was handed to the
panel. -/
def ActivatesOnPress (cs : List (Call η)) : Prop :=
  ∀ pre id seat post, cs = pre ++ .activate id seat :: post →
    ∃ pre' serial, pre = pre' ++ [.handle (.button seat serial true)]

/-- Calls without activations are allowed from every state. -/
theorem foldlM_pressStep_isSome : ∀ {cs : List (Call η)},
    (∀ c ∈ cs, ∀ id seat, c ≠ .activate id seat) → ∀ s, (cs.foldlM Call.pressStep s).isSome
  | [], _, _ => rfl
  | c :: cs, h, s => by
    obtain ⟨s₁, hs₁⟩ := Option.isSome_iff_exists.mp
      (Call.pressStep_isSome (h c List.mem_cons_self) s)
    rw [List.foldlM_cons, hs₁]
    exact foldlM_pressStep_isSome (fun c' hc' => h c' (List.mem_cons_of_mem _ hc')) s₁

/-- In calls the protocol allows from a state, an activation follows a press of its seat, or
comes first with that seat pending. -/
theorem foldlM_pressStep_answers : ∀ {cs : List (Call η)} {s s' : Option Nat},
    cs.foldlM Call.pressStep s = some s' → ∀ pre id seat post, cs = pre ++ .activate id seat :: post →
      (pre = [] ∧ s = some seat) ∨ ∃ pre' serial, pre = pre' ++ [.handle (.button seat serial true)]
  | [], _, _, _, pre, _, _, _, hcs => by cases pre <;> cases hcs
  | c :: cs, s, s', h, pre, id, seat, post, hcs => by
    rw [List.foldlM_cons] at h
    obtain ⟨s₁, hc, h⟩ := Option.bind_eq_some_iff.mp h
    cases pre with
    | nil =>
      -- the first call is the activation, allowed only with its seat pending
      obtain ⟨rfl, -⟩ := List.cons.inj hcs
      rw [Call.pressStep_activate] at hc
      split at hc
      · exact .inl ⟨rfl, ‹_›⟩
      · cases hc
    | cons c' pre =>
      obtain ⟨rfl, hrest⟩ := List.cons.inj hcs
      refine .inr ?_
      rcases foldlM_pressStep_answers h pre id seat post hrest with ⟨rfl, rfl⟩ | ⟨pre', serial, rfl⟩
      · obtain ⟨serial, rfl⟩ := Call.pressStep_eq_some_some hc
        exact ⟨[], serial, rfl⟩
      · exact ⟨c :: pre', serial, rfl⟩

theorem ActivatesOnPress.of_pressPhase {cs : List (Call η)} (h : (pressPhase cs).isSome) :
    ActivatesOnPress cs := by
  intro pre id seat post hcs
  obtain ⟨s', hs'⟩ := Option.isSome_iff_exists.mp h
  rcases foldlM_pressStep_answers hs' pre id seat post hcs with ⟨-, h₀⟩ | hpre
  · cases h₀
  · exact hpre

namespace Tape

variable {δ σ : Type} [BEq η] {env : RunLoop.Env δ σ η}

/-- The calls answering an event are allowed from every state: an activation among them comes
right after the press it answers, which releases nothing. -/
theorem respondCalls_pressStep_isSome (l : RunLoop δ σ η) (e : Event η) (s : Option Nat) :
    ((respondCalls l e).foldlM Call.pressStep s).isSome := by
  by_cases hact : ∃ id seat, Call.activate id seat ∈ respondCalls l e
  · obtain ⟨id, seat, hmem⟩ := hact
    obtain ⟨k, win, hout, hwin, rfl⟩ := activate_mem_respondCalls.mp hmem
    obtain ⟨serial, -, rfl, -⟩ := Panel.handle_eq_activate.mp hout
    rw [respondCalls_of_activate hout, hwin]
    simp [Call.pressStep]
  · exact foldlM_pressStep_isSome (fun c hc id seat he => hact ⟨id, seat, he ▸ hc⟩) s

/-- The log keeps the press protocol. -/
def Answered (t : Tape δ σ η) : Prop := (pressPhase (t.log.map (·.2))).isSome

omit [BEq η] in
theorem pressPhase_append (log : List (LoopState × Call η)) (st : LoopState)
    (cs : List (Call η)) :
    pressPhase ((log ++ cs.map fun c => (st, c)).map (·.2)) =
      pressPhase (log.map (·.2)) >>= fun s => cs.foldlM Call.pressStep s := by
  have hcs : cs.map ((·.2) ∘ fun c => (st, c)) = cs := List.map_id' cs
  rw [List.map_append, List.map_map, pressPhase, List.foldlM_append, hcs]
  rfl

omit [BEq η] in
/-- Calls allowed from every state, made in any state of the loop, keep the log answered. -/
theorem Answered.append {t : Tape δ σ η} (h : t.Answered) {cs : List (Call η)}
    (hcs : ∀ s, (cs.foldlM Call.pressStep s).isSome) (st : LoopState) (l' : RunLoop δ σ η) :
    (⟨l', t.log ++ cs.map fun c => (st, c)⟩ : Tape δ σ η).Answered := by
  show (pressPhase ((t.log ++ cs.map fun c => (st, c)).map (·.2))).isSome
  obtain ⟨s, hs⟩ := Option.isSome_iff_exists.mp h
  rw [pressPhase_append, hs]
  exact hcs s

omit [BEq η] in
theorem Answered.made {t : Tape δ σ η} (h : t.Answered) {cs : List (Call η)}
    (hcs : ∀ s, (cs.foldlM Call.pressStep s).isSome) (l' : RunLoop δ σ η) :
    (⟨l', t.made cs⟩ : Tape δ σ η).Answered :=
  h.append hcs t.loop.state l'

omit [BEq η] in
theorem Answered.made_inactive {t : Tape δ σ η} (h : t.Answered) {cs : List (Call η)}
    (hcs : ∀ c ∈ cs, ∀ id seat, c ≠ .activate id seat) (l' : RunLoop δ σ η) :
    (⟨l', t.made cs⟩ : Tape δ σ η).Answered :=
  h.made (foldlM_pressStep_isSome hcs) l'

omit [BEq η] in
theorem Answered.render {t t' : Tape δ σ η} (h : t.Answered) (hr : Tape.render env t = .ok t') :
    t'.Answered := by
  rcases render_cases hr with ⟨rfl, -⟩ | ⟨-, l', -, rfl | rfl⟩
  · exact h
  all_goals
    refine h.made_inactive ?_ l'
    simp only [List.mem_cons, List.mem_nil_iff, or_false]
    rintro c (rfl | rfl) <;> nofun

theorem Answered.respond {t : Tape δ σ η} (h : t.Answered) (e : Event η) :
    (Tape.respond env t e).1.Answered :=
  h.made (respondCalls_pressStep_isSome t.loop e) _

theorem Answered.dispatchQueued {t t' : Tape δ σ η} (h : t.Answered)
    (hd : Tape.dispatchQueued env t = .ok t') : t'.Answered :=
  dispatchQueued_keeps Answered (fun _ ha => ha) (fun _ e ha => ha.respond e)
    (fun _ _ ha hr => ha.render hr)
    (h.made_inactive (fun c hc => by rw [List.mem_singleton.mp hc]; nofun) _) hd

theorem Answered.turn {spins : Nat} {t t' : Tape δ σ η} (h : t.Answered)
    (ht : Tape.turn env spins t = .ok t') : t'.Answered := by
  refine turn_keeps Answered (fun t ha => ?_) (fun _ _ ha hd => ha.dispatchQueued hd)
    (fun t ha => ?_) (fun t _ ha _ hw => ?_) h ht
  · exact ha.made_inactive (fun c hc => by rw [List.mem_singleton.mp hc]; nofun) _
  · refine ha.made_inactive (fun c hc => ?_) _
    rcases mem_flushCalls env hc with rfl | rfl <;> nofun
  · -- a wait makes no activation, and the frame it may ask for neither
    refine renderIf_keeps Answered (fun _ _ ha hr => ha.render hr) ?_ hw
    refine ha.made_inactive (fun c hc => ?_) _
    rcases mem_wakeCalls env hc with rfl | rfl | rfl | rfl <;> nofun

theorem Answered.turns {spins n : Nat} {t t' : Tape δ σ η} (h : t.Answered)
    (ht : Tape.turns env spins n t = .ok t') : t'.Answered :=
  turns_keeps Answered (fun _ _ ha h => ha.turn h) n h ht

theorem Answered.start {t t' : Tape δ σ η} (h : t.Answered) (hs : Tape.start env t = .ok t') :
    t'.Answered := by
  obtain ⟨t₁, h₁, ⟨-, hr⟩ | ⟨-, rfl⟩⟩ := start_cases hs
  · have ha₁ := h.dispatchQueued h₁
    exact Answered.render (t := ⟨{ t₁.loop with state := .running }, t₁.log⟩) ha₁ hr
  · exact h.dispatchQueued h₁

omit [BEq η] in
/-- The shutdown releases and drops, and activates nothing. -/
theorem Answered.shutdown {t : Tape δ σ η} (h : t.Answered) : (Tape.shutdown env t).Answered := by
  refine h.append (foldlM_pressStep_isSome fun c hc => ?_) .terminating _
  rcases List.mem_append.mp hc with hc | hc
  · obtain ⟨id, -, rfl⟩ := List.mem_map.mp hc
    nofun
  · simp only [List.mem_cons, List.mem_nil_iff, or_false] at hc
    rcases hc with rfl | rfl <;> nofun

end Tape

/-- **Every activation of a run answers a press.** In the calls of any run that returns, each
activation comes right after a button pressed down by its seat was handed to the panel. -/
theorem RunLoop.run_activates_on_press {δ σ : Type} [BEq η] {env : RunLoop.Env δ σ η}
    {spins limit : Nat} {l l' : RunLoop δ σ η} (h : RunLoop.run env spins limit l = .ok l') :
    ∃ t, Tape.run env spins limit ⟨l, []⟩ = .ok t ∧ t.loop = l' ∧
      ActivatesOnPress (t.log.map (·.2)) := by
  obtain ⟨t, ht, rfl⟩ := Tape.exists_run env h
  obtain ⟨t₁, t₂, h₁, h₂, rfl⟩ := Tape.run_cases ht
  refine ⟨_, ht, rfl, ActivatesOnPress.of_pressPhase ?_⟩
  have ha₀ : (⟨l, []⟩ : Tape δ σ η).Answered := rfl
  exact ((ha₀.start h₁).turns h₂).shutdown

/-! ### Keys of windows that are gone -/

namespace Registry

variable {η : Type} [DecidableEq η]

/-- A key that names no window although the slot map issued it already: it never names one
again. -/
def Retired (r : Registry η) (k : WindowKey) : Prop :=
  r.get? k = none ∧ k.serial < r.windows.nextSerial

variable {r r' : Registry η} {k : WindowKey}

theorem Retired.report (h : r.Retired k) (id : η) : (r.report id).1.Retired k := by
  cases hid : r.keyOf? id with
  | some k' =>
    rw [report_of_tracked hid]
    exact h
  | none =>
    rw [report_of_untracked hid]
    -- the key issued is the next serial, above every key issued before
    have hne : k ≠ (r.windows.insert { id }).2 := fun e => by
      have hserial := congrArg WindowKey.serial e
      exact absurd (hserial ▸ h.2) (Nat.lt_irrefl _)
    have hget : r.windows.get? k = none := h.1
    refine ⟨?_, Nat.lt_succ_of_lt h.2⟩
    show (r.windows.insert { id }).1.get? k = none
    rw [SlotMap.get?_insert, hget, if_neg hne]
    rfl

theorem Retired.modify? {id : η} {f : Tracked η → Tracked η} (h : r.Retired k)
    (hm : r.modify? id f = some r') : r'.Retired k := by
  unfold Registry.modify? at hm
  split at hm
  · rename_i k' _
    obtain ⟨m', hm', rfl⟩ := Option.map_eq_some_iff.mp hm
    -- changing the window under a key leaves the keys and the next serial alone
    have hnext : m'.nextSerial = r.windows.nextSerial := by
      unfold SlotMap.modify? at hm'
      split at hm'
      · cases hm'
        rfl
      · cases hm'
    have hget : r.windows.get? k = none := h.1
    refine ⟨?_, hnext ▸ h.2⟩
    show m'.get? k = none
    rw [SlotMap.get?_of_modify? hm' k]
    split
    · rename_i hk
      rw [← hk, hget]
      rfl
    · exact hget
  · cases hm

theorem Retired.remove {id : η} {rel : List η} (h : r.Retired k)
    (hr : r.remove id = some (r', rel)) : r'.Retired k := by
  cases hid : r.keyOf? id with
  | none => rw [remove_of_untracked hid] at hr; cases hr
  | some k' =>
    rw [remove_of_tracked hid] at hr
    cases hr
    have hget : r.windows.get? k = none := h.1
    refine ⟨?_, h.2⟩
    show (r.windows.remove k').1.get? k = none
    rw [SlotMap.get?_remove]
    split
    · rfl
    · exact hget

/-- Removing the window of a tracked id retires its key. -/
theorem retired_of_remove (hc : r.Consistent) {id : η} {rel : List η}
    (hid : r.keyOf? id = some k) (hr : r.remove id = some (r', rel)) : r'.Retired k := by
  rw [remove_of_tracked hid] at hr
  cases hr
  refine ⟨?_, ?_⟩
  · show (r.windows.remove k).1.get? k = none
    rw [SlotMap.get?_remove, if_pos rfl]
  · -- the key names a window, so the slot map issued it
    obtain ⟨w, hw, -⟩ := (hc.keyOf?_eq_some id k).mp hid
    exact hc.fresh.lt_next k (List.mem_map_of_mem (List.mem_of_lookup_eq_some hw))

/-- **A retired key stays retired through every event a panel answers.** -/
theorem Retired.handle {p : Panel η} (h : p.windows.Retired k) (e : Event η) :
    (p.handle e).1.windows.Retired k := by
  rcases Panel.handle_windows p e with hw | ⟨id, hw⟩ | ⟨id, f, -, hw⟩ | ⟨id, rel, hw⟩
  · rw [hw]
    exact h
  · rw [hw]
    exact h.report id
  · exact h.modify? hw
  · exact h.remove hw

end Registry

/-! ### Panels after a close -/

namespace Panel

variable {η : Type} [DecidableEq η]

/-- The panels that events, renders and taking the pending flag reach from `p`. -/
inductive Follows (p : Panel η) : Panel η → Prop
  | refl : Follows p p
  | handle {q : Panel η} (e : Event η) : Follows p q → Follows p (q.handle e).1
  | render {σ : Type} {q q' : Panel η} {pool pool' : Pool PixelBuffer}
      {alloc : Allocator σ PixelBuffer} {mem mem' : σ} {engine : TextEngine} {now : TimeOfDay}
      {frame : Option Frame} :
      Follows p q → q.render pool alloc mem engine now = .ok (q', pool', mem', frame) →
        Follows p q'
  | takePending {q : Panel η} : Follows p q → Follows p q.takePending.1

/-- Closing a tracked window retires its key. -/
theorem retired_of_closed {p : Panel η} (hc : p.windows.Consistent) {id : η} {k : WindowKey}
    (hid : p.windows.keyOf? id = some k) : (p.handle (.closed id)).1.windows.Retired k := by
  obtain ⟨r', rel, hrem⟩ : ∃ r' rel, p.windows.remove id = some (r', rel) :=
    ⟨_, _, Registry.remove_of_tracked hid⟩
  have hw : (p.handle (.closed id)).1.windows = r' := by
    simp only [handle, hrem]
  rw [hw]
  exact Registry.retired_of_remove hc hid hrem

/-- A retired key stays retired on every panel that follows. -/
theorem Follows.retired {p q : Panel η} {k : WindowKey} (hq : p.Follows q)
    (hp : p.windows.Retired k) : q.windows.Retired k := by
  induction hq with
  | refl => exact hp
  | handle e _ ih => exact ih.handle e
  | render _ hr ih =>
    obtain ⟨_, _, _, rfl⟩ := render_panel hr
    exact ih
  | takePending _ ih => exact ih

end Panel

/-! ### The widgets along a run -/

namespace Panel

variable {η : Type} [BEq η]

omit [BEq η] in
theorem widgets_applyOutputScale (p : Panel η) : p.applyOutputScale.1.widgets = p.widgets := by
  rw [applyOutputScale_fst]

/-- An event leaves the widgets of the last layout alone. -/
theorem handle_widgets (p : Panel η) (e : Event η) : (p.handle e).1.widgets = p.widgets := by
  have hwin : ∀ r? : Option (Registry η), (p.onWindow r?).1.widgets = p.widgets := by
    intro r?
    cases r? <;> rfl
  cases e with
  | title id t => exact hwin _
  | appId id a => exact hwin _
  | state id s => exact hwin _
  | closed id =>
    simp only [handle]
    split <;> rfl
  | surfaceEnter o =>
    rw [handle_surfaceEnter, widgets_applyOutputScale]
    split <;> rfl
  | outputSelected o => rw [handle_outputSelected, widgets_applyOutputScale]
  | outputScale o f =>
    by_cases h : p.activeOutput = some o
    · rw [handle_outputScale_of_active f h, widgets_applyOutputScale]
      rfl
    · rw [handle_outputScale_of_inactive f h]
      rfl
  | button seat serial down => rw [handle_button_fst]
  | _ => rfl

omit [BEq η] in
/-- A render keeps the widgets, when it lays nothing out, or stores those of a pass over its row
with its engine's measure. -/
theorem render_widgets_cases {σ : Type} {p p' : Panel η} {pool pool' : Pool PixelBuffer}
    {alloc : Allocator σ PixelBuffer} {mem mem' : σ} {engine : TextEngine} {now : TimeOfDay}
    {frame : Option Frame} (h : p.render pool alloc mem engine now = .ok (p', pool', mem', frame)) :
    p'.widgets = p.widgets ∨ (p.row now).compute engine.measure = .ok p'.widgets := by
  rcases render_laid h with rfl | ⟨widgets, faults, pending, hws, rfl⟩
  · exact .inl rfl
  · exact .inr hws

/-- The widgets of a panel are those of its last layout: none yet, or the widgets of a pass that
did not overflow, with a measure that gives no negative width. -/
def LaidOut (p : Panel η) : Prop :=
  p.widgets = [] ∨
    ∃ (row : RowLayout WindowKey) (m : Measure), m.Nonneg ∧ row.compute m = .ok p.widgets

omit [BEq η] in
theorem laidOut_ofState (s : PanelState) : (ofState s : Panel η).LaidOut := .inl rfl

omit [BEq η] in
theorem LaidOut.of_widgets {p q : Panel η} (h : p.LaidOut) (hw : q.widgets = p.widgets) :
    q.LaidOut := by
  unfold LaidOut
  rw [hw]
  exact h

omit [BEq η] in
/-- **The widgets of a layout are hit-tested exclusively.** -/
theorem LaidOut.exclusive {p : Panel η} (h : p.LaidOut) : Exclusive p.widgets := by
  rcases h with h | ⟨row, m, hm, h⟩
  · rw [h]
    exact (Laid.nil 0 0).exclusive (by decide)
  · exact RowLayout.compute_exclusive hm h

omit [BEq η] in
/-- A panel whose widgets are laid out never stops on a press: its hit tests do not overflow. -/
theorem LaidOut.fault?_eq_none {p : Panel η} (h : p.LaidOut) (e : Event η) : p.fault? e = none := by
  cases e with
  | button seat serial down =>
    cases down with
    | false => rfl
    | true =>
      cases hx : p.pointers.column? seat with
      | none => simp only [fault?, hx]
      | some x => simp only [fault?, hx, h.exclusive.press x]
  | _ => rfl

theorem LaidOut.handle {p : Panel η} (h : p.LaidOut) (e : Event η) : (p.handle e).1.LaidOut :=
  h.of_widgets (handle_widgets p e)

omit [BEq η] in
theorem LaidOut.render {σ : Type} {p p' : Panel η} {pool pool' : Pool PixelBuffer}
    {alloc : Allocator σ PixelBuffer} {mem mem' : σ} {engine : TextEngine} {now : TimeOfDay}
    {frame : Option Frame} (hm : engine.measure.Nonneg) (h : p.LaidOut)
    (hr : p.render pool alloc mem engine now = .ok (p', pool', mem', frame)) : p'.LaidOut := by
  rcases render_widgets_cases hr with hw | hw
  · exact h.of_widgets hw
  · exact .inr ⟨_, _, hm, hw⟩

end Panel

/-- Every change a loop whose engine measures no negative width makes to its panel keeps the
widgets those of a layout. -/
theorem Tape.laidOut_keeps {δ σ η : Type} [BEq η] {env : RunLoop.Env δ σ η}
    (hm : env.engine.measure.Nonneg) : Tape.PanelKeeps env Panel.LaidOut where
  handle _ e h := h.handle e
  takePending _ h := h.of_widgets rfl
  renders h hr := h.render hm hr

/-- **A run keeps the widgets those of a layout**, when its engine measures no negative width:
the panel it ends with, and every panel it answers an event with, is laid out. -/
theorem RunLoop.laidOut_run {δ σ η : Type} [BEq η] {env : RunLoop.Env δ σ η} {spins limit : Nat}
    {l l' : RunLoop δ σ η} (hm : env.engine.measure.Nonneg) (hl : l.panel.LaidOut)
    (h : RunLoop.run env spins limit l = .ok l') : l'.panel.LaidOut := by
  obtain ⟨t, ht, rfl⟩ := Tape.exists_run env h
  obtain ⟨t₁, t₂, h₁, h₂, rfl⟩ := Tape.run_cases ht
  have hk := Tape.laidOut_keeps hm
  have h₂' := hk.turns (hk.start (t := ⟨l, []⟩) hl h₁) h₂
  -- the shutdown lets go of the windows and keeps the widgets
  exact h₂'.of_widgets rfl

/-! ### Presses in the run loop -/

/-- **A press activates the window under the pointer.** Every activation of a run comes right
after a button pressed down by its seat was handed to the panel. A run whose engine measures no
negative width keeps its panel's widgets those of its last layout, and on such a panel answering
an event activates a window for a seat exactly when the event is a press down by that seat, the
seat has a recorded position, a button of the last layout covers the position's column, and the
button's window is still tracked; the window is activated by its handle. A window that is closed
is not tracked under its old key on any panel that follows, whatever events and renders come, so
a button left over from an earlier layout never activates a window that came after. -/
theorem RunLoop.press_activates_window_under_pointer {δ σ η : Type} [DecidableEq η] :
    (∀ (env : RunLoop.Env δ σ η) (spins limit : Nat) (l l' : RunLoop δ σ η),
      RunLoop.run env spins limit l = .ok l' →
        ∃ t, Tape.run env spins limit ⟨l, []⟩ = .ok t ∧ t.loop = l' ∧
          ActivatesOnPress (t.log.map (·.2))) ∧
    (∀ (env : RunLoop.Env δ σ η) (spins limit : Nat) (l l' : RunLoop δ σ η),
      env.engine.measure.Nonneg → l.panel.LaidOut → RunLoop.run env spins limit l = .ok l' →
        l'.panel.LaidOut) ∧
    (∀ (l : RunLoop δ σ η), l.panel.LaidOut → ∀ (e : Event η) (id : η) (seat : Nat),
      Call.activate id seat ∈ Tape.respondCalls l e ↔
        ∃ serial x w k win, e = .button seat serial true ∧ l.panel.pointers.column? seat = some x ∧
          w ∈ l.panel.widgets ∧ w.covers x ∧ w.kind = .button k ∧
          l.panel.windows.get? k = some win ∧ win.id = id) ∧
    (∀ (p q : Panel η) (id : η) (k : WindowKey), p.windows.Consistent →
      p.windows.keyOf? id = some k → (p.handle (.closed id)).1.Follows q →
        q.windows.get? k = none) := by
  refine ⟨fun env spins limit l l' h => run_activates_on_press h,
    fun env spins limit l l' hm hl h => laidOut_run hm hl h, fun l hl e id seat => ?_,
    fun p q id k hc hid hq => ?_⟩
  · -- the widgets of a layout are hit-tested exclusively
    have hx := hl.exclusive
    rw [Tape.activate_mem_respondCalls]
    constructor
    · rintro ⟨k, win, hout, hwin, rfl⟩
      obtain ⟨serial, x, rfl, hcol, hk⟩ := Panel.handle_eq_activate.mp hout
      obtain ⟨w, hw, hcov, hkind⟩ := hx.pressTarget_eq_some.mp hk
      exact ⟨serial, x, w, k, win, rfl, hcol, hw, hcov, hkind, hwin, rfl⟩
    · rintro ⟨serial, x, w, k, win, rfl, hcol, hw, hcov, hkind, hwin, rfl⟩
      have hk := hx.pressTarget_eq_some.mpr ⟨w, hw, hcov, hkind⟩
      exact ⟨k, win, Panel.handle_eq_activate.mpr ⟨serial, x, rfl, hcol, hk⟩, hwin, rfl⟩
  · exact (hq.retired (Panel.retired_of_closed hc hid)).1

/-- A replayed run over an engine of seven pixels a character, configured to 9 by 4, that reports
window 1 and, after a read, a press of seat 0 at column 8 over the window's button, activates
window 1 for seat 0 right after the press, and ends with its widgets laid out. On the panel that
run lays out, the press activates window 1; and once the window is closed and its id reported
again, the key it had names nothing. -/
theorem RunLoop.press_activates_window_under_pointer_reported :
    Measure.Nonneg (fun s => pure ⟨7 * (s.length : Int), 12⟩) ∧
      (Panel.ofState (PanelState.ofSettings {}) : Panel Nat).LaidOut ∧
      (∃ l', RunLoop.run ⟨Replay.ops, ReplaySources.ops,
          ⟨fun s => pure ⟨7 * (s.length : Int), 12⟩, fun c _ _ _ _ _ => pure c⟩, ⟨12, 0, 0, 0⟩⟩ 4 3
          { display :=
              { queue := [.configure 9 4, .appeared 1, .title 1 "a", Event.done 1]
                batches := [[.pointerEnter 0 (Binary.Datum.ofInt 8) (Binary.Datum.ofInt 2),
                  .button 0 0 true]] }
            sources := { script := [{ protocol := true }] }
            panel := Panel.ofState (PanelState.ofSettings {}) } = .ok l' ∧
        l'.display.activations = #[(1, 0)] ∧ l'.panel.LaidOut ∧
        ∃ t, Tape.run ⟨Replay.ops, ReplaySources.ops,
            ⟨fun s => pure ⟨7 * (s.length : Int), 12⟩, fun c _ _ _ _ _ => pure c⟩, ⟨12, 0, 0, 0⟩⟩ 4 3
            ⟨{ display :=
                 { queue := [.configure 9 4, .appeared 1, .title 1 "a", Event.done 1]
                   batches := [[.pointerEnter 0 (Binary.Datum.ofInt 8) (Binary.Datum.ofInt 2),
                     .button 0 0 true]] }
               sources := { script := [{ protocol := true }] }
               panel := Panel.ofState (PanelState.ofSettings {}) }, []⟩ = .ok t ∧ t.loop = l' ∧
          ActivatesOnPress (t.log.map (·.2))) ∧
      ({ state := { PanelState.ofSettings {} with width := 9, height := 4 },
          windows := (({} : Registry Nat).report 1).1,
          widgets := [⟨8, 23, .button ⟨0⟩⟩, ⟨39, 0, .spacer⟩, ⟨39, 51, .clock⟩],
          pointers := ⟨[(0, Binary.Datum.ofInt 8, Binary.Datum.ofInt 2)]⟩ } : Panel Nat).LaidOut ∧
      Call.activate 1 0 ∈ Tape.respondCalls
        ({ display := {}, sources := {}, panel :=
          { state := { PanelState.ofSettings {} with width := 9, height := 4 },
            windows := (({} : Registry Nat).report 1).1,
            widgets := [⟨8, 23, .button ⟨0⟩⟩, ⟨39, 0, .spacer⟩, ⟨39, 51, .clock⟩],
            pointers := ⟨[(0, Binary.Datum.ofInt 8, Binary.Datum.ofInt 2)]⟩ } } :
          RunLoop Replay ReplaySources Nat) (.button 0 0 true) ∧
      ((Panel.ofState (PanelState.ofSettings {}) : Panel Nat).handle (.appeared 1)).1.windows.Consistent ∧
      ((Panel.ofState (PanelState.ofSettings {}) : Panel Nat).handle (.appeared 1)).1.windows.keyOf? 1 =
        some ⟨0⟩ ∧
      ((((Panel.ofState (PanelState.ofSettings {}) : Panel Nat).handle (.appeared 1)).1.handle
        (.closed 1)).1.handle (.appeared 1)).1.windows.get? ⟨0⟩ = none := by
  have hm : Measure.Nonneg (fun s => pure ⟨7 * (s.length : Int), 12⟩) := fun s size h => by
    cases h
    exact Int.mul_nonneg (by decide) (Int.natCast_nonneg _)
  have h₀ : (Panel.ofState (PanelState.ofSettings {}) : Panel Nat).LaidOut := Panel.laidOut_ofState _
  -- the run, evaluated: it activates window 1 for seat 0
  have hrun : ((RunLoop.run ⟨Replay.ops, ReplaySources.ops,
      ⟨fun s => pure ⟨7 * (s.length : Int), 12⟩, fun c _ _ _ _ _ => pure c⟩, ⟨12, 0, 0, 0⟩⟩ 4 3
      { display :=
          { queue := [.configure 9 4, .appeared 1, .title 1 "a", Event.done 1]
            batches := [[.pointerEnter 0 (Binary.Datum.ofInt 8) (Binary.Datum.ofInt 2),
              .button 0 0 true]] }
        sources := { script := [{ protocol := true }] }
        panel := Panel.ofState (PanelState.ofSettings {}) }).toOption.any
      fun l => l.display.activations == #[(1, 0)]) = true := by
    set_option maxRecDepth 100000 in decide +kernel
  obtain ⟨l', hl', hact⟩ := Checked.exists_of_any hrun
  -- the laid out panel: the pass over the window's row at width 9
  have hlaid :
      ({ state := { PanelState.ofSettings {} with width := 9, height := 4 },
         windows := (({} : Registry Nat).report 1).1,
         widgets := [⟨8, 23, .button ⟨0⟩⟩, ⟨39, 0, .spacer⟩, ⟨39, 51, .clock⟩],
         pointers := ⟨[(0, Binary.Datum.ofInt 8, Binary.Datum.ofInt 2)]⟩ } : Panel Nat).LaidOut :=
    .inr ⟨RowLayout.ofWindows [.taskbar, .spacer, .clock] 9 (({} : Registry Nat).report 1).1 false
      "12:00", _, hm, by decide +kernel⟩
  have hc : ((Panel.ofState (PanelState.ofSettings {}) : Panel Nat).handle
      (.appeared 1)).1.windows.Consistent := (Registry.Reachable.report 1 .empty).consistent
  have hid : ((Panel.ofState (PanelState.ofSettings {}) : Panel Nat).handle
      (.appeared 1)).1.windows.keyOf? 1 = some ⟨0⟩ := by decide
  exact ⟨hm, h₀, ⟨l', hl', beq_iff_eq.mp hact,
      press_activates_window_under_pointer.2.1 _ 4 3 _ _ hm h₀ hl',
      press_activates_window_under_pointer.1 _ 4 3 _ _ hl'⟩, hlaid,
    (press_activates_window_under_pointer.2.2.1 _ hlaid _ 1 0).mpr
      ⟨0, 8, _, ⟨0⟩, { id := 1 }, rfl, by decide +kernel, List.mem_cons_self, by decide, rfl, rfl,
        rfl⟩,
    hc, hid, (@press_activates_window_under_pointer Replay ReplaySources Nat _).2.2.2 _ _ 1 ⟨0⟩ hc hid
      (.handle (.appeared 1) .refl)⟩

end DeskPanel
