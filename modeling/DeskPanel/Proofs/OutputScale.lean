import DeskPanel.Proofs.Registry
import DeskPanel.Proofs.RowExtent

/-!
# The scale follows the active output

A panel keeps three pieces of state about outputs: the factor each output announced, the output
the panel sits on, and the scale it renders at. Events update them in any order: a factor may
come before its output is chosen, the surface may enter an output after one was named, an output
may be chosen that announced no factor, and outputs come and go.

Whatever the order, the scale stays between one and `maxScale`, and whenever the active output
has a factor on record the scale is that factor clamped to the range. The reason is that every
event that can make the two disagree (choosing an output, entering one, or a new factor for the
active one) ends by applying the active output's factor, and applying it makes them agree
whatever came before. No other event touches the scale, and each of the three output events asks
for a render exactly when it changed the scale.

## Main definitions

* `Panel.clampScale` — a factor brought into the range of scales.
* `Panel.ScaleFollows` — the scale is the clamped factor of the active output, when it has one.
* `Panel.ScaleContract` — what the panel promises about its scale.

## Main results

* `Panel.applyOutputScale_follows` — applying the active output's factor makes the scale follow it.
* `Panel.ScaleFollows.handle` — every event keeps the scale following the active output.
* `Panel.Reachable.scaleContract` — every panel that events and renders reach keeps the contract.
-/

namespace DeskPanel

namespace Panel

variable {η : Type}

/-- A factor brought into the range of scales the panel renders at. -/
def clampScale (f : Int) : Int := max 1 (min f maxScale)

theorem clampScale_eq_ite (f : Int) :
    (if f < 1 then 1 else if maxScale < f then maxScale else f) = clampScale f := by
  have hm : maxScale = 8 := rfl
  unfold clampScale
  split
  · omega
  · split <;> omega

/-- The scale is the clamped factor of the active output, whenever that output has a factor on
record. -/
def ScaleFollows (p : Panel η) : Prop :=
  ∀ o f, p.activeOutput = some o → p.outputScales.lookup o = some f → p.state.scale = clampScale f

/-- The factor of the active output, if there is one. -/
def activeFactor? (p : Panel η) : Option Int := p.activeOutput.bind fun o => p.outputScales.lookup o

theorem ScaleFollows.of_activeFactor? {p : Panel η}
    (h : ∀ f, p.activeFactor? = some f → p.state.scale = clampScale f) : p.ScaleFollows := by
  intro o f ho hf
  apply h
  rw [activeFactor?, ho, Option.bind_some, hf]

theorem ScaleFollows.activeFactor? {p : Panel η} (h : p.ScaleFollows) {f : Int}
    (hf : p.activeFactor? = some f) : p.state.scale = clampScale f := by
  obtain ⟨o, ho, hlookup⟩ := Option.bind_eq_some_iff.mp hf
  exact h o f ho hlookup

/-- A panel that agrees with a following one on the scale and on the active output's factor
follows too. -/
theorem ScaleFollows.congr {p q : Panel η} (h : p.ScaleFollows)
    (hscale : q.state.scale = p.state.scale) (hfactor : q.activeFactor? = p.activeFactor?) :
    q.ScaleFollows := by
  apply ScaleFollows.of_activeFactor?
  intro f hf
  rw [hscale]
  exact h.activeFactor? (hfactor ▸ hf)

/-! ### Applying the active output's factor -/

theorem applyOutputScale_of_none {p : Panel η} (h : p.activeFactor? = none) :
    p.applyOutputScale = (p, .idle) := by
  unfold applyOutputScale
  rw [show p.activeOutput.bind (fun o => p.outputScales.lookup o) = none from h]

theorem applyOutputScale_of_some {p : Panel η} {f : Int} (h : p.activeFactor? = some f) :
    p.applyOutputScale = if clampScale f = p.state.scale then (p, .idle)
      else ({ p with state := { p.state with scale := clampScale f } }, .render) := by
  unfold applyOutputScale
  rw [show p.activeOutput.bind (fun o => p.outputScales.lookup o) = some f from h]
  dsimp only
  rw [clampScale_eq_ite]

/-- Applying the factor changes the scale and nothing else. -/
theorem applyOutputScale_fst (p : Panel η) :
    p.applyOutputScale.1 = { p with state := { p.state with scale := p.applyOutputScale.1.state.scale } } := by
  cases h : p.activeFactor? with
  | none => rw [applyOutputScale_of_none h]
  | some f =>
    rw [applyOutputScale_of_some h]
    split <;> rfl

theorem activeFactor?_applyOutputScale (p : Panel η) :
    p.applyOutputScale.1.activeFactor? = p.activeFactor? := by
  rw [applyOutputScale_fst]
  rfl

/-- Applying the factor asks for a render exactly when it changed the scale, here of a panel
`q` that has the scale of `p`. -/
theorem applyOutputScale_outcome {p q : Panel η} (hq : q.state.scale = p.state.scale) :
    q.applyOutputScale.2 = if q.applyOutputScale.1.state.scale = p.state.scale then .idle else .render := by
  rw [← hq]
  cases h : q.activeFactor? with
  | none => rw [applyOutputScale_of_none h, if_pos rfl]
  | some f =>
    rw [applyOutputScale_of_some h]
    by_cases hs : clampScale f = q.state.scale
    · rw [if_pos hs, if_pos rfl]
    · rw [if_neg hs, if_neg hs]

/-- **Applying makes the scale follow**, whatever the scale was before. -/
theorem applyOutputScale_follows (p : Panel η) : p.applyOutputScale.1.ScaleFollows := by
  apply ScaleFollows.of_activeFactor?
  intro f hf
  rw [activeFactor?_applyOutputScale] at hf
  rw [applyOutputScale_of_some hf]
  split
  · rename_i hs
    exact hs.symm
  · rfl

/-! ### Each event -/

/-- A factor recorded for an output other than the active one leaves the active factor alone. -/
theorem activeFactor?_setScale {p : Panel η} {o : Nat} (f : Int) (h : p.activeOutput ≠ some o) :
    (p.setScale o f).activeFactor? = p.activeFactor? := by
  unfold activeFactor? setScale
  cases ha : p.activeOutput with
  | none => rfl
  | some o' =>
    have hne : o' ≠ o := fun e => h (e ▸ ha)
    simp only [Option.bind_some, List.lookup_cons_ite, if_neg hne]
    exact List.lookup_filter_ne _ hne

/-- Forgetting an output other than the active one leaves the active factor alone; forgetting
the active one leaves it without a factor. -/
theorem activeFactor?_forget (p : Panel η) (o : Nat) :
    ({ p with outputScales := p.outputScales.filter (·.1 != o) } : Panel η).activeFactor? =
      if p.activeOutput = some o then none else p.activeFactor? := by
  unfold activeFactor?
  cases ha : p.activeOutput with
  | none => rfl
  | some o' =>
    by_cases hne : o' = o
    · subst hne
      simp [List.lookup_filter_self]
    · simp only [Option.bind_some, Option.some.injEq, hne, if_false]
      exact List.lookup_filter_ne _ hne

variable [BEq η]

theorem handle_outputSelected (p : Panel η) (o : Nat) :
    p.handle (.outputSelected o) = ({ p with activeOutput := some o }.applyOutputScale.1,
      { p with activeOutput := some o }.applyOutputScale.2, []) := rfl

theorem handle_surfaceEnter (p : Panel η) (o : Nat) :
    p.handle (.surfaceEnter o) =
      ((if p.activeOutput.isNone then { p with activeOutput := some o } else p).applyOutputScale.1,
        (if p.activeOutput.isNone then { p with activeOutput := some o } else p).applyOutputScale.2,
        []) := rfl

theorem handle_outputScale_of_active {p : Panel η} {o : Nat} (f : Int) (h : p.activeOutput = some o) :
    p.handle (.outputScale o f) = ((p.setScale o f).applyOutputScale.1,
      (p.setScale o f).applyOutputScale.2, []) := by
  simp only [handle, setScale, h, beq_self_eq_true, if_true]

theorem handle_outputScale_of_inactive {p : Panel η} {o : Nat} (f : Int)
    (h : p.activeOutput ≠ some o) : p.handle (.outputScale o f) = (p.setScale o f, .idle, []) := by
  simp only [handle, setScale, beq_iff_eq, h, if_false]

theorem handle_outputRemoved (p : Panel η) (o : Nat) :
    p.handle (.outputRemoved o) = ({ p with outputScales := p.outputScales.filter (·.1 != o) },
      if p.activeOutput = some o then .terminate else .idle, []) := by
  simp only [handle, beq_iff_eq]

/-- The events that may change the scale: choosing an output, entering one, and a factor for the
active one. -/
def MayRescale (p : Panel η) (e : Event η) : Prop :=
  (∃ o, e = .outputSelected o) ∨ (∃ o, e = .surfaceEnter o) ∨
    ∃ o f, e = .outputScale o f ∧ p.activeOutput = some o

/-- Every other event keeps the scale, the active output and the active output's factor, short
of forgetting the active output. -/
theorem handle_keeps_scale (p : Panel η) (e : Event η) (he : ¬p.MayRescale e) :
    (p.handle e).1.state.scale = p.state.scale ∧
      ((p.handle e).1.activeFactor? = p.activeFactor? ∨ (p.handle e).1.activeFactor? = none) := by
  have hwin : ∀ r? : Option (Registry η),
      (p.onWindow r?).1.state.scale = p.state.scale ∧
        (p.onWindow r?).1.activeFactor? = p.activeFactor? := by
    intro r?
    cases r? <;> exact ⟨rfl, rfl⟩
  cases e with
  | title id t => exact ⟨(hwin _).1, .inl (hwin _).2⟩
  | appId id a => exact ⟨(hwin _).1, .inl (hwin _).2⟩
  | state id s => exact ⟨(hwin _).1, .inl (hwin _).2⟩
  | closed id =>
    simp only [handle]
    split <;> exact ⟨rfl, .inl rfl⟩
  | outputSelected o => exact absurd (.inl ⟨o, rfl⟩) he
  | surfaceEnter o => exact absurd (.inr (.inl ⟨o, rfl⟩)) he
  | outputScale o f =>
    have hne : p.activeOutput ≠ some o := fun h => he (.inr (.inr ⟨o, f, rfl, h⟩))
    rw [handle_outputScale_of_inactive f hne]
    exact ⟨rfl, .inl (activeFactor?_setScale f hne)⟩
  | outputRemoved o =>
    rw [handle_outputRemoved, activeFactor?_forget]
    refine ⟨rfl, ?_⟩
    split
    · exact .inr rfl
    · exact .inl rfl
  | button seat serial down =>
    simp only [handle]
    split
    · exact ⟨rfl, .inl rfl⟩
    · split
      · exact ⟨rfl, .inl rfl⟩
      · split <;> exact ⟨rfl, .inl rfl⟩
  | _ => exact ⟨rfl, .inl rfl⟩

/-- **Every event keeps the scale following the active output.** -/
theorem ScaleFollows.handle {p : Panel η} (h : p.ScaleFollows) (e : Event η) :
    (p.handle e).1.ScaleFollows := by
  by_cases he : p.MayRescale e
  · -- each of these ends by applying the active output's factor
    rcases he with ⟨o, rfl⟩ | ⟨o, rfl⟩ | ⟨o, f, rfl, ha⟩
    · rw [handle_outputSelected]
      exact applyOutputScale_follows _
    · rw [handle_surfaceEnter]
      exact applyOutputScale_follows _
    · rw [handle_outputScale_of_active f ha]
      exact applyOutputScale_follows _
  · obtain ⟨hscale, hfactor | hnone⟩ := handle_keeps_scale p e he
    · exact h.congr hscale hfactor
    · exact ScaleFollows.of_activeFactor? fun f hf => by rw [hnone] at hf; cases hf

/-! ### The contract -/

/-- What a panel promises about its scale. The scale lies in range and follows the active
output's factor; only choosing an output, entering one, or a factor for the active output
changes it; those three ask for a render exactly when the scale changed, and are idle otherwise;
and losing the active output ends the panel while losing another is idle. -/
structure ScaleContract (p : Panel η) : Prop where
  inRange : p.ScaleInRange
  follows : p.ScaleFollows
  keeps : ∀ e, ¬p.MayRescale e → (p.handle e).1.state.scale = p.state.scale
  selected : ∀ o, (p.handle (.outputSelected o)).2.1 =
    if (p.handle (.outputSelected o)).1.state.scale = p.state.scale then .idle else .render
  entered : ∀ o, (p.handle (.surfaceEnter o)).2.1 =
    if (p.handle (.surfaceEnter o)).1.state.scale = p.state.scale then .idle else .render
  rescaled : ∀ o f, (p.handle (.outputScale o f)).2.1 =
    if (p.handle (.outputScale o f)).1.state.scale = p.state.scale then .idle else .render
  removed : ∀ o, (p.handle (.outputRemoved o)).2.1 =
    if p.activeOutput = some o then .terminate else .idle

theorem Reachable.scaleFollows {p : Panel η} (hp : p.Reachable) : p.ScaleFollows := by
  induction hp with
  | new s => exact fun o f h => by cases h
  | handle e _ ih => exact ih.handle e
  | render _ h ih =>
    obtain ⟨_, _, _, rfl⟩ := render_panel h
    exact ih
  | takePending _ ih => exact ih

/-- **The scale contract**: every panel that a sequence of events and renders reaches from a new
one keeps it. -/
theorem Reachable.scaleContract {p : Panel η} (hp : p.Reachable) : p.ScaleContract where
  inRange := hp.scaleInRange
  follows := hp.scaleFollows
  keeps e he := (handle_keeps_scale p e he).1
  selected o := by
    rw [handle_outputSelected]
    exact applyOutputScale_outcome rfl
  entered o := by
    rw [handle_surfaceEnter]
    exact applyOutputScale_outcome (by split <;> rfl)
  rescaled o f := by
    by_cases ha : p.activeOutput = some o
    · rw [handle_outputScale_of_active f ha]
      exact applyOutputScale_outcome rfl
    · rw [handle_outputScale_of_inactive f ha]
      exact (if_pos rfl).symm
  removed o := by rw [handle_outputRemoved]

/-- A factor announced before the surface enters its output is taken on entering. -/
theorem scaleContract_after_enter :
    (((ofState (PanelState.ofSettings {}) : Panel Nat).handle (.outputScale 5 3)).1.handle
        (.surfaceEnter 5)).1.Reachable ∧
      (((ofState (PanelState.ofSettings {}) : Panel Nat).handle (.outputScale 5 3)).1.handle
        (.surfaceEnter 5)).1.ScaleContract ∧
      (((ofState (PanelState.ofSettings {}) : Panel Nat).handle (.outputScale 5 3)).1.handle
        (.surfaceEnter 5)).1.state.scale = 3 :=
  have hr := Reachable.handle (.surfaceEnter 5) (Reachable.handle (.outputScale 5 3) (.new {}))
  ⟨hr, Reachable.scaleContract hr, rfl⟩

end Panel

end DeskPanel
