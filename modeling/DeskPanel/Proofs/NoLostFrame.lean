import DeskPanel.Loop.Replay
import DeskPanel.Proofs.Frame

/-!
# No frame is lost

Whenever the run loop starts to wait while it runs a panel that can be rendered, the screen is
up to date or will be: either the most recent frame submitted was drawn from the panel's current
view, or a frame is pending and every buffer is busy, so that the next release of a busy buffer
draws it. This holds for every run over a display whose allocations never fail and a text engine
that draws in place, whatever events, reads, readiness sets and releases come.

The loop does not remember which view its last frame showed, so the statement is about the loop
watched from outside: `Watch` runs it step for step beside the view of its most recent frame,
noted where the frame is submitted, and `Watch.run` also gives the loop at each wait. Forgetting
the view gives back the loop's own run (`Watch.loop_run`).

The argument: every event that changes the view asks for a render, and so does a release while a
frame is pending; a render of a renderable panel draws a frame when a buffer is free and
otherwise marks it pending with every buffer busy. Nothing else changes the view, the pending
flag or the busy flags. Along the way the panel's scale stays in range, so that a renderable
panel has a nonempty physical size, and every buffer keeps room for its size.

## Main definitions

* `RunLoop.Env.Sound` — what the argument needs of the display, the sources and the text engine.
* `Watch` — a run loop beside the view of its most recent frame.
* `Watch.render`, `Watch.handle`, `Watch.dispatchQueued`, `Watch.start`, `Watch.prepare`,
  `Watch.turn`, `Watch.turns`, `Watch.run`.
* `Watch.UpToDate`, `Watch.Inv`.

## Main results

* `Watch.loop_run` — the watched run is the loop's run.
* `Watch.Inv.run` — at every wait the loop runs and the screen is up to date.
* `no_lost_frame` — over a replayed display that makes every buffer asked for.
-/

namespace DeskPanel

/-! ### Events that change the view ask for a render -/

namespace Panel

variable {η : Type} [BEq η]

omit [BEq η] in
/-- A window event asks for a render or leaves the panel as it was. -/
theorem onWindow_keeps (p : Panel η) (r? : Option (Registry η)) :
    (p.onWindow r?).2 = .render ∨ (p.onWindow r?).1 = p := by
  cases r? with
  | none => exact .inr rfl
  | some r => exact .inl rfl

omit [BEq η] in
/-- Taking the scale of the output asks for a render or keeps the view and the pending flag. -/
theorem applyOutputScale_keeps {p q : Panel η} (hv : q.view = p.view)
    (hp : q.pendingFrame = p.pendingFrame) :
    q.applyOutputScale.2 = .render ∨
      q.applyOutputScale.1.view = p.view ∧ q.applyOutputScale.1.pendingFrame = p.pendingFrame := by
  unfold applyOutputScale
  split
  · exact .inr ⟨hv, hp⟩
  · rename_i factor _
    dsimp only
    generalize (if factor < 1 then 1 else if maxScale < factor then maxScale else factor) = scale
    split
    · exact .inr ⟨hv, hp⟩
    · exact .inl rfl

/-- An event keeps what a frame shows and the pending flag, unless it asks for a render. -/
theorem handle_keeps (p : Panel η) (e : Event η) :
    (p.handle e).2.1 = .render ∨
      (p.handle e).1.view = p.view ∧ (p.handle e).1.pendingFrame = p.pendingFrame := by
  have hwin : ∀ r? : Option (Registry η), (p.onWindow r?).2 = .render ∨
      (p.onWindow r?).1.view = p.view ∧ (p.onWindow r?).1.pendingFrame = p.pendingFrame := by
    intro r?
    rcases onWindow_keeps p r? with h | h
    · exact .inl h
    · rw [h]
      exact .inr ⟨rfl, rfl⟩
  cases e with
  | appeared id => exact .inl rfl
  | title id t => exact hwin _
  | appId id a => exact hwin _
  | state id s => exact hwin _
  | closed id =>
    simp only [handle]
    split
    · exact .inl rfl
    · exact .inr ⟨rfl, rfl⟩
  | configure w h => exact .inl rfl
  | surfaceEnter o =>
    simp only [handle]
    exact applyOutputScale_keeps (by split <;> rfl) (by split <;> rfl)
  | outputSelected o => exact applyOutputScale_keeps rfl rfl
  | outputScale o f =>
    simp only [handle]
    split
    · exact applyOutputScale_keeps rfl rfl
    · exact .inr ⟨rfl, rfl⟩
  | button seat serial down =>
    simp only [handle]
    split
    · exact .inr ⟨rfl, rfl⟩
    · split
      · exact .inr ⟨rfl, rfl⟩
      · split <;> exact .inr ⟨rfl, rfl⟩
  | _ => exact .inr ⟨rfl, rfl⟩

end Panel

/-! ### What the argument needs of the environment -/

namespace RunLoop

variable {δ σ η : Type} [BEq η]

/-- What the argument needs of a loop's environment: a property `good` of the display's state
that every operation keeps, under which every buffer asked for is made with room for its size,
and a text engine that draws in place. -/
structure Env.Sound (env : Env δ σ η) (good : δ → Prop) : Prop where
  buffers : env.display.buffers.Sound good
  dispatch : ∀ {d}, good d → good (env.display.dispatch d).2
  prepareRead : ∀ {d}, good d → good (env.display.prepareRead d).2
  read : ∀ {d}, good d → good (env.display.read d).2
  cancelRead : ∀ {d}, good d → good (env.display.cancelRead d)
  flush : ∀ {d}, good d → good (env.display.flush d).2
  submit : ∀ {d} f, good d → good (env.display.submit d f)
  activate : ∀ {d} id seat, good d → good (env.display.activate d id seat)
  release : ∀ {d} id, good d → good (env.display.release d id)
  wait : ∀ s {d}, good d → good (env.sources.wait s d).2.2
  draws : env.engine.KeepsSize

/-- What holds of the loop all along a run, frames aside: a good display, a scale in range and
roomy buffers. -/
structure Sane (good : δ → Prop) (l : RunLoop δ σ η) : Prop where
  good : good l.display
  scale : l.panel.ScaleInRange
  roomy : l.pool.Roomy

variable {env : Env δ σ η} {good : δ → Prop}

omit [BEq η] in
theorem good_releaseAll (henv : env.Sound good) {d : δ} (hd : good d) :
    ∀ hs : List η, good (hs.foldl env.display.release d)
  | [] => hd
  | h :: hs => by
    rw [List.foldl_cons]
    exact good_releaseAll henv (henv.release h hd) hs

/-- The effect of an event keeps the loop sane. -/
theorem Sane.respond (henv : env.Sound good) {l : RunLoop δ σ η} (hl : l.Sane good)
    (e : Event η) : (respond env l e).1.Sane good := by
  unfold RunLoop.respond
  have hscale := hl.scale.handle e
  generalize l.panel.handle e = r at hscale
  obtain ⟨panel, out, rel⟩ := r
  -- releasing the handles touches only the display
  have h₁ : (releaseAll env { l with panel } rel).Sane good :=
    ⟨good_releaseAll henv hl.good rel, hscale, hl.roomy⟩
  cases out with
  | idle => exact h₁
  | render => exact h₁
  | activate k seat =>
    dsimp only
    split
    · exact ⟨henv.activate _ _ h₁.good, h₁.scale, h₁.roomy⟩
    · exact h₁
  | bufferReleased slot => exact ⟨h₁.good, h₁.scale, h₁.roomy.release slot⟩
  | terminate => exact ⟨h₁.good, h₁.scale, h₁.roomy⟩

end RunLoop

/-- A checked value erases to a value exactly when it is one that erases to it. -/
theorem Checked.map_eq_ok {α β : Type} {f : α → β} {x : Checked α} {b : β} :
    f <$> x = .ok b ↔ ∃ a, x = .ok a ∧ f a = b := by
  cases x with
  | error e =>
    constructor
    · intro h
      cases h
    · rintro ⟨a, h, -⟩
      cases h
  | ok a =>
    constructor
    · intro h
      cases h
      exact ⟨a, rfl, rfl⟩
    · rintro ⟨a', h, rfl⟩
      cases h
      rfl

/-- A checked value that passes a test is a value: how a run evaluated to a test's verdict gives
the run's result. -/
theorem Checked.exists_of_any {α : Type} {x : Checked α} {p : α → Bool}
    (h : x.toOption.any p = true) : ∃ a, x = .ok a ∧ p a = true := by
  cases x with
  | error e => cases h
  | ok a => exact ⟨a, rfl, h⟩

/-! ### The watched loop -/

/-- A run loop beside the view of its most recent frame; `none` before the first. -/
structure Watch (δ σ η : Type) where
  loop : RunLoop δ σ η
  shown : Option View

namespace Watch

variable {δ σ η : Type} [BEq η] (env : RunLoop.Env δ σ η)

/-- `RunLoop.render`, noting the view of the panel that a submitted frame is drawn from. -/
def render (w : Watch δ σ η) : Checked (Watch δ σ η) := do
  let l := w.loop
  if l.state != .running then return w
  let (panel, pool, display, frame?) ← l.panel.render l.pool env.display.buffers l.display
    env.engine env.now
  match frame? with
  | some f =>
    return ⟨{ l with panel, pool, display := env.display.submit display f }, some l.panel.view⟩
  | none => return ⟨{ l with panel, pool, display }, w.shown⟩

/-- `RunLoop.renderIf`; a step that submits nothing keeps the view noted. -/
def renderIf (w : Watch δ σ η) : RunLoop δ σ η × Bool → Checked (Watch δ σ η)
  | (l, redraw) => if redraw then render env ⟨l, w.shown⟩ else pure ⟨l, w.shown⟩

/-- `RunLoop.handle`. -/
def handle (w : Watch δ σ η) (e : Event η) : Checked (Watch δ σ η) :=
  match w.loop.panel.fault? e with
  | some f => throw f
  | none => renderIf env w (RunLoop.respond env w.loop e)

/-- `RunLoop.dispatchQueued`. -/
def dispatchQueued (w : Watch δ σ η) : Checked (Watch δ σ η) := do
  let ((events, r), display) := env.display.dispatch w.loop.display
  let l := { w.loop with display }
  let l := match r with
    | .ok () => l
    | .error _ => l.terminate
  events.foldlM (handle env) ⟨l, w.shown⟩

/-- `RunLoop.start`. -/
def start (w : Watch δ σ η) : Checked (Watch δ σ η) := do
  let w ← dispatchQueued env w
  if w.loop.state == .idle then render env ⟨{ w.loop with state := .running }, w.shown⟩
  else return w

/-- `RunLoop.prepare`. -/
def prepare : Nat → Watch δ σ η → Checked (Option (Watch δ σ η) × Watch δ σ η)
  | spins, w =>
    let (ok, display) := env.display.prepareRead w.loop.display
    let w : Watch δ σ η := ⟨{ w.loop with display }, w.shown⟩
    if ok then pure (some w, w)
    else
      match spins with
      | 0 => pure (none, w)
      | n + 1 => do
        let w ← dispatchQueued env w
        if w.loop.state != .running then pure (none, w) else prepare n w

/-- `RunLoop.turn`, giving also the loop as it starts to wait, when it does. -/
def turn (spins : Nat) (w : Watch δ σ η) : Checked (Watch δ σ η × Option (Watch δ σ η)) := do
  let w ← dispatchQueued env w
  let (prepared, w) ← prepare env spins w
  let some w := prepared | return (w, none)
  let (l, waits) := RunLoop.flushForWait env w.loop
  let w : Watch δ σ η := ⟨l, w.shown⟩
  if waits then return (← renderIf env w (RunLoop.wake env l), some w) else return (w, none)

/-- `RunLoop.turns`, giving also the loop at each wait. -/
def turns (spins : Nat) : Nat → Watch δ σ η → Checked (Watch δ σ η × List (Watch δ σ η))
  | 0, w => pure (w, [])
  | n + 1, w => do
    if w.loop.state != .running then return (w, [])
    let (w, wait?) ← turn env spins w
    let (w, waits) ← turns spins n w
    return (w, wait?.toList ++ waits)

/-- `RunLoop.run`, giving also the loop at each wait. -/
def run (spins limit : Nat) (w : Watch δ σ η) :
    Checked (Watch δ σ η × List (Watch δ σ η)) := do
  let w ← start env w
  let (w, waits) ← turns env spins limit w
  return (⟨RunLoop.shutdown env w.loop, w.shown⟩, waits)

/-! ### Forgetting the view gives the loop's own run -/

/-- A checked step erases to another when its start and every continuation do. -/
theorem map_bind_erase {α β α' β' : Type} {f : α → α'} {g : β → β'} {x : Checked α}
    {x' : Checked α'} {k : α → Checked β} {k' : α' → Checked β'} (hx : f <$> x = x')
    (hk : ∀ a, g <$> k a = k' (f a)) : g <$> (x >>= k) = x' >>= k' := by
  subst hx
  cases x with
  | error e => rfl
  | ok a => exact hk a

omit [BEq η] in
theorem loop_render (w : Watch δ σ η) :
    Watch.loop <$> render env w = RunLoop.render env w.loop := by
  unfold render RunLoop.render
  by_cases hrun : (w.loop.state != .running) = true
  · rw [if_pos hrun, if_pos hrun]
    rfl
  · rw [if_neg hrun, if_neg hrun]
    generalize w.loop.panel.render w.loop.pool env.display.buffers w.loop.display env.engine
      env.now = r
    rcases r with e | ⟨panel, pool, display, _ | f⟩ <;> rfl

omit [BEq η] in
theorem loop_renderIf (w : Watch δ σ η) (r : RunLoop δ σ η × Bool) :
    Watch.loop <$> renderIf env w r = RunLoop.renderIf env r := by
  obtain ⟨l, _ | _⟩ := r
  · rfl
  · exact loop_render env ⟨l, w.shown⟩

theorem loop_handle (w : Watch δ σ η) (e : Event η) :
    Watch.loop <$> handle env w e = RunLoop.handle env w.loop e := by
  unfold handle RunLoop.handle
  cases w.loop.panel.fault? e with
  | some f => rfl
  | none => exact loop_renderIf env w _

theorem loop_foldlM_handle :
    ∀ (events : List (Event η)) (w : Watch δ σ η),
      Watch.loop <$> events.foldlM (handle env) w = events.foldlM (RunLoop.handle env) w.loop
  | [], _ => rfl
  | e :: events, w => by
    rw [List.foldlM_cons, List.foldlM_cons]
    exact map_bind_erase (loop_handle env w e) (loop_foldlM_handle events)

theorem loop_dispatchQueued (w : Watch δ σ η) :
    Watch.loop <$> dispatchQueued env w = RunLoop.dispatchQueued env w.loop := by
  unfold dispatchQueued RunLoop.dispatchQueued
  generalize env.display.dispatch w.loop.display = r
  obtain ⟨⟨events, res⟩, display⟩ := r
  exact loop_foldlM_handle env events _

theorem loop_start (w : Watch δ σ η) : Watch.loop <$> start env w = RunLoop.start env w.loop := by
  unfold start RunLoop.start
  refine map_bind_erase (loop_dispatchQueued env w) fun w₁ => ?_
  by_cases hidle : (w₁.loop.state == .idle) = true
  · rw [if_pos hidle, if_pos hidle]
    exact loop_render env _
  · rw [if_neg hidle, if_neg hidle]
    rfl

/-- The erasure of a prepared read: the loop, whether the read is prepared or not. -/
def erasePrepared (r : Option (Watch δ σ η) × Watch δ σ η) :
    Option (RunLoop δ σ η) × RunLoop δ σ η :=
  (r.1.map Watch.loop, r.2.loop)

theorem loop_prepare :
    ∀ (spins : Nat) (w : Watch δ σ η),
      erasePrepared <$> prepare env spins w = RunLoop.prepare env spins w.loop
  | spins, w => by
    rw [prepare, RunLoop.prepare]
    generalize env.display.prepareRead w.loop.display = r
    obtain ⟨_ | _, display⟩ := r
    · cases spins with
      | zero => rfl
      | succ n =>
        refine map_bind_erase (loop_dispatchQueued env _) fun w₁ => ?_
        by_cases hrun : (w₁.loop.state != .running) = true
        · rw [if_pos hrun, if_pos hrun]
          rfl
        · rw [if_neg hrun, if_neg hrun]
          exact loop_prepare n w₁
    · rfl

theorem loop_turn (spins : Nat) (w : Watch δ σ η) :
    (fun r => r.1.loop) <$> turn env spins w = RunLoop.turn env spins w.loop := by
  unfold turn RunLoop.turn
  refine map_bind_erase (loop_dispatchQueued env w) fun w₁ => ?_
  refine map_bind_erase (loop_prepare env spins w₁) fun ⟨prepared, w₂⟩ => ?_
  cases prepared with
  | none => rfl
  | some w₃ =>
    dsimp only [erasePrepared, Option.map_some]
    generalize RunLoop.flushForWait env w₃.loop = r
    obtain ⟨l, _ | _⟩ := r
    · rfl
    · -- the loop waits: the watched turn also gives the loop it waits with
      rw [if_pos rfl, if_pos rfl]
      change _ = RunLoop.renderIf env (RunLoop.wake env l)
      rw [← bind_pure (RunLoop.renderIf env (RunLoop.wake env l))]
      exact map_bind_erase (loop_renderIf env ⟨l, w₃.shown⟩ _) fun _ => rfl

theorem loop_turns (spins : Nat) :
    ∀ (n : Nat) (w : Watch δ σ η),
      (fun r => r.1.loop) <$> turns env spins n w = RunLoop.turns env spins n w.loop
  | 0, _ => rfl
  | n + 1, w => by
    rw [turns, RunLoop.turns]
    by_cases hrun : (w.loop.state != .running) = true
    · rw [if_pos hrun, if_pos hrun]
      rfl
    · rw [if_neg hrun, if_neg hrun]
      refine map_bind_erase (loop_turn env spins w) fun r => ?_
      obtain ⟨w₁, wait?⟩ := r
      dsimp only
      rw [← bind_pure (RunLoop.turns env spins n w₁.loop)]
      exact map_bind_erase (loop_turns spins n w₁) fun _ => rfl

/-- **Erasure**: the watched run is the loop's run. -/
theorem loop_run (spins limit : Nat) (w : Watch δ σ η) :
    (fun r => r.1.loop) <$> run env spins limit w = RunLoop.run env spins limit w.loop := by
  unfold run RunLoop.run
  refine map_bind_erase (loop_start env w) fun w₁ => ?_
  refine map_bind_erase (loop_turns env spins limit w₁) fun ⟨w₂, _⟩ => ?_
  rfl

/-! ### What dispatching and preparing a read keep -/

variable {env} in
/-- An event that is answered at all did not stop the panel: it was answered and rendered as
asked. -/
theorem handle_eq_ok {w w' : Watch δ σ η} {e : Event η} (h : handle env w e = .ok w') :
    renderIf env w (RunLoop.respond env w.loop e) = .ok w' := by
  unfold handle at h
  cases hf : w.loop.panel.fault? e with
  | some f =>
    rw [hf] at h
    cases h
  | none => rwa [hf] at h

section Keeps

variable {env} (P : Watch δ σ η → Prop)

/-- Dispatching keeps whatever taking the queued events, ending the loop and answering each
event keep. -/
theorem dispatchQueued_keeps
    (htake : ∀ w : Watch δ σ η, P w →
      P ⟨{ w.loop with display := (env.display.dispatch w.loop.display).2 }, w.shown⟩)
    (hterm : ∀ w : Watch δ σ η, P w → P ⟨w.loop.terminate, w.shown⟩)
    (hhandle : ∀ w e w', P w → handle env w e = .ok w' → P w')
    {w w' : Watch δ σ η} (hw : P w) (h : dispatchQueued env w = .ok w') : P w' := by
  unfold Watch.dispatchQueued at h
  have h₁ := htake w hw
  generalize env.display.dispatch w.loop.display = r at h₁ h
  obtain ⟨⟨events, res⟩, display⟩ := r
  -- a fault ends the loop, and the events handed out are answered all the same
  cases res with
  | ok _ => exact Checked.foldlM_inv P hhandle h₁ h
  | error _ => exact Checked.foldlM_inv P hhandle (hterm _ h₁) h

/-- Preparing a read keeps whatever announcing it and dispatching keep; so does the loop it
gives when the read is prepared. -/
theorem prepare_keeps
    (hannounce : ∀ w : Watch δ σ η, P w →
      P ⟨{ w.loop with display := (env.display.prepareRead w.loop.display).2 }, w.shown⟩)
    (hdispatch : ∀ w w', P w → dispatchQueued env w = .ok w' → P w') :
    ∀ (spins : Nat) {w w' : Watch δ σ η} {o : Option (Watch δ σ η)}, P w →
      prepare env spins w = .ok (o, w') → P w' ∧ ∀ x ∈ o, P x
  | spins, w, w', o, hw, h => by
    rw [Watch.prepare] at h
    have h₁ := hannounce w hw
    generalize env.display.prepareRead w.loop.display = r at h₁ h
    obtain ⟨ok, display⟩ := r
    dsimp only at h
    split at h
    · cases h
      exact ⟨h₁, fun x hx => Option.mem_some_iff.mp hx ▸ h₁⟩
    · cases spins with
      | zero =>
        cases h
        exact ⟨h₁, fun x hx => by cases hx⟩
      | succ n =>
        -- events were still queued: dispatch them and, while running, try again
        obtain ⟨w₂, h₂, h⟩ := Checked.bind_eq_ok.mp h
        have hw₂ := hdispatch _ _ h₁ h₂
        split at h
        · cases h
          exact ⟨hw₂, fun x hx => by cases hx⟩
        · exact prepare_keeps hannounce hdispatch n hw₂ h

end Keeps

/-! ### The invariant -/

/-- The screen is up to date: the most recent frame shows the panel's view, or a frame is
pending with every buffer busy, so that the next release of a busy buffer draws it. -/
def UpToDate (w : Watch δ σ η) : Prop :=
  w.shown = some w.loop.panel.view ∨ (w.loop.panel.pendingFrame = true ∧ w.loop.pool.AllBusy)

/-- The invariant of a watched run: the loop is sane, and while it runs a renderable panel the
screen is up to date. -/
structure Inv (good : δ → Prop) (w : Watch δ σ η) : Prop where
  sane : w.loop.Sane good
  upToDate : w.loop.state = .running → w.loop.panel.Renderable → w.UpToDate

variable {env} {good : δ → Prop}

omit [BEq η] in
/-- The screen stays up to date across a step that keeps the view noted, the panel's view,
the pending flag and the busy flags. -/
theorem UpToDate.transfer {w w' : Watch δ σ η} (h : w.UpToDate) (hshown : w'.shown = w.shown)
    (hview : w'.loop.panel.view = w.loop.panel.view)
    (hpend : w'.loop.panel.pendingFrame = w.loop.panel.pendingFrame)
    (hbusy : w'.loop.pool.busy = w.loop.pool.busy) : w'.UpToDate := by
  unfold UpToDate Pool.AllBusy at h ⊢
  rw [hshown, hview, hpend, hbusy]
  exact h

omit [BEq η] in
/-- A step that leaves the panel and the pool alone, keeps the display good and at most ends
the loop keeps the invariant. -/
theorem Inv.of_step {w : Watch δ σ η} (hw : w.Inv good) {l : RunLoop δ σ η}
    (hgood : good l.display) (hpanel : l.panel = w.loop.panel) (hpool : l.pool = w.loop.pool)
    (hstate : l.state = w.loop.state ∨ l.state = .terminating) :
    (⟨l, w.shown⟩ : Watch δ σ η).Inv good := by
  refine ⟨⟨hgood, hpanel ▸ hw.sane.scale, hpool ▸ hw.sane.roomy⟩, fun hrun hr => ?_⟩
  have hrun' : w.loop.state = .running := by
    rcases hstate with h | h
    · rw [← h, hrun]
    · rw [hrun] at h
      cases h
  exact (hw.upToDate hrun' (hpanel ▸ hr)).transfer rfl (by rw [hpanel]) (by rw [hpanel])
    (by rw [hpool])

omit [BEq η] in
/-- A render of a sane loop makes the screen up to date while it runs: a renderable panel gets
a frame of its view, or a pending one with every buffer busy. -/
theorem Sane.render (henv : env.Sound good) {w w' : Watch δ σ η} (hs : w.loop.Sane good)
    (h : render env w = .ok w') : w'.Inv good := by
  unfold Watch.render at h
  by_cases hrun : (w.loop.state != .running) = true
  · rw [if_pos hrun] at h
    cases h
    refine ⟨hs, fun hrun' => ?_⟩
    rw [hrun'] at hrun
    cases hrun
  rw [if_neg hrun] at h
  obtain ⟨⟨panel, pool, display, frame⟩, hr, h⟩ := Checked.bind_eq_ok.mp h
  have hR := Panel.render_sound henv.buffers henv.draws hs.scale hs.good hs.roomy hr
  have hview := Panel.render_view hr
  have hstate : panel.state = w.loop.panel.state := congrArg Prod.fst hview
  have hscale : panel.ScaleInRange := hs.scale.of_scale_eq (by rw [hstate])
  cases frame with
  | some f =>
    -- the frame is drawn from the panel's view, which the render keeps
    cases h
    refine ⟨⟨henv.submit f hR.good, hscale, hR.roomy⟩, fun _ _ => .inl ?_⟩
    rw [hview]
  | none =>
    -- no frame: only because every buffer was busy, and then it is pending
    cases h
    refine ⟨⟨hR.good, hscale, hR.roomy⟩, fun _ hrend => .inr ?_⟩
    exact hR.pending_of_none (hrend.of_state hstate.symm)

/-- What a pending frame promises: when a loop that runs a renderable panel with a frame pending
is told that a buffer was released, it draws the panel's view. -/
theorem Sane.release_draws (henv : env.Sound good) {w w' : Watch δ σ η} (hs : w.loop.Sane good)
    (hrun : w.loop.state = .running) (hrend : w.loop.panel.Renderable)
    (hpend : w.loop.panel.pendingFrame = true) (i : Slot)
    (h : handle env w (.bufferReleased i) = .ok w') :
    w'.shown = some w.loop.panel.view ∧ w'.loop.panel.view = w.loop.panel.view := by
  -- the release frees slot `i` and, a frame being pending, asks for one
  have hresp : RunLoop.respond env w.loop (.bufferReleased i) =
      ({ w.loop with
          pool := w.loop.pool.release i
          panel := { w.loop.panel with pendingFrame := false } }, true) := by
    simp only [RunLoop.respond, Panel.handle, RunLoop.releaseAll, List.foldl_nil,
      Panel.takePending, hpend]
  replace h := handle_eq_ok h
  rw [hresp] at h
  change Watch.render env ⟨_, w.shown⟩ = .ok w' at h
  unfold Watch.render at h
  dsimp only at h
  rw [if_neg (by simp [hrun])] at h
  obtain ⟨⟨panel, pool, display, frame⟩, hr, h⟩ := Checked.bind_eq_ok.mp h
  have hs' : RunLoop.Sane good { w.loop with
      pool := w.loop.pool.release i
      panel := { w.loop.panel with pendingFrame := false } } :=
    ⟨hs.good, hs.scale, hs.roomy.release i⟩
  have hR := Panel.render_sound henv.buffers henv.draws hs'.scale hs'.good hs'.roomy hr
  -- with slot `i` free the frame is drawn
  have hdrawn := hR.drawn hrend (Pool.hasFree_release i)
  cases frame with
  | none => cases hdrawn
  | some f =>
    cases h
    have hview := Panel.render_view hr
    exact ⟨rfl, hview⟩

omit [BEq η] in
theorem Inv.renderIf (henv : env.Sound good) {w w' : Watch δ σ η} {l : RunLoop δ σ η}
    {redraw : Bool} (hs : l.Sane good)
    (hup : redraw = false → (⟨l, w.shown⟩ : Watch δ σ η).Inv good)
    (h : renderIf env w (l, redraw) = .ok w') : w'.Inv good := by
  unfold Watch.renderIf at h
  cases redraw with
  | true => exact Sane.render henv (w := ⟨l, w.shown⟩) hs h
  | false =>
    cases h
    exact hup rfl

/-- An event that asks for no frame keeps the screen up to date: it changes neither the view,
nor the pending flag, nor the busy flags, or it ends the loop; a release asks for a frame
exactly when one is pending, and otherwise the last frame shows the view. -/
theorem Inv.respond (henv : env.Sound good) {w : Watch δ σ η} (hw : w.Inv good) (e : Event η)
    (hr : (RunLoop.respond env w.loop e).2 = false) :
    (⟨(RunLoop.respond env w.loop e).1, w.shown⟩ : Watch δ σ η).Inv good := by
  refine ⟨hw.sane.respond henv e, ?_⟩
  revert hr
  unfold RunLoop.respond
  have hkeep := Panel.handle_keeps w.loop.panel e
  generalize w.loop.panel.handle e = r at hkeep
  obtain ⟨panel, out, rel⟩ := r
  -- an outcome that asks for no frame kept the view and the pending flag
  have hsame : out ≠ .render → panel.view = w.loop.panel.view ∧
      panel.pendingFrame = w.loop.panel.pendingFrame := hkeep.resolve_left
  have hold : w.loop.state = .running → panel.Renderable → out ≠ .render →
      (⟨{ w.loop with panel }, w.shown⟩ : Watch δ σ η).UpToDate := by
    intro hrun hrend hout
    obtain ⟨hview, hpend⟩ := hsame hout
    exact (hw.upToDate hrun (hrend.of_state (congrArg Prod.fst hview).symm)).transfer rfl hview
      hpend rfl
  cases out with
  | idle =>
    intro _ hrun hrend
    exact hold hrun hrend nofun
  | render =>
    intro hr
    cases hr
  | activate k seat =>
    dsimp only
    split
    · intro _ hrun hrend
      exact hold hrun hrend nofun
    · intro _ hrun hrend
      exact hold hrun hrend nofun
  | bufferReleased slot =>
    dsimp only [Panel.takePending]
    intro hpend hrun hrend
    obtain ⟨hview, hpend₀⟩ := hsame nofun
    have hpend' : panel.pendingFrame = false := hpend
    -- nothing was pending, so the last frame shows the view
    rcases hw.upToDate hrun (hrend.of_state (congrArg Prod.fst hview).symm) with hshown | ⟨hp, -⟩
    · exact .inl (hshown.trans (congrArg some hview.symm))
    · rw [← hpend₀, hpend'] at hp
      cases hp
  | terminate =>
    intro _ hrun
    cases hrun

theorem Inv.handle (henv : env.Sound good) {w w' : Watch δ σ η} (hw : w.Inv good) (e : Event η)
    (h : handle env w e = .ok w') : w'.Inv good := by
  replace h := handle_eq_ok h
  have hs := hw.sane.respond henv e
  have hup := hw.respond henv e
  generalize RunLoop.respond env w.loop e = r at hs hup h
  obtain ⟨l, redraw⟩ := r
  exact Inv.renderIf henv hs hup h

theorem Inv.dispatchQueued (henv : env.Sound good) {w w' : Watch δ σ η} (hw : w.Inv good)
    (h : dispatchQueued env w = .ok w') : w'.Inv good :=
  dispatchQueued_keeps (Inv good)
    (fun _ hw => hw.of_step (henv.dispatch hw.sane.good) rfl rfl (.inl rfl))
    (fun _ hw => hw.of_step hw.sane.good rfl rfl (.inr rfl))
    (fun _ e _ hw h => hw.handle henv e h) hw h

theorem Inv.start (henv : env.Sound good) {w w' : Watch δ σ η} (hw : w.Inv good)
    (h : start env w = .ok w') : w'.Inv good := by
  unfold Watch.start at h
  obtain ⟨w₁, h₁, h⟩ := Checked.bind_eq_ok.mp h
  have hw₁ := hw.dispatchQueued henv h₁
  split at h
  · -- the first frame, forced
    exact Sane.render henv (w := ⟨{ w₁.loop with state := .running }, w₁.shown⟩)
      ⟨hw₁.sane.good, hw₁.sane.scale, hw₁.sane.roomy⟩ h
  · cases h
    exact hw₁

theorem Inv.prepare (henv : env.Sound good) (spins : Nat) {w w' : Watch δ σ η}
    {o : Option (Watch δ σ η)} (hw : w.Inv good) (h : prepare env spins w = .ok (o, w')) :
    w'.Inv good ∧ ∀ x ∈ o, x.Inv good :=
  prepare_keeps (Inv good)
    (fun _ hw => hw.of_step (henv.prepareRead hw.sane.good) rfl rfl (.inl rfl))
    (fun _ _ hw h => hw.dispatchQueued henv h) spins hw h

omit [BEq η] in
theorem Inv.flushForWait (henv : env.Sound good) {w : Watch δ σ η} (hw : w.Inv good) :
    (⟨(RunLoop.flushForWait env w.loop).1, w.shown⟩ : Watch δ σ η).Inv good := by
  unfold RunLoop.flushForWait
  split
  · exact hw.of_step (henv.cancelRead hw.sane.good) rfl rfl (.inl rfl)
  · have hgood := henv.flush hw.sane.good
    generalize env.display.flush w.loop.display = r at hgood
    obtain ⟨flushed, display⟩ := r
    have hw₁ : (⟨{ w.loop with display }, w.shown⟩ : Watch δ σ η).Inv good :=
      hw.of_step hgood rfl rfl (.inl rfl)
    cases flushed with
    | error e =>
      dsimp only
      split
      · exact hw₁.of_step (henv.cancelRead hgood) rfl rfl (.inr rfl)
      · exact hw₁
    | ok _ => exact hw₁

omit [BEq η] in
/-- The loop goes on to wait only while it runs. -/
theorem flushForWait_running {l : RunLoop δ σ η} (h : (RunLoop.flushForWait env l).2 = true) :
    (RunLoop.flushForWait env l).1.state = .running := by
  unfold RunLoop.flushForWait at h ⊢
  by_cases hrun : (l.state != .running) = true
  · rw [if_pos hrun] at h
    cases h
  · rw [if_neg hrun] at h ⊢
    have hrun' : l.state = .running := by simpa using hrun
    generalize env.display.flush l.display = r at h ⊢
    obtain ⟨_ | _, display⟩ := r
    · dsimp only at h ⊢
      split at h
      · cases h
      · rw [if_neg (by assumption)]
        exact hrun'
    · exact hrun'

omit [BEq η] in
theorem Inv.completeRead (henv : env.Sound good) {w : Watch δ σ η} (hw : w.Inv good)
    (ready : Ready) :
    (⟨(RunLoop.completeRead env w.loop ready).1, w.shown⟩ : Watch δ σ η).Inv good := by
  unfold RunLoop.completeRead
  split
  · have hgood := henv.read hw.sane.good
    generalize env.display.read w.loop.display = r at hgood
    obtain ⟨_ | _, display⟩ := r
    · exact hw.of_step hgood rfl rfl (.inl rfl)
    · exact hw.of_step hgood rfl rfl (.inl rfl)
  · exact hw.of_step (henv.cancelRead hw.sane.good) rfl rfl (.inl rfl)

omit [BEq η] in
/-- Waiting, reading and taking a clock tick touch neither the panel nor the pool. -/
theorem Inv.wake (henv : env.Sound good) {w : Watch δ σ η} (hw : w.Inv good) :
    (⟨(RunLoop.wake env w.loop).1, w.shown⟩ : Watch δ σ η).Inv good := by
  unfold RunLoop.wake
  have hwait := henv.wait w.loop.sources hw.sane.good
  generalize env.sources.wait w.loop.sources w.loop.display = r at hwait
  obtain ⟨waited, sources, display⟩ := r
  have hw₁ : (⟨{ w.loop with sources, display }, w.shown⟩ : Watch δ σ η).Inv good :=
    hw.of_step hwait rfl rfl (.inl rfl)
  cases waited with
  | error _ => exact hw₁.of_step (henv.cancelRead hwait) rfl rfl (.inr rfl)
  | ok ready =>
    have hw₂ := hw₁.completeRead henv ready
    dsimp only
    generalize RunLoop.completeRead env _ ready = rd at hw₂
    obtain ⟨l₂, alive⟩ := rd
    dsimp only
    split
    · exact hw₂.of_step hw₂.sane.good rfl rfl (.inr rfl)
    · split
      · exact hw₂.of_step hw₂.sane.good rfl rfl (.inr rfl)
      · split
        · exact hw₂.of_step hw₂.sane.good rfl rfl (.inl rfl)
        · exact hw₂

/-- A turn keeps the invariant, and the loop it waits with runs and satisfies it. -/
theorem Inv.turn (henv : env.Sound good) {spins : Nat} {w w' : Watch δ σ η}
    {o : Option (Watch δ σ η)} (hw : w.Inv good) (h : turn env spins w = .ok (w', o)) :
    w'.Inv good ∧ ∀ x ∈ o, x.Inv good ∧ x.loop.state = .running := by
  unfold Watch.turn at h
  obtain ⟨w₁, h₁, h⟩ := Checked.bind_eq_ok.mp h
  obtain ⟨⟨prepared, w₂⟩, h₂, h⟩ := Checked.bind_eq_ok.mp h
  obtain ⟨hw₂, hprep⟩ := (hw.dispatchQueued henv h₁).prepare henv spins h₂
  cases prepared with
  | none =>
    -- the loop stopped running while preparing the read: no wait
    cases h
    exact ⟨hw₂, fun x hx => by cases hx⟩
  | some w₃ =>
    -- the loop it waits with is the flushed one, which runs
    have hw₄ := (hprep w₃ rfl).flushForWait henv
    have hrun : (RunLoop.flushForWait env w₃.loop).2 = true →
        (RunLoop.flushForWait env w₃.loop).1.state = .running := flushForWait_running
    dsimp only at h
    generalize RunLoop.flushForWait env w₃.loop = r at hw₄ hrun h
    obtain ⟨l, waits⟩ := r
    cases waits with
    | false =>
      cases h
      exact ⟨hw₄, fun x hx => by cases hx⟩
    | true =>
      -- the loop waits here, then completes the read and renders on a tick
      obtain ⟨w₅, h₅, h⟩ := Checked.bind_eq_ok.mp h
      cases h
      have hwake : (⟨(RunLoop.wake env l).1, w₃.shown⟩ : Watch δ σ η).Inv good :=
        Inv.wake henv (w := ⟨l, w₃.shown⟩) hw₄
      generalize RunLoop.wake env l = r at hwake h₅
      obtain ⟨l', tick⟩ := r
      refine ⟨Inv.renderIf henv hwake.sane (fun _ => hwake) h₅, fun x hx => ?_⟩
      cases Option.mem_some_iff.mp hx
      exact ⟨hw₄, hrun rfl⟩

theorem Inv.turns (henv : env.Sound good) (spins : Nat) :
    ∀ (n : Nat) {w w' : Watch δ σ η} {waits : List (Watch δ σ η)}, w.Inv good →
      turns env spins n w = .ok (w', waits) →
        w'.Inv good ∧ ∀ x ∈ waits, x.Inv good ∧ x.loop.state = .running
  | 0, w, w', waits, hw, h => by
    cases h
    exact ⟨hw, fun x hx => by cases hx⟩
  | n + 1, w, w', waits, hw, h => by
    rw [Watch.turns] at h
    split at h
    · cases h
      exact ⟨hw, fun x hx => by cases hx⟩
    · obtain ⟨⟨w₁, o⟩, h₁, h⟩ := Checked.bind_eq_ok.mp h
      obtain ⟨hw₁, ho⟩ := hw.turn henv h₁
      obtain ⟨⟨w₂, waits₂⟩, h₂, h⟩ := Checked.bind_eq_ok.mp h
      obtain ⟨hw₂, hwaits⟩ := Inv.turns henv spins n hw₁ h₂
      cases h
      refine ⟨hw₂, fun x hx => ?_⟩
      rcases List.mem_append.mp hx with hx | hx
      · exact ho x (Option.mem_toList.mp hx)
      · exact hwaits x hx

/-- **At every wait** of a run from a sane idle loop, the loop runs and keeps the invariant: when
its panel can be rendered, the screen is up to date. -/
theorem Inv.run (henv : env.Sound good) {spins limit : Nat} {w w' : Watch δ σ η}
    {waits : List (Watch δ σ η)} (hw : w.Inv good) (h : run env spins limit w = .ok (w', waits)) :
    ∀ x ∈ waits, x.Inv good ∧ x.loop.state = .running := by
  unfold Watch.run at h
  obtain ⟨w₁, h₁, h⟩ := Checked.bind_eq_ok.mp h
  obtain ⟨⟨w₂, waits₂⟩, h₂, h⟩ := Checked.bind_eq_ok.mp h
  cases h
  exact ((hw.start henv h₁).turns henv spins limit h₂).2

omit [BEq η] in
/-- An idle loop with a good display, a scale in range and roomy buffers satisfies the
invariant, whatever view is noted. -/
theorem inv_of_idle {l : RunLoop δ σ η} (hs : l.Sane good) (hidle : l.state = .idle)
    (shown : Option View) : (⟨l, shown⟩ : Watch δ σ η).Inv good := by
  refine ⟨hs, fun hrun => ?_⟩
  rw [hidle] at hrun
  cases hrun

/-! ### One loop for each wait

The waits a watched run gives are exactly the loop's waits: every step but the wait itself
leaves the sources alone, so a count of waits kept in the sources grows by one for each loop
given. -/

omit [BEq η] in
theorem sources_render {w w' : Watch δ σ η} (h : render env w = .ok w') :
    w'.loop.sources = w.loop.sources := by
  unfold Watch.render at h
  by_cases hrun : (w.loop.state != .running) = true
  · rw [if_pos hrun] at h
    cases h
    rfl
  · rw [if_neg hrun] at h
    obtain ⟨⟨panel, pool, display, frame⟩, -, h⟩ := Checked.bind_eq_ok.mp h
    cases frame <;> cases h <;> rfl

omit [BEq η] in
theorem sources_renderIf {w w' : Watch δ σ η} {l : RunLoop δ σ η} {redraw : Bool}
    (h : renderIf env w (l, redraw) = .ok w') : w'.loop.sources = l.sources := by
  unfold Watch.renderIf at h
  cases redraw with
  | true => exact sources_render h
  | false =>
    cases h
    rfl

theorem sources_respond (l : RunLoop δ σ η) (e : Event η) :
    (RunLoop.respond env l e).1.sources = l.sources := by
  unfold RunLoop.respond
  generalize l.panel.handle e = r
  obtain ⟨panel, out, rel⟩ := r
  cases out with
  | activate k seat =>
    dsimp only
    split <;> rfl
  | _ => rfl

theorem sources_handle {w w' : Watch δ σ η} {e : Event η} (h : handle env w e = .ok w') :
    w'.loop.sources = w.loop.sources := by
  replace h := handle_eq_ok h
  have hs : (RunLoop.respond env w.loop e).1.sources = w.loop.sources := sources_respond w.loop e
  generalize RunLoop.respond env w.loop e = r at hs h
  obtain ⟨l, redraw⟩ := r
  exact (sources_renderIf h).trans hs

theorem sources_dispatchQueued {w w' : Watch δ σ η} (h : dispatchQueued env w = .ok w') :
    w'.loop.sources = w.loop.sources :=
  dispatchQueued_keeps (fun w₁ : Watch δ σ η => w₁.loop.sources = w.loop.sources)
    (fun _ hw => hw) (fun _ hw => hw) (fun _ _ _ hw h => (sources_handle h).trans hw) rfl h

theorem sources_start {w w' : Watch δ σ η} (h : start env w = .ok w') :
    w'.loop.sources = w.loop.sources := by
  unfold Watch.start at h
  obtain ⟨w₁, h₁, h⟩ := Checked.bind_eq_ok.mp h
  have hs₁ := sources_dispatchQueued h₁
  split at h
  · have hs₂ := sources_render h
    exact hs₂.trans hs₁
  · cases h
    exact hs₁

theorem sources_prepare (spins : Nat) {w w' : Watch δ σ η} {o : Option (Watch δ σ η)}
    (h : prepare env spins w = .ok (o, w')) :
    w'.loop.sources = w.loop.sources ∧ ∀ x ∈ o, x.loop.sources = w.loop.sources :=
  prepare_keeps (fun w₁ : Watch δ σ η => w₁.loop.sources = w.loop.sources) (fun _ hw => hw)
    (fun _ _ hw h => (sources_dispatchQueued h).trans hw) spins rfl h

omit [BEq η] in
theorem sources_flushForWait (l : RunLoop δ σ η) :
    (RunLoop.flushForWait env l).1.sources = l.sources := by
  unfold RunLoop.flushForWait
  split
  · rfl
  · generalize env.display.flush l.display = r
    obtain ⟨_ | _, display⟩ := r
    · dsimp only
      split <;> rfl
    · rfl

omit [BEq η] in
theorem sources_completeRead (l : RunLoop δ σ η) (ready : Ready) :
    (RunLoop.completeRead env l ready).1.sources = l.sources := by
  unfold RunLoop.completeRead
  split
  · generalize env.display.read l.display = r
    obtain ⟨_ | _, display⟩ := r <;> rfl
  · rfl

end Watch

/-- A count of waits kept in the sources' state: one more after each wait, and none more for
a clock tick taken. -/
structure RunLoop.Env.CountsWaits {δ σ η : Type} (env : RunLoop.Env δ σ η) (count : σ → Nat) :
    Prop where
  wait : ∀ s d, count (env.sources.wait s d).2.1 = count s + 1
  consumeTick : ∀ s, count (env.sources.consumeTick s) = count s

namespace Watch

variable {δ σ η : Type} [BEq η] {env : RunLoop.Env δ σ η} {count : σ → Nat}

omit [BEq η] in
/-- A wait counts once, whatever comes of it. -/
theorem count_wake (hc : env.CountsWaits count) (l : RunLoop δ σ η) :
    count (RunLoop.wake env l).1.sources = count l.sources + 1 := by
  unfold RunLoop.wake
  have hwait := hc.wait l.sources l.display
  generalize env.sources.wait l.sources l.display = r at hwait
  obtain ⟨waited, sources, display⟩ := r
  cases waited with
  | error _ => exact hwait
  | ok ready =>
    dsimp only
    have hread : (RunLoop.completeRead env { l with sources, display } ready).1.sources =
        sources := sources_completeRead _ _
    generalize RunLoop.completeRead env _ ready = rd at hread
    obtain ⟨l₂, alive⟩ := rd
    dsimp only at hread ⊢
    -- whether the loop ends, takes a tick or goes on, the sources are those of the wait
    split
    · rw [← hwait, ← hread]
      rfl
    · split
      · rw [← hwait, ← hread]
        rfl
      · split
        · rw [hc.consumeTick, hread, hwait]
        · rw [hread, hwait]

/-- A turn gives a loop exactly when it waits. -/
theorem count_turn (hc : env.CountsWaits count) {spins : Nat} {w w' : Watch δ σ η}
    {o : Option (Watch δ σ η)} (h : turn env spins w = .ok (w', o)) :
    count w'.loop.sources = count w.loop.sources + o.toList.length := by
  unfold Watch.turn at h
  obtain ⟨w₁, h₁, h⟩ := Checked.bind_eq_ok.mp h
  obtain ⟨⟨prepared, w₂⟩, h₂, h⟩ := Checked.bind_eq_ok.mp h
  have hs₁ := sources_dispatchQueued h₁
  obtain ⟨hs₂, hprep⟩ := sources_prepare spins h₂
  cases prepared with
  | none =>
    cases h
    rw [hs₂, hs₁]
    rfl
  | some w₃ =>
    have hs₃ := hprep w₃ rfl
    have hs₄ : (RunLoop.flushForWait env w₃.loop).1.sources = w₃.loop.sources :=
      sources_flushForWait _
    dsimp only at h
    generalize RunLoop.flushForWait env w₃.loop = r at hs₄ h
    obtain ⟨l, waits⟩ := r
    cases waits with
    | false =>
      cases h
      show count _ = count w.loop.sources + 0
      rw [hs₄, hs₃, hs₁]
      rfl
    | true =>
      obtain ⟨w₅, h₅, h⟩ := Checked.bind_eq_ok.mp h
      cases h
      have hwake := count_wake hc l
      generalize RunLoop.wake env l = r at hwake h₅
      obtain ⟨l', tick⟩ := r
      show count _ = count w.loop.sources + 1
      rw [sources_renderIf h₅, hwake, hs₄, hs₃, hs₁]

theorem count_turns (hc : env.CountsWaits count) (spins : Nat) :
    ∀ (n : Nat) {w w' : Watch δ σ η} {waits : List (Watch δ σ η)},
      turns env spins n w = .ok (w', waits) →
        count w'.loop.sources = count w.loop.sources + waits.length
  | 0, w, w', waits, h => by
    cases h
    rfl
  | n + 1, w, w', waits, h => by
    rw [Watch.turns] at h
    split at h
    · cases h
      rfl
    · obtain ⟨⟨w₁, o⟩, h₁, h⟩ := Checked.bind_eq_ok.mp h
      obtain ⟨⟨w₂, waits₂⟩, h₂, h⟩ := Checked.bind_eq_ok.mp h
      cases h
      rw [count_turns hc spins n h₂, count_turn hc h₁, List.length_append, Nat.add_assoc]

/-- **One loop for each wait**: a watched run gives as many loops as the sources were waited on. -/
theorem count_run (hc : env.CountsWaits count) {spins limit : Nat} {w w' : Watch δ σ η}
    {waits : List (Watch δ σ η)} (h : run env spins limit w = .ok (w', waits)) :
    count w'.loop.sources = count w.loop.sources + waits.length := by
  unfold Watch.run at h
  obtain ⟨w₁, h₁, h⟩ := Checked.bind_eq_ok.mp h
  obtain ⟨⟨w₂, waits₂⟩, h₂, h⟩ := Checked.bind_eq_ok.mp h
  cases h
  -- shutting down leaves the sources alone
  change count w₂.loop.sources = _
  rw [count_turns hc spins limit h₂, sources_start h₁]

end Watch

/-! ### A replayed run -/

/-- The environment of a replayed run: the replayed display and sources, and the plain text
engine. -/
def Replay.env (now : TimeOfDay) : RunLoop.Env Replay ReplaySources Nat :=
  ⟨Replay.ops, ReplaySources.ops, .plain, now⟩

/-- A replayed display whose memory does not fail is sound: it never fails to make a buffer. -/
theorem Replay.env_sound (now : TimeOfDay) :
    (Replay.env now).Sound fun d => d.memory.failing = false where
  buffers := by
    refine ⟨fun {i w h d made d'} hd hmake => ?_, fun _ _ hd => hd⟩
    obtain ⟨⟨b, m⟩, hm, hmake⟩ := Checked.bind_eq_ok.mp hmake
    cases hmake
    exact Memory.allocate_sound.make hd hm
  dispatch hd := hd
  prepareRead hd := hd
  read {d} hd := by
    change (Replay.ops.read d).2.memory.failing = false
    unfold Replay.ops
    dsimp only
    split <;> exact hd
  cancelRead hd := hd
  flush {d} hd := by
    change (Replay.ops.flush d).2.memory.failing = false
    unfold Replay.ops
    dsimp only
    split <;> exact hd
  submit _ hd := hd
  activate _ _ hd := hd
  release _ hd := hd
  wait s {d} hd := by
    change (ReplaySources.ops.wait s d).2.2.memory.failing = false
    unfold ReplaySources.ops
    dsimp only
    split <;> exact hd
  draws := TextEngine.keepsSize_plain

/-- Replayed sources count their waits. -/
theorem Replay.countsWaits (now : TimeOfDay) :
    (Replay.env now).CountsWaits ReplaySources.waits where
  wait s d := by
    change (ReplaySources.ops.wait s d).2.1.waits = s.waits + 1
    unfold ReplaySources.ops
    dsimp only
    split <;> rfl
  consumeTick _ := rfl

/-- **No frame is lost** in a replayed run whose buffers are always made: the watched run gives
the loop at each of its waits, and at every one the loop runs and, when its panel can be
rendered, either the most recent frame submitted shows the panel's view, or a frame is pending
with both buffers busy; and while a frame is pending, a release of a buffer draws the view. -/
theorem no_lost_frame (s : Settings) {d : Replay} (hd : d.memory.failing = false)
    (src : ReplaySources) (now : TimeOfDay) (spins limit : Nat)
    {l : RunLoop Replay ReplaySources Nat}
    (hrun : RunLoop.run (Replay.env now) spins limit
      { display := d, sources := src, panel := Panel.ofState (PanelState.ofSettings s) } =
        .ok l) :
    ∃ w waits, Watch.run (Replay.env now) spins limit
        ⟨{ display := d, sources := src, panel := Panel.ofState (PanelState.ofSettings s) },
          none⟩ = .ok (w, waits) ∧ w.loop = l ∧ l.sources.waits = src.waits + waits.length ∧
      ∀ x ∈ waits, x.loop.state = .running ∧ (x.loop.panel.Renderable →
        (x.shown = some x.loop.panel.view ∨
          (x.loop.panel.pendingFrame = true ∧ x.loop.pool.AllBusy)) ∧
        ∀ (i : Slot) (x' : Watch Replay ReplaySources Nat), x.loop.panel.pendingFrame = true →
          Watch.handle (Replay.env now) x (.bufferReleased i) = .ok x' →
            x'.shown = some x.loop.panel.view) := by
  have herase := Watch.loop_run (Replay.env now) spins limit
    ⟨{ display := d, sources := src, panel := Panel.ofState (PanelState.ofSettings s) }, none⟩
  rw [hrun] at herase
  obtain ⟨⟨w, waits⟩, hwatch, rfl⟩ := Checked.map_eq_ok.mp herase
  refine ⟨w, waits, hwatch, rfl, Watch.count_run (Replay.countsWaits now) hwatch, ?_⟩
  -- the run starts idle, with a fresh panel at scale one and no buffers
  have hsane : RunLoop.Sane (fun d : Replay => d.memory.failing = false)
      ({ display := d, sources := src, panel := Panel.ofState (PanelState.ofSettings s) } :
        RunLoop Replay ReplaySources Nat) :=
    ⟨hd, (Panel.Reachable.new s).scaleInRange, Pool.roomy_empty⟩
  intro x hx
  obtain ⟨hinv, hrunning⟩ :=
    (Watch.inv_of_idle hsane rfl none).run (Replay.env_sound now) hwatch x hx
  refine ⟨hrunning, fun hrend => ⟨hinv.upToDate hrunning hrend, fun i x' hpend h => ?_⟩⟩
  -- a pending frame is what a release draws
  exact (Watch.Sane.release_draws (Replay.env_sound now) hinv.sane hrunning hrend hpend i h).1

/-- A replayed run configured to 9 by 4 with one window: the start draws the first frame, a title
draws the second into the other buffer, and the next title finds both buffers busy, so that at
the second wait the frame of the view is pending; releasing a buffer there draws it. -/
theorem no_lost_frame_configured :
    ({} : Replay).memory.failing = false ∧
      ∃ l, RunLoop.run (Replay.env ⟨12, 0, 0, 0⟩) 4 4
          { display :=
              { queue := [.configure 9 4, .appeared 1]
                batches := [[.title 1 "a", .title 1 "b"], [.bufferReleased 1]] }
            sources := { script := [{ protocol := true }, { protocol := true }] }
            panel := Panel.ofState (PanelState.ofSettings {}) } = .ok l ∧
        l.display.frames.size = 3 ∧
        ∃ w waits, Watch.run (Replay.env ⟨12, 0, 0, 0⟩) 4 4
            ⟨{ display :=
                 { queue := [.configure 9 4, .appeared 1]
                   batches := [[.title 1 "a", .title 1 "b"], [.bufferReleased 1]] }
               sources := { script := [{ protocol := true }, { protocol := true }] }
               panel := Panel.ofState (PanelState.ofSettings {}) }, none⟩ = .ok (w, waits) ∧
          w.loop = l ∧ l.sources.waits = 0 + waits.length ∧
          (∀ x ∈ waits, x.loop.state = .running ∧ (x.loop.panel.Renderable →
            (x.shown = some x.loop.panel.view ∨
              (x.loop.panel.pendingFrame = true ∧ x.loop.pool.AllBusy)) ∧
            ∀ (i : Slot) (x' : Watch Replay ReplaySources Nat), x.loop.panel.pendingFrame = true →
              Watch.handle (Replay.env ⟨12, 0, 0, 0⟩) x (.bufferReleased i) = .ok x' →
                x'.shown = some x.loop.panel.view)) ∧
          ∃ x ∈ waits, x.loop.panel.Renderable ∧ x.loop.panel.pendingFrame = true ∧
            x.loop.pool.AllBusy ∧ ∃ x', Watch.handle (Replay.env ⟨12, 0, 0, 0⟩) x
              (.bufferReleased ((1 : Slot) : Nat)) = .ok x' ∧ x'.shown = some x.loop.panel.view := by
  -- the run, evaluated: it submits three frames
  have hrun : ((RunLoop.run (Replay.env ⟨12, 0, 0, 0⟩) 4 4
      { display :=
          { queue := [.configure 9 4, .appeared 1]
            batches := [[.title 1 "a", .title 1 "b"], [.bufferReleased 1]] }
        sources := { script := [{ protocol := true }, { protocol := true }] }
        panel := Panel.ofState (PanelState.ofSettings {}) }).toOption.any
      fun l => l.display.frames.size == 3) = true := by
    set_option maxRecDepth 100000 in decide +kernel
  obtain ⟨l, hl, hframes⟩ := Checked.exists_of_any hrun
  obtain ⟨w, waits, hw, hwl, hcount, hall⟩ := no_lost_frame {} (by rfl) _ ⟨12, 0, 0, 0⟩ 4 4 hl
  -- the watched run, evaluated: a wait with both buffers busy and the frame pending
  have hpending : ((Watch.run (Replay.env ⟨12, 0, 0, 0⟩) 4 4
      ⟨{ display :=
           { queue := [.configure 9 4, .appeared 1]
             batches := [[.title 1 "a", .title 1 "b"], [.bufferReleased 1]] }
         sources := { script := [{ protocol := true }, { protocol := true }] }
         panel := Panel.ofState (PanelState.ofSettings {}) }, none⟩).toOption.any
      fun r => r.2.any fun x => decide x.loop.panel.Renderable && x.loop.panel.pendingFrame &&
        decide x.loop.pool.AllBusy &&
        (Watch.handle (Replay.env ⟨12, 0, 0, 0⟩) x
          (.bufferReleased ((1 : Slot) : Nat))).toOption.any fun _ => true) = true := by
    set_option maxRecDepth 100000 in decide +kernel
  obtain ⟨⟨w₂, waits₂⟩, hw₂, hany⟩ := Checked.exists_of_any hpending
  rw [hw] at hw₂
  cases hw₂
  obtain ⟨x, hx, hxp⟩ := List.any_eq_true.mp hany
  simp only [Bool.and_eq_true, decide_eq_true_eq] at hxp
  obtain ⟨⟨⟨hrend, hpend⟩, hbusy⟩, hreleased⟩ := hxp
  obtain ⟨x', hx', -⟩ := Checked.exists_of_any hreleased
  exact ⟨rfl, l, hl, beq_iff_eq.mp hframes, w, waits, hw, hwl, hcount, hall, x, hx, hrend, hpend,
    hbusy, x', hx', ((hall x hx).2 hrend).2 1 x' hpend hx'⟩

end DeskPanel
