import DeskPanel.Proofs.NoLostFrame

/-!
# The run loop on tape

The run loop talks to three parties: the display connection, the sources it waits on, and its
panel. What it promises about that talk (which call may come when, and in which state of the
loop) is a statement about the sequence of its calls, which the loop itself does not keep.

`Tape` runs the loop step for step beside a log of every call it makes, each noted with the
loop's state at the time of the call: dispatching and each event handed to the panel, laying out
a frame and submitting it, activations and released handles, the two phases of a read, flushes,
waits, consumed clock ticks, and the ordered release of everything at the end. Forgetting the log
gives back the loop's own run (`Tape.loop_run`).

Each step of the loop that does not render or dispatch makes all its calls in the state it
starts in and at most ends the loop afterwards; its calls are given by a function of the loop
(`respondCalls`, `flushCalls`, `wakeCalls`, `shutdownCalls`), read off its definition.

## Main definitions

* `Call` — a call of the run loop.
* `Tape` — a run loop beside the log of its calls.
* `Tape.render`, `Tape.respond`, `Tape.handle`, `Tape.dispatchQueued`, `Tape.start`,
  `Tape.prepare`, `Tape.flushForWait`, `Tape.wake`, `Tape.turn`, `Tape.turns`, `Tape.shutdown`,
  `Tape.run`.

## Main results

* `Tape.loop_run` — the taped run is the loop's run.
* `Tape.exists_run` — every run of the loop that returns has a tape.
-/

namespace DeskPanel

/-- A call of the run loop: to its display, to the sources it waits on, or to its panel. -/
inductive Call (η : Type) where
  /-- The display hands out the events it dispatched, whether or not it faulted after them. -/
  | dispatch (events : List (Event η))
  /-- An event is handed to the panel. -/
  | handle (event : Event η)
  /-- The panel lays out a frame. -/
  | render
  /-- A painted buffer is attached to the surface and committed. -/
  | submit
  | activate (id : η) (seat : Nat)
  | release (id : η)
  /-- A read is announced, which succeeds or not. -/
  | prepareRead (ok : Bool)
  | read
  | cancelRead
  | flush
  /-- The loop blocks on its sources. -/
  | wait
  | consumeTick
  /-- Every buffer of the pool is dropped. -/
  | clearPool
  | shutdown

/-- A run loop beside the calls it made so far, each with the loop's state when it was made. -/
structure Tape (δ σ η : Type) where
  loop : RunLoop δ σ η
  log : List (LoopState × Call η) := []

namespace Tape

variable {δ σ η : Type} [BEq η] (env : RunLoop.Env δ σ η)

/-- The log after calls made in the loop's present state. -/
def made (t : Tape δ σ η) (cs : List (Call η)) : List (LoopState × Call η) :=
  t.log ++ cs.map fun c => (t.loop.state, c)

/-! ### Steps that make their calls in one state -/

/-- The calls answering an event makes: the panel handles it, the handles it releases are let go
of, and an activation reaches the display when its window is still tracked. -/
def respondCalls (l : RunLoop δ σ η) (e : Event η) : List (Call η) :=
  .handle e :: ((l.panel.handle e).2.2.map .release ++
    match (l.panel.handle e).2.1 with
    | .activate k seat =>
      match (l.panel.handle e).1.windows.get? k with
      | some w => [.activate w.id seat]
      | none => []
    | _ => [])

/-- The calls of the flush before a wait: a loop that stopped running cancels its read, and a
flush that fails other than by blocking is followed by a cancelled read. -/
def flushCalls (l : RunLoop δ σ η) : List (Call η) :=
  if l.state != .running then [.cancelRead]
  else
    match (env.display.flush l.display).1 with
    | .error e => if !e.wouldBlock? then [.flush, .cancelRead] else [.flush]
    | .ok () => [.flush]

/-- The call completing a read after a wait. -/
def readCalls (ready : Ready) : List (Call η) := if ready.protocol then [.read] else [.cancelRead]

/-- The calls of a wait: the wait, then the read completed (cancelled when the wait failed), and
the clock's tick consumed when the wake asks for a frame. -/
def wakeCalls (l : RunLoop δ σ η) : List (Call η) :=
  .wait :: match (env.sources.wait l.sources l.display).1 with
    | .error _ => [.cancelRead]
    | .ok ready => readCalls ready ++ if (RunLoop.wake env l).2 then [.consumeTick] else []

/-- The calls of the shutdown: the handles the registry's clear releases, in order, then the
pool's buffers, then the connection. -/
def shutdownCalls (l : RunLoop δ σ η) : List (Call η) :=
  l.panel.windows.clear.2.map .release ++ [.clearPool, .shutdown]

/-- `RunLoop.respond`. -/
def respond (t : Tape δ σ η) (e : Event η) : Tape δ σ η × Bool :=
  (⟨(RunLoop.respond env t.loop e).1, t.made (respondCalls t.loop e)⟩,
    (RunLoop.respond env t.loop e).2)

/-- `RunLoop.flushForWait`. -/
def flushForWait (t : Tape δ σ η) : Tape δ σ η × Bool :=
  (⟨(RunLoop.flushForWait env t.loop).1, t.made (flushCalls env t.loop)⟩,
    (RunLoop.flushForWait env t.loop).2)

/-- `RunLoop.wake`. -/
def wake (t : Tape δ σ η) : Tape δ σ η × Bool :=
  (⟨(RunLoop.wake env t.loop).1, t.made (wakeCalls env t.loop)⟩, (RunLoop.wake env t.loop).2)

/-- `RunLoop.shutdown`, whose calls come after the loop was set to terminate. -/
def shutdown (t : Tape δ σ η) : Tape δ σ η :=
  ⟨RunLoop.shutdown env t.loop, t.log ++ (shutdownCalls t.loop).map fun c => (.terminating, c)⟩

/-- Answering an event hands it to the panel, then releases handles and activates windows. -/
theorem mem_respondCalls {l : RunLoop δ σ η} {e : Event η} {c : Call η}
    (hc : c ∈ respondCalls l e) :
    c = .handle e ∨ (∃ id, c = .release id) ∨ ∃ id seat, c = .activate id seat := by
  unfold respondCalls at hc
  rcases List.mem_cons.mp hc with rfl | hc
  · exact .inl rfl
  rcases List.mem_append.mp hc with hc | hc
  · obtain ⟨id, -, rfl⟩ := List.mem_map.mp hc
    exact .inr (.inl ⟨id, rfl⟩)
  · split at hc
    · split at hc
      · exact .inr (.inr ⟨_, _, List.mem_singleton.mp hc⟩)
      · cases hc
    · cases hc

omit [BEq η] in
/-- The flush before a wait flushes when the loop goes on to wait; otherwise it cancels the read,
after a flush that failed or without one when the loop stopped running. -/
theorem flushCalls_cases (l : RunLoop δ σ η) :
    (RunLoop.flushForWait env l).2 = true ∧ flushCalls env l = [.flush] ∨
      (RunLoop.flushForWait env l).2 = false ∧
        (flushCalls env l = [.cancelRead] ∨ flushCalls env l = [.flush, .cancelRead]) := by
  unfold flushCalls RunLoop.flushForWait
  by_cases hrun : (l.state != .running) = true
  · rw [if_pos hrun, if_pos hrun]
    exact .inr ⟨rfl, .inl rfl⟩
  · rw [if_neg hrun, if_neg hrun]
    generalize env.display.flush l.display = r
    obtain ⟨res, display⟩ := r
    cases res with
    | error e =>
      dsimp only
      by_cases hb : (!e.wouldBlock?) = true
      · rw [if_pos hb, if_pos hb]
        exact .inr ⟨rfl, .inr rfl⟩
      · rw [if_neg hb, if_neg hb]
        exact .inl ⟨rfl, rfl⟩
    | ok _ => exact .inl ⟨rfl, rfl⟩

omit [BEq η] in
/-- A wait is followed by one read or cancelled read, and at most by a consumed clock tick. -/
theorem wakeCalls_cases (l : RunLoop δ σ η) :
    ∃ c rest, wakeCalls env l = .wait :: c :: rest ∧ (c = .read ∨ c = .cancelRead) ∧
      (rest = [] ∨ rest = [.consumeTick]) := by
  unfold wakeCalls
  generalize (env.sources.wait l.sources l.display).1 = w
  cases w with
  | error _ => exact ⟨.cancelRead, [], rfl, .inr rfl, .inl rfl⟩
  | ok ready =>
    dsimp only
    refine ⟨if ready.protocol then .read else .cancelRead,
      if (RunLoop.wake env l).2 then [.consumeTick] else [], ?_, ?_, ?_⟩
    · unfold readCalls
      split <;> rfl
    · split
      · exact .inl rfl
      · exact .inr rfl
    · split
      · exact .inr rfl
      · exact .inl rfl

omit [BEq η] in
/-- The flush before a wait makes only flushes and cancelled reads. -/
theorem mem_flushCalls {l : RunLoop δ σ η} {c : Call η} (hc : c ∈ flushCalls env l) :
    c = .flush ∨ c = .cancelRead := by
  rcases flushCalls_cases env l with ⟨-, hcs⟩ | ⟨-, hcs | hcs⟩ <;> rw [hcs] at hc
  · exact .inl (List.mem_singleton.mp hc)
  · exact .inr (List.mem_singleton.mp hc)
  · rcases List.mem_cons.mp hc with rfl | hc
    · exact .inl rfl
    · exact .inr (List.mem_singleton.mp hc)

omit [BEq η] in
/-- A wait makes only waits, reads, cancelled reads and consumed clock ticks. -/
theorem mem_wakeCalls {l : RunLoop δ σ η} {c : Call η} (hc : c ∈ wakeCalls env l) :
    c = .wait ∨ c = .read ∨ c = .cancelRead ∨ c = .consumeTick := by
  obtain ⟨c₀, rest, hcs, hc₀, hrest⟩ := wakeCalls_cases env l
  rw [hcs] at hc
  rcases List.mem_cons.mp hc with rfl | hc
  · exact .inl rfl
  rcases List.mem_cons.mp hc with rfl | hc
  · rcases hc₀ with rfl | rfl
    · exact .inr (.inl rfl)
    · exact .inr (.inr (.inl rfl))
  · rcases hrest with rfl | rfl
    · cases hc
    · exact .inr (.inr (.inr (List.mem_singleton.mp hc)))

/-! ### The other steps -/

/-- `RunLoop.render`: a frame is laid out while running, and submitted when a buffer took it. -/
def render (t : Tape δ σ η) : Checked (Tape δ σ η) := do
  let l := t.loop
  if l.state != .running then return t
  let (panel, pool, display, frame?) ← l.panel.render l.pool env.display.buffers l.display
    env.engine env.now
  match frame? with
  | some f => return ⟨{ l with panel, pool, display := env.display.submit display f },
      t.made [.render, .submit]⟩
  | none => return ⟨{ l with panel, pool, display }, t.made [.render]⟩

/-- `RunLoop.renderIf`. -/
def renderIf : Tape δ σ η × Bool → Checked (Tape δ σ η)
  | (t, redraw) => if redraw then render env t else pure t

/-- `RunLoop.handle`. -/
def handle (t : Tape δ σ η) (e : Event η) : Checked (Tape δ σ η) :=
  match t.loop.panel.fault? e with
  | some f => throw f
  | none => renderIf env (respond env t e)

/-- `RunLoop.dispatchQueued`. -/
def dispatchQueued (t : Tape δ σ η) : Checked (Tape δ σ η) := do
  let ((events, r), display) := env.display.dispatch t.loop.display
  let l := { t.loop with display }
  let l := match r with
    | .ok () => l
    | .error _ => l.terminate
  events.foldlM (handle env) ⟨l, t.made [.dispatch events]⟩

/-- `RunLoop.start`. -/
def start (t : Tape δ σ η) : Checked (Tape δ σ η) := do
  let t ← dispatchQueued env t
  if t.loop.state == .idle then render env ⟨{ t.loop with state := .running }, t.log⟩
  else return t

/-- `RunLoop.prepare`. -/
def prepare : Nat → Tape δ σ η → Checked (Option (Tape δ σ η) × Tape δ σ η)
  | spins, t =>
    let (ok, display) := env.display.prepareRead t.loop.display
    let t : Tape δ σ η := ⟨{ t.loop with display }, t.made [.prepareRead ok]⟩
    if ok then pure (some t, t)
    else
      match spins with
      | 0 => pure (none, t)
      | n + 1 => do
        let t ← dispatchQueued env t
        if t.loop.state != .running then pure (none, t) else prepare n t

/-- `RunLoop.await`. -/
def await (t : Tape δ σ η) : Checked (Tape δ σ η) := renderIf env (wake env t)

/-- `RunLoop.turn`. -/
def turn (spins : Nat) (t : Tape δ σ η) : Checked (Tape δ σ η) := do
  let t ← dispatchQueued env t
  let (prepared, t) ← prepare env spins t
  let some t := prepared | return t
  let (t, waits) := flushForWait env t
  if waits then await env t else return t

/-- `RunLoop.turns`. -/
def turns (spins : Nat) : Nat → Tape δ σ η → Checked (Tape δ σ η)
  | 0, t => pure t
  | n + 1, t => do
    if t.loop.state != .running then return t
    turns spins n (← turn env spins t)

/-- `RunLoop.run`. -/
def run (spins limit : Nat) (t : Tape δ σ η) : Checked (Tape δ σ η) := do
  let t ← start env t
  let t ← turns env spins limit t
  return shutdown env t

/-! ### Forgetting the log gives the loop's own run -/

omit [BEq η] in
theorem loop_render (t : Tape δ σ η) : Tape.loop <$> render env t = RunLoop.render env t.loop := by
  unfold render RunLoop.render
  by_cases hrun : (t.loop.state != .running) = true
  · rw [if_pos hrun, if_pos hrun]
    rfl
  · rw [if_neg hrun, if_neg hrun]
    generalize t.loop.panel.render t.loop.pool env.display.buffers t.loop.display env.engine
      env.now = r
    rcases r with e | ⟨panel, pool, display, _ | f⟩ <;> rfl

omit [BEq η] in
theorem loop_renderIf (r : Tape δ σ η × Bool) :
    Tape.loop <$> renderIf env r = RunLoop.renderIf env (r.1.loop, r.2) := by
  obtain ⟨t, _ | _⟩ := r
  · rfl
  · exact loop_render env t

theorem loop_handle (t : Tape δ σ η) (e : Event η) :
    Tape.loop <$> handle env t e = RunLoop.handle env t.loop e := by
  unfold handle RunLoop.handle
  cases t.loop.panel.fault? e with
  | some f => rfl
  | none => exact loop_renderIf env _

theorem loop_foldlM_handle :
    ∀ (events : List (Event η)) (t : Tape δ σ η),
      Tape.loop <$> events.foldlM (handle env) t = events.foldlM (RunLoop.handle env) t.loop
  | [], _ => rfl
  | e :: events, t => by
    rw [List.foldlM_cons, List.foldlM_cons]
    exact Watch.map_bind_erase (loop_handle env t e) (loop_foldlM_handle events)

theorem loop_dispatchQueued (t : Tape δ σ η) :
    Tape.loop <$> dispatchQueued env t = RunLoop.dispatchQueued env t.loop := by
  unfold dispatchQueued RunLoop.dispatchQueued
  generalize env.display.dispatch t.loop.display = r
  obtain ⟨⟨events, res⟩, display⟩ := r
  exact loop_foldlM_handle env events _

theorem loop_start (t : Tape δ σ η) : Tape.loop <$> start env t = RunLoop.start env t.loop := by
  unfold start RunLoop.start
  refine Watch.map_bind_erase (loop_dispatchQueued env t) fun t₁ => ?_
  by_cases hidle : (t₁.loop.state == .idle) = true
  · rw [if_pos hidle, if_pos hidle]
    exact loop_render env _
  · rw [if_neg hidle, if_neg hidle]
    rfl

/-- The erasure of a prepared read: the loop, whether the read is prepared or not. -/
def erasePrepared (r : Option (Tape δ σ η) × Tape δ σ η) : Option (RunLoop δ σ η) × RunLoop δ σ η :=
  (r.1.map Tape.loop, r.2.loop)

theorem loop_prepare :
    ∀ (spins : Nat) (t : Tape δ σ η),
      erasePrepared <$> prepare env spins t = RunLoop.prepare env spins t.loop
  | spins, t => by
    rw [prepare, RunLoop.prepare]
    generalize env.display.prepareRead t.loop.display = r
    obtain ⟨_ | _, display⟩ := r
    · cases spins with
      | zero => rfl
      | succ n =>
        refine Watch.map_bind_erase (loop_dispatchQueued env _) fun t₁ => ?_
        by_cases hrun : (t₁.loop.state != .running) = true
        · rw [if_pos hrun, if_pos hrun]
          rfl
        · rw [if_neg hrun, if_neg hrun]
          exact loop_prepare n t₁
    · rfl

theorem loop_turn (spins : Nat) (t : Tape δ σ η) :
    Tape.loop <$> turn env spins t = RunLoop.turn env spins t.loop := by
  unfold turn RunLoop.turn
  refine Watch.map_bind_erase (loop_dispatchQueued env t) fun t₁ => ?_
  refine Watch.map_bind_erase (loop_prepare env spins t₁) fun ⟨prepared, t₂⟩ => ?_
  cases prepared with
  | none => rfl
  | some t₃ =>
    dsimp only [erasePrepared, Option.map_some]
    show Tape.loop <$> (if (flushForWait env t₃).2 then await env (flushForWait env t₃).1
      else pure (flushForWait env t₃).1) = _
    unfold flushForWait
    generalize RunLoop.flushForWait env t₃.loop = r
    obtain ⟨l, _ | _⟩ := r
    · rfl
    · -- the loop waits
      dsimp only
      rw [if_pos rfl, if_pos rfl]
      exact loop_renderIf env _

theorem loop_turns (spins : Nat) :
    ∀ (n : Nat) (t : Tape δ σ η), Tape.loop <$> turns env spins n t = RunLoop.turns env spins n t.loop
  | 0, _ => rfl
  | n + 1, t => by
    rw [turns, RunLoop.turns]
    by_cases hrun : (t.loop.state != .running) = true
    · rw [if_pos hrun, if_pos hrun]
      rfl
    · rw [if_neg hrun, if_neg hrun]
      exact Watch.map_bind_erase (loop_turn env spins t) (loop_turns spins n)

/-- **Erasure**: the taped run is the loop's run. -/
theorem loop_run (spins limit : Nat) (t : Tape δ σ η) :
    Tape.loop <$> run env spins limit t = RunLoop.run env spins limit t.loop := by
  unfold run RunLoop.run
  refine Watch.map_bind_erase (loop_start env t) fun t₁ => ?_
  exact Watch.map_bind_erase (loop_turns env spins limit t₁) fun _ => rfl

/-! ### What the steps keep -/

section Keeps

variable {env} (P : Tape δ σ η → Prop)

omit [BEq η] in
/-- A render does nothing when the loop does not run; while it runs, it lays out a frame in the
running state and submits it when a buffer took it. -/
theorem render_cases {t t' : Tape δ σ η} (h : render env t = .ok t') :
    t' = t ∧ t.loop.state ≠ .running ∨
      t.loop.state = .running ∧ ∃ l' : RunLoop δ σ η, l'.state = .running ∧
        (t' = ⟨l', t.made [.render]⟩ ∨ t' = ⟨l', t.made [.render, .submit]⟩) := by
  unfold render at h
  by_cases hrun : (t.loop.state != .running) = true
  · rw [if_pos hrun] at h
    cases h
    exact .inl ⟨rfl, by simpa using hrun⟩
  · rw [if_neg hrun] at h
    have hrun' : t.loop.state = .running := by simpa using hrun
    obtain ⟨⟨panel, pool, display, frame?⟩, -, h⟩ := Checked.bind_eq_ok.mp h
    refine .inr ⟨hrun', ?_⟩
    cases frame? with
    | some f =>
      cases h
      refine ⟨_, ?_, .inr rfl⟩
      exact hrun'
    | none =>
      cases h
      refine ⟨_, ?_, .inl rfl⟩
      exact hrun'

/-- An event that is answered at all did not stop the panel: it was answered and rendered as
asked. -/
theorem handle_eq_ok {t t' : Tape δ σ η} {e : Event η} (h : handle env t e = .ok t') :
    renderIf env (respond env t e) = .ok t' := by
  unfold handle at h
  cases hf : t.loop.panel.fault? e with
  | some f =>
    rw [hf] at h
    cases h
  | none => rwa [hf] at h

omit [BEq η] in
theorem renderIf_keeps (hrender : ∀ t t', P t → render env t = .ok t' → P t')
    {r : Tape δ σ η × Bool} {t' : Tape δ σ η} (hp : P r.1) (h : renderIf env r = .ok t') : P t' := by
  obtain ⟨t, _ | _⟩ := r
  · cases h
    exact hp
  · exact hrender t t' hp h

/-- Dispatching keeps whatever ending the loop, answering an event and rendering keep, from the
tape that took the queued events on. -/
theorem dispatchQueued_keeps (hterm : ∀ t : Tape δ σ η, P t → P ⟨t.loop.terminate, t.log⟩)
    (hrespond : ∀ t e, P t → P (respond env t e).1)
    (hrender : ∀ t t', P t → render env t = .ok t' → P t') {t t' : Tape δ σ η}
    (htaken : P ⟨{ t.loop with display := (env.display.dispatch t.loop.display).2 },
      t.made [.dispatch (env.display.dispatch t.loop.display).1.1]⟩)
    (h : dispatchQueued env t = .ok t') : P t' := by
  unfold dispatchQueued at h
  generalize env.display.dispatch t.loop.display = r at htaken h
  obtain ⟨⟨events, res⟩, display⟩ := r
  have hhandle : ∀ t e t', P t → handle env t e = .ok t' → P t' := fun _ e _ hb hs =>
    renderIf_keeps P hrender (hrespond _ e hb) (handle_eq_ok hs)
  -- a fault ends the loop, and the events handed out are answered all the same
  cases res with
  | ok _ => exact Checked.foldlM_inv P hhandle htaken h
  | error _ => exact Checked.foldlM_inv P hhandle (hterm _ htaken) h

/-- Preparing a read keeps whatever announcing it and dispatching keep; so does the tape it gives
when the read is prepared. -/
theorem prepare_keeps
    (hannounce : ∀ t : Tape δ σ η, P t →
      P ⟨{ t.loop with display := (env.display.prepareRead t.loop.display).2 },
        t.made [.prepareRead (env.display.prepareRead t.loop.display).1]⟩)
    (hdispatch : ∀ t t', P t → dispatchQueued env t = .ok t' → P t') :
    ∀ (spins : Nat) {t t' : Tape δ σ η} {o : Option (Tape δ σ η)}, P t →
      prepare env spins t = .ok (o, t') → P t' ∧ ∀ x ∈ o, P x
  | spins, t, t', o, hp, h => by
    rw [prepare] at h
    have h₁ := hannounce t hp
    generalize env.display.prepareRead t.loop.display = r at h₁ h
    obtain ⟨ok, display⟩ := r
    dsimp only at h
    split at h
    · cases h
      exact ⟨h₁, fun x hx => Option.mem_some_iff.mp hx ▸ h₁⟩
    · cases spins with
      | zero =>
        cases h
        exact ⟨h₁, fun x hx => by cases hx⟩
      | succ n =>
        -- events were still queued: dispatch them and, while running, try again
        obtain ⟨t₂, h₂, h⟩ := Checked.bind_eq_ok.mp h
        have hp₂ := hdispatch _ _ h₁ h₂
        split at h
        · cases h
          exact ⟨hp₂, fun x hx => by cases hx⟩
        · exact prepare_keeps hannounce hdispatch n hp₂ h

/-- A turn keeps whatever dispatching, announcing a read, the flush before a wait and a wait
made while running keep. -/
theorem turn_keeps
    (hannounce : ∀ t : Tape δ σ η, P t →
      P ⟨{ t.loop with display := (env.display.prepareRead t.loop.display).2 },
        t.made [.prepareRead (env.display.prepareRead t.loop.display).1]⟩)
    (hdispatch : ∀ t t', P t → dispatchQueued env t = .ok t' → P t')
    (hflush : ∀ t, P t → P (flushForWait env t).1)
    (hawait : ∀ t t', P t → t.loop.state = .running → await env t = .ok t' → P t')
    {spins : Nat} {t t' : Tape δ σ η} (hp : P t) (h : turn env spins t = .ok t') : P t' := by
  unfold turn at h
  obtain ⟨t₁, h₁, h⟩ := Checked.bind_eq_ok.mp h
  obtain ⟨⟨prepared, t₂⟩, h₂, h⟩ := Checked.bind_eq_ok.mp h
  obtain ⟨hp₂, hprep⟩ := prepare_keeps P hannounce hdispatch spins (hdispatch _ _ hp h₁) h₂
  cases prepared with
  | none =>
    cases h
    exact hp₂
  | some t₃ =>
    have hp₃ := hflush t₃ (hprep t₃ rfl)
    dsimp only at h
    by_cases hw : (flushForWait env t₃).2 = true
    · rw [if_pos hw] at h
      -- the loop goes on to wait only while it runs
      exact hawait _ _ hp₃ (Watch.flushForWait_running hw) h
    · rw [if_neg hw] at h
      cases h
      exact hp₃

theorem turns_keeps {spins : Nat} (hturn : ∀ t t', P t → turn env spins t = .ok t' → P t') :
    ∀ (n : Nat) {t t' : Tape δ σ η}, P t → turns env spins n t = .ok t' → P t'
  | 0, t, t', hp, h => by
    cases h
    exact hp
  | n + 1, t, t', hp, h => by
    rw [turns] at h
    split at h
    · cases h
      exact hp
    · obtain ⟨t₁, h₁, h⟩ := Checked.bind_eq_ok.mp h
      exact turns_keeps hturn n (hturn _ _ hp h₁) h

end Keeps

section Cases

variable {env}

/-- The start dispatches, then sets a loop the dispatch left idle running and renders. -/
theorem start_cases {t t' : Tape δ σ η} (h : start env t = .ok t') :
    ∃ t₁, dispatchQueued env t = .ok t₁ ∧
      (t₁.loop.state = .idle ∧ render env ⟨{ t₁.loop with state := .running }, t₁.log⟩ = .ok t' ∨
        t₁.loop.state ≠ .idle ∧ t' = t₁) := by
  unfold start at h
  obtain ⟨t₁, h₁, h⟩ := Checked.bind_eq_ok.mp h
  refine ⟨t₁, h₁, ?_⟩
  by_cases hidle : (t₁.loop.state == .idle) = true
  · rw [if_pos hidle] at h
    exact .inl ⟨by simpa using hidle, h⟩
  · rw [if_neg hidle] at h
    cases h
    exact .inr ⟨by simpa using hidle, rfl⟩

/-- A loop that does not run takes no turn. -/
theorem turns_of_not_running {spins n : Nat} {t : Tape δ σ η} (h : t.loop.state ≠ .running) :
    turns env spins n t = pure t := by
  cases n with
  | zero => rfl
  | succ n =>
    rw [turns, if_pos (by simpa using h)]

theorem run_cases {spins limit : Nat} {t t' : Tape δ σ η} (h : run env spins limit t = .ok t') :
    ∃ t₁ t₂, start env t = .ok t₁ ∧ turns env spins limit t₁ = .ok t₂ ∧ t' = shutdown env t₂ := by
  unfold run at h
  obtain ⟨t₁, h₁, h⟩ := Checked.bind_eq_ok.mp h
  obtain ⟨t₂, h₂, h⟩ := Checked.bind_eq_ok.mp h
  cases h
  exact ⟨t₁, t₂, h₁, h₂, rfl⟩

end Cases

/-- Every run of the loop that returns has a tape, which ends at the loop the run returns. -/
theorem exists_run {spins limit : Nat} {l l' : RunLoop δ σ η}
    (h : RunLoop.run env spins limit l = .ok l') :
    ∃ t, run env spins limit ⟨l, []⟩ = .ok t ∧ t.loop = l' := by
  rw [← loop_run env spins limit ⟨l, []⟩] at h
  exact Checked.map_eq_ok.mp h

end Tape

end DeskPanel
