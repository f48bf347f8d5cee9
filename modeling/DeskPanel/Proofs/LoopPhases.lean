import DeskPanel.Proofs.OutputScale
import DeskPanel.Proofs.Tape

/-!
# The phases of a run

A run loop is idle until it starts, runs until something ends it, and then terminates. Ending
can come from many places: an event that closes the surface or removes the active output, a
faulty dispatch, a failed flush, wait or read, and a timeout or signal. Events after the one that
ends the loop in the same batch are still handed to the panel, so the guard on rendering and the
check before each turn do all the work of keeping a stopped loop quiet.

Read off the tape of a run, the loop's state never goes back; it runs at all exactly when the
events of the handshake leave it idle, and then its first call while running is the forced first
frame; frames are submitted, the sources waited on and their ticks consumed only while it runs;
each event a dispatch hands out goes to the panel once, in order, right after its dispatch; and
the run ends with its only shutdown, after the handles the registry tracked were released and the
pool was cleared.

Each step that makes its calls in one state keeps that state or ends the loop (`respond_state`,
`flushForWait_state`, `wake_state`), so one lemma (`Tape.Lawful.made`) carries the invariant over
all of them; the forced first frame is the one step that moves the loop into a new phase before
its calls, and has a lemma of its own (`Tape.Lawful.render_first`).

## Main definitions

* `LoopState.rank` — the order of the phases.
* `Call.Allowed`, `FirstRender`, `Delivered` — what may be logged before the shutdown.
* `Tape.Lawful`, `Tape.Steady` — the invariant of a taped run before its shutdown.
* `Tape.PanelKeeps` — a property of panels that every change the loop makes to its panel keeps.
* `Tape.Orderly` — what a whole run promises about its calls.

## Main results

* `Tape.Steady.turn` — every turn keeps the invariant.
* `Tape.PanelKeeps.turns`, `Tape.PanelKeeps.start` — a property of the panel that answering
  events, taking the pending flag and rendering keep holds all along a run.
* `RunLoop.run_orderly` — every run that starts idle with a consistent registry and returns is
  orderly.
-/

namespace DeskPanel

/-- Where a state stands in a loop's life: idle, then running, then terminating. -/
def LoopState.rank : LoopState → Nat
  | .idle => 0
  | .running => 1
  | .terminating => 2

theorem LoopState.rank_le_terminating (s : LoopState) : s.rank ≤ LoopState.terminating.rank := by
  cases s <;> decide

namespace Call

variable {η : Type}

/-- The calls only a running loop makes: submitting a frame, waiting on the sources and
consuming a clock tick. -/
def needsRunning : Call η → Bool
  | .submit | .wait | .consumeTick => true
  | _ => false

def isShutdown : Call η → Bool
  | .shutdown => true
  | _ => false

/-- A call that may be made in a state before the shutdown. -/
def Allowed (c : Call η) (s : LoopState) : Prop :=
  (c.needsRunning = true → s = .running) ∧ c.isShutdown = false

/-- Dispatching, and handing an event to the panel. -/
def isDelivery : Call η → Bool
  | .dispatch _ | .handle _ => true
  | _ => false

/-- A dispatch followed by each event it handed out, in order. -/
def delivered (b : List (Event η)) : List (Call η) := .dispatch b :: b.map .handle

theorem allowed_of_background {c : Call η} (hr : c.needsRunning = false) (hs : c.isShutdown = false)
    (s : LoopState) : c.Allowed s :=
  ⟨fun h => absurd (hr.symm.trans h) Bool.false_ne_true, hs⟩

end Call

variable {δ σ η : Type}

/-- The dispatches and the events handed to the panel among logged calls. -/
def deliveries (log : List (LoopState × Call η)) : List (Call η) :=
  (log.map (·.2)).filter Call.isDelivery

/-- The deliveries come batch by batch: each dispatch is followed by the events it handed out,
each once and in order, before anything else is delivered. -/
def Delivered (log : List (LoopState × Call η)) : Prop :=
  ∃ batches : List (List (Event η)), deliveries log = batches.flatMap Call.delivered

/-- The first call made out of the idle state, if it is made while running, lays out a frame. -/
def FirstRender (log : List (LoopState × Call η)) : Prop :=
  ∀ c, log.find? (fun e => e.1 != .idle) = some (.running, c) → c = .render

theorem deliveries_append (log log' : List (LoopState × Call η)) :
    deliveries (log ++ log') = deliveries log ++ deliveries log' := by
  simp only [deliveries, List.map_append, List.filter_append]

/-- Calls made in one state deliver what they deliver. -/
theorem deliveries_const (s : LoopState) (cs : List (Call η)) :
    deliveries (cs.map fun c => (s, c)) = cs.filter Call.isDelivery := by
  simp [deliveries, Function.comp_def]

theorem Delivered.append {log : List (LoopState × Call η)} (h : Delivered log)
    {log' : List (LoopState × Call η)} (h' : deliveries log' = []) : Delivered (log ++ log') := by
  obtain ⟨batches, hb⟩ := h
  exact ⟨batches, by rw [deliveries_append, h', List.append_nil, hb]⟩

theorem Delivered.append_quiet {log : List (LoopState × Call η)} (h : Delivered log) (s : LoopState)
    {cs : List (Call η)} (hcs : ∀ c ∈ cs, c.isDelivery = false) :
    Delivered (log ++ cs.map fun c => (s, c)) := by
  refine h.append ?_
  rw [deliveries_const, List.filter_eq_nil_iff]
  intro c hc
  rw [hcs c hc]
  exact Bool.false_ne_true

theorem pairwise_rank_const (s : LoopState) (cs : List (Call η)) :
    ((cs.map fun c => (s, c)).map (·.1)).Pairwise fun a b => a.rank ≤ b.rank := by
  rw [List.map_map]
  apply List.pairwise_of_forall_mem_list
  intro a ha b hb
  obtain ⟨_, _, rfl⟩ := List.mem_map.mp ha
  obtain ⟨_, _, rfl⟩ := List.mem_map.mp hb
  exact Nat.le_refl _

/-- Calls made while running that begin by laying out a frame. -/
theorem firstRender_render (cs : List (Call η)) :
    FirstRender ((Call.render :: cs).map fun c => ((LoopState.running, c) : LoopState × Call η)) := by
  intro c hc
  rw [List.map_cons, List.find?_cons_of_pos rfl] at hc
  cases hc
  rfl

/-- Calls appended to a log keep the first call while running a frame, when they do so after
a log made only while idle. -/
theorem FirstRender.append {log : List (LoopState × Call η)} (h : FirstRender log)
    {log' : List (LoopState × Call η)} (h' : (∀ e ∈ log, e.1 = .idle) → FirstRender log') :
    FirstRender (log ++ log') := by
  intro c hc
  rw [List.find?_append] at hc
  cases hlog : log.find? (fun e => e.1 != .idle) with
  | some x =>
    rw [hlog, Option.some_or] at hc
    exact h c (hlog.trans hc)
  | none =>
    rw [hlog, Option.none_or] at hc
    -- every call so far was made while idle
    refine h' (fun e he => ?_) c hc
    simpa using List.find?_eq_none.mp hlog e he

/-- Calls made other than while running add no first call while running. -/
theorem FirstRender.append_not_running {log : List (LoopState × Call η)} (h : FirstRender log)
    {log' : List (LoopState × Call η)} (h' : ∀ e ∈ log', e.1 ≠ .running) : FirstRender (log ++ log') :=
  h.append fun _ _ hc => absurd rfl (h' _ (List.mem_of_find?_eq_some hc))

/-! ### Steps that keep their state or end the loop -/

namespace RunLoop

variable [BEq η] (env : Env δ σ η)

theorem respond_state (l : RunLoop δ σ η) (e : Event η) :
    (respond env l e).1.state = l.state ∨ (respond env l e).1.state = .terminating := by
  unfold respond
  generalize l.panel.handle e = r
  obtain ⟨panel, out, rel⟩ := r
  cases out with
  | activate k seat =>
    dsimp only
    split
    · exact .inl rfl
    · exact .inl rfl
  | terminate => exact .inr rfl
  | _ => exact .inl rfl

omit [BEq η] in
/-- The flush before a wait changes the display and nothing else, and may end the loop. -/
theorem flushForWait_frame (l : RunLoop δ σ η) :
    ∃ display, (flushForWait env l).1 = { l with display } ∨
      (flushForWait env l).1 = ({ l with display } : RunLoop δ σ η).terminate := by
  unfold flushForWait
  by_cases hrun : (l.state != .running) = true
  · rw [if_pos hrun]
    exact ⟨_, .inl rfl⟩
  · rw [if_neg hrun]
    generalize env.display.flush l.display = r
    obtain ⟨res, display⟩ := r
    cases res with
    | error e =>
      dsimp only
      split
      · exact ⟨_, .inr rfl⟩
      · exact ⟨_, .inl rfl⟩
    | ok _ => exact ⟨_, .inl rfl⟩

omit [BEq η] in
theorem completeRead_frame (l : RunLoop δ σ η) (ready : Ready) :
    ∃ display, (completeRead env l ready).1 = { l with display } := by
  unfold completeRead
  split
  · generalize env.display.read l.display = r
    obtain ⟨res, display⟩ := r
    cases res <;> exact ⟨_, rfl⟩
  · exact ⟨_, rfl⟩

omit [BEq η] in
/-- A wait changes the display and the sources and nothing else, and may end the loop. -/
theorem wake_frame (l : RunLoop δ σ η) :
    ∃ display sources, (wake env l).1 = { l with display, sources } ∨
      (wake env l).1 = ({ l with display, sources } : RunLoop δ σ η).terminate := by
  unfold wake
  generalize env.sources.wait l.sources l.display = r
  obtain ⟨waited, sources, display⟩ := r
  cases waited with
  | error _ => exact ⟨_, _, .inr rfl⟩
  | ok ready =>
    dsimp only
    obtain ⟨display', hread⟩ := completeRead_frame env { l with sources, display } ready
    generalize completeRead env { l with sources, display } ready = c at hread
    obtain ⟨l₂, alive⟩ := c
    dsimp only at hread ⊢
    subst hread
    split
    · exact ⟨_, _, .inr rfl⟩
    · split
      · exact ⟨_, _, .inr rfl⟩
      · split
        · exact ⟨_, _, .inl rfl⟩
        · exact ⟨_, _, .inl rfl⟩

omit [BEq η] in
theorem flushForWait_state (l : RunLoop δ σ η) :
    (flushForWait env l).1.state = l.state ∨ (flushForWait env l).1.state = .terminating := by
  obtain ⟨display, h | h⟩ := flushForWait_frame env l <;> rw [h]
  · exact .inl rfl
  · exact .inr rfl

omit [BEq η] in
theorem wake_state (l : RunLoop δ σ η) :
    (wake env l).1.state = l.state ∨ (wake env l).1.state = .terminating := by
  obtain ⟨display, sources, h | h⟩ := wake_frame env l <;> rw [h]
  · exact .inl rfl
  · exact .inr rfl

end RunLoop

/-! ### The invariant before the shutdown -/

namespace Tape

variable [BEq η] {env : RunLoop.Env δ σ η}

/-- What a taped run keeps before its shutdown. The states of the calls never go back and none
is past the loop's; a running loop has made a call while running; the forced frame comes first;
and only a running loop submits, waits or consumes a tick, and nothing shuts down. -/
structure Lawful (t : Tape δ σ η) : Prop where
  sorted : (t.log.map (·.1)).Pairwise fun a b => a.rank ≤ b.rank
  bounded : ∀ e ∈ t.log, e.1.rank ≤ t.loop.state.rank
  logged : t.loop.state = .running → ∃ e ∈ t.log, e.1 = .running
  firstRender : FirstRender t.log
  allowed : ∀ e ∈ t.log, e.2.Allowed e.1

omit [BEq η] in
/-- Calls appended after a lawful log, in states from the loop's up to the next loop's. -/
theorem Lawful.append {t : Tape δ σ η} (h : t.Lawful) {new : List (LoopState × Call η)}
    {l' : RunLoop δ σ η} (hsorted : (new.map (·.1)).Pairwise fun a b => a.rank ≤ b.rank)
    (hrange : ∀ e ∈ new, t.loop.state.rank ≤ e.1.rank ∧ e.1.rank ≤ l'.state.rank)
    (hmono : t.loop.state.rank ≤ l'.state.rank)
    (hlogged : l'.state = .running → ∃ e ∈ t.log ++ new, e.1 = .running)
    (hfirst : (∀ e ∈ t.log, e.1 = .idle) → FirstRender new)
    (hallowed : ∀ e ∈ new, e.2.Allowed e.1) : (⟨l', t.log ++ new⟩ : Tape δ σ η).Lawful where
  sorted := by
    rw [List.map_append, List.pairwise_append]
    refine ⟨h.sorted, hsorted, ?_⟩
    intro a ha b hb
    obtain ⟨x, hx, rfl⟩ := List.mem_map.mp ha
    obtain ⟨y, hy, rfl⟩ := List.mem_map.mp hb
    exact Nat.le_trans (h.bounded x hx) (hrange y hy).1
  bounded e he := by
    rcases List.mem_append.mp he with he | he
    · exact Nat.le_trans (h.bounded e he) hmono
    · exact (hrange e he).2
  logged := hlogged
  firstRender := h.firstRender.append hfirst
  allowed e he := by
    rcases List.mem_append.mp he with he | he
    · exact h.allowed e he
    · exact hallowed e he

omit [BEq η] in
/-- **A step that makes its calls in one state** and keeps it or ends the loop keeps the
invariant, when those calls are allowed in that state. -/
theorem Lawful.made {t : Tape δ σ η} (h : t.Lawful) {cs : List (Call η)}
    (hcs : ∀ c ∈ cs, c.Allowed t.loop.state) {l' : RunLoop δ σ η}
    (hl : l'.state = t.loop.state ∨ l'.state = .terminating) :
    (⟨l', t.made cs⟩ : Tape δ σ η).Lawful := by
  have hmono : t.loop.state.rank ≤ l'.state.rank := by
    rcases hl with hl | hl
    · rw [hl]
    · rw [hl]
      exact LoopState.rank_le_terminating _
  have hnew : ∀ e ∈ cs.map (fun c => (t.loop.state, c)), e.1 = t.loop.state ∧ e.2 ∈ cs := by
    intro e he
    obtain ⟨c, hc, rfl⟩ := List.mem_map.mp he
    exact ⟨rfl, hc⟩
  apply h.append (pairwise_rank_const _ cs)
  · intro e he
    rw [(hnew e he).1]
    exact ⟨Nat.le_refl _, hmono⟩
  · exact hmono
  · intro hrun
    rcases hl with hl | hl
    · obtain ⟨e, he, hre⟩ := h.logged (hl ▸ hrun)
      exact ⟨e, List.mem_append_left _ he, hre⟩
    · rw [hl] at hrun
      cases hrun
  · -- while the log is idle the loop does not run, so none of these calls is made while running
    intro hidle c hc
    obtain ⟨c', -, hre⟩ := List.mem_map.mp (List.mem_of_find?_eq_some hc)
    obtain ⟨x, hx, hxr⟩ := h.logged (congrArg Prod.fst hre)
    rw [hidle x hx] at hxr
    cases hxr
  · intro e he
    rw [(hnew e he).1]
    exact hcs e.2 (hnew e he).2

omit [BEq η] in
theorem Lawful.terminate {t : Tape δ σ η} (h : t.Lawful) :
    (⟨t.loop.terminate, t.log⟩ : Tape δ σ η).Lawful := by
  have h' : (⟨t.loop.terminate, t.made []⟩ : Tape δ σ η).Lawful :=
    h.made (fun _ hc => by cases hc) (.inr rfl)
  rwa [Tape.made, List.map_nil, List.append_nil] at h'

omit [BEq η] in
theorem Lawful.render {t t' : Tape δ σ η} (h : t.Lawful) (hr : Tape.render env t = .ok t') :
    t'.Lawful := by
  rcases render_cases hr with ⟨rfl, -⟩ | ⟨hrun, l', hl', rfl | rfl⟩
  · exact h
  all_goals
    refine h.made ?_ (.inl (hl'.trans hrun.symm))
    simp [Call.Allowed, Call.needsRunning, Call.isShutdown, hrun]

omit [BEq η] in
/-- The forced first frame: a loop that was idle is set running and renders. -/
theorem Lawful.render_first {t t' : Tape δ σ η} (h : t.Lawful) (hidle : t.loop.state = .idle)
    (hr : Tape.render env ⟨{ t.loop with state := .running }, t.log⟩ = .ok t') : t'.Lawful := by
  rcases render_cases hr with ⟨-, hne⟩ | ⟨-, l', hl', ht'⟩
  · exact absurd rfl hne
  -- the frame is laid out first, and submitted when a buffer took it
  obtain ⟨cs, hcs, rfl⟩ : ∃ cs : List (Call η), (∀ c ∈ cs, c = .submit) ∧
      t' = ⟨l', t.log ++ (Call.render :: cs).map fun c => (.running, c)⟩ := by
    rcases ht' with rfl | rfl
    · exact ⟨[], fun _ hc => absurd hc List.not_mem_nil, rfl⟩
    · exact ⟨[.submit], fun _ hc => List.mem_singleton.mp hc, rfl⟩
  have hnew : ∀ e ∈ (Call.render :: cs).map (fun c => ((LoopState.running, c) : LoopState × Call η)),
      e.1 = .running ∧ e.2.Allowed .running := by
    intro e he
    obtain ⟨c, hc, rfl⟩ := List.mem_map.mp he
    refine ⟨rfl, fun _ => rfl, ?_⟩
    rcases List.mem_cons.mp hc with rfl | hc
    · rfl
    · rw [hcs c hc]
      rfl
  apply h.append (pairwise_rank_const _ _)
  · intro e he
    rw [(hnew e he).1, hidle, hl']
    exact ⟨Nat.zero_le _, Nat.le_refl _⟩
  · rw [hidle]
    exact Nat.zero_le _
  · intro _
    exact ⟨(.running, .render), List.mem_append_right _ List.mem_cons_self, rfl⟩
  · intro _
    exact firstRender_render cs
  · intro e he
    rw [(hnew e he).1]
    exact (hnew e he).2

theorem Lawful.respond {t : Tape δ σ η} (h : t.Lawful) (e : Event η) :
    (Tape.respond env t e).1.Lawful := by
  refine h.made (fun c hc => ?_) (RunLoop.respond_state env t.loop e)
  rcases mem_respondCalls hc with rfl | ⟨id, rfl⟩ | ⟨id, seat, rfl⟩ <;>
    exact Call.allowed_of_background rfl rfl _

theorem Lawful.dispatchQueued {t t' : Tape δ σ η} (h : t.Lawful)
    (hd : Tape.dispatchQueued env t = .ok t') : t'.Lawful :=
  dispatchQueued_keeps Lawful (fun _ ht => ht.terminate) (fun _ e ht => ht.respond e)
    (fun _ _ ht hr => ht.render hr)
    (h.made (fun c hc => by rw [List.mem_singleton.mp hc]; exact Call.allowed_of_background rfl rfl _)
      (.inl rfl)) hd

omit [BEq η] in
/-- A wait, made while running, keeps the invariant. -/
theorem Lawful.wake {t : Tape δ σ η} (h : t.Lawful) (hrun : t.loop.state = .running) :
    (Tape.wake env t).1.Lawful := by
  refine h.made (fun c hc => ⟨fun _ => hrun, ?_⟩) (RunLoop.wake_state env t.loop)
  rcases mem_wakeCalls env hc with rfl | rfl | rfl | rfl <;> rfl

/-! ### Deliveries -/

omit [BEq η] in
theorem deliveries_made (t : Tape δ σ η) (cs : List (Call η)) :
    deliveries (t.made cs) = deliveries t.log ++ cs.filter Call.isDelivery := by
  rw [made, deliveries_append, deliveries_const]

/-- Answering an event hands it to the panel; its other calls deliver nothing. -/
theorem filter_respondCalls (l : RunLoop δ σ η) (e : Event η) :
    (respondCalls l e).filter Call.isDelivery = [.handle e] := by
  unfold respondCalls
  rw [List.filter_cons_of_pos rfl, List.filter_eq_nil_iff.mpr]
  intro c hc
  rcases List.mem_append.mp hc with hc | hc
  · obtain ⟨id, -, rfl⟩ := List.mem_map.mp hc
    exact Bool.false_ne_true
  · split at hc
    · split at hc
      · rw [List.mem_singleton.mp hc]
        exact Bool.false_ne_true
      · cases hc
    · cases hc

theorem deliveries_respond (t : Tape δ σ η) (e : Event η) :
    deliveries (Tape.respond env t e).1.log = deliveries t.log ++ [.handle e] := by
  show deliveries (t.made _) = _
  rw [deliveries_made, filter_respondCalls]

omit [BEq η] in
theorem deliveries_render {t t' : Tape δ σ η} (hr : Tape.render env t = .ok t') :
    deliveries t'.log = deliveries t.log := by
  rcases render_cases hr with ⟨rfl, -⟩ | ⟨-, l', -, rfl | rfl⟩
  · rfl
  all_goals
    rw [deliveries_made]
    exact List.append_nil _

omit [BEq η] in
theorem deliveries_renderIf {r : Tape δ σ η × Bool} {t' : Tape δ σ η}
    (h : Tape.renderIf env r = .ok t') : deliveries t'.log = deliveries r.1.log :=
  renderIf_keeps (fun t' => deliveries t'.log = deliveries r.1.log)
    (fun _ _ hp hr => (deliveries_render hr).trans hp) rfl h

theorem deliveries_handle {t t' : Tape δ σ η} {e : Event η} (h : Tape.handle env t e = .ok t') :
    deliveries t'.log = deliveries t.log ++ [.handle e] :=
  (deliveries_renderIf (Tape.handle_eq_ok h)).trans (deliveries_respond t e)

theorem deliveries_foldlM_handle :
    ∀ (events : List (Event η)) {t t' : Tape δ σ η}, events.foldlM (Tape.handle env) t = .ok t' →
      deliveries t'.log = deliveries t.log ++ events.map .handle
  | [], t, t', h => by
    cases h
    exact (List.append_nil _).symm
  | e :: events, t, t', h => by
    rw [List.foldlM_cons] at h
    obtain ⟨t₁, h₁, h⟩ := Checked.bind_eq_ok.mp h
    rw [deliveries_foldlM_handle events h, deliveries_handle h₁, List.map_cons, List.append_assoc]
    rfl

/-- A dispatch delivers its batch. -/
theorem deliveries_dispatchQueued {t t' : Tape δ σ η} (hd : Tape.dispatchQueued env t = .ok t') :
    ∃ b, deliveries t'.log = deliveries t.log ++ Call.delivered b := by
  unfold Tape.dispatchQueued at hd
  generalize env.display.dispatch t.loop.display = r at hd
  obtain ⟨⟨events, res⟩, display⟩ := r
  refine ⟨events, ?_⟩
  rw [deliveries_foldlM_handle events hd, deliveries_made, List.append_assoc]
  rfl

end Tape

section

variable [BEq η] {env : RunLoop.Env δ σ η}

theorem Delivered.dispatchQueued {t t' : Tape δ σ η} (h : Delivered t.log)
    (hd : Tape.dispatchQueued env t = .ok t') : Delivered t'.log := by
  obtain ⟨batches, hb⟩ := h
  obtain ⟨b, hb'⟩ := Tape.deliveries_dispatchQueued hd
  exact ⟨batches ++ [b], by rw [hb', hb, List.flatMap_append, List.flatMap_singleton]⟩

omit [BEq η] in
theorem Delivered.render {t t' : Tape δ σ η} (h : Delivered t.log) (hr : Tape.render env t = .ok t') :
    Delivered t'.log := by
  obtain ⟨batches, hb⟩ := h
  exact ⟨batches, by rw [Tape.deliveries_render hr, hb]⟩

end

/-! ### Turns -/

namespace Tape

variable [BEq η] {env : RunLoop.Env δ σ η}

/-- The invariant of a taped run between its steps. -/
structure Steady (t : Tape δ σ η) : Prop where
  lawful : t.Lawful
  delivered : Delivered t.log

omit [BEq η] in
/-- A loop that is idle and made no call yet. -/
theorem steady_idle {l : RunLoop δ σ η} (hidle : l.state = .idle) : (⟨l, []⟩ : Tape δ σ η).Steady where
  lawful :=
    { sorted := List.Pairwise.nil
      bounded := fun _ he => absurd he List.not_mem_nil
      logged := fun hrun => absurd (hidle.symm.trans hrun) (by decide)
      firstRender := fun _ hc => by cases hc
      allowed := fun _ he => absurd he List.not_mem_nil }
  delivered := ⟨[], rfl⟩

omit [BEq η] in
/-- Calls that deliver nothing and may be made in any state before the shutdown keep the
invariant, made by a step that keeps the loop's state or ends the loop. -/
theorem Steady.made {t : Tape δ σ η} (h : t.Steady) {cs : List (Call η)}
    (hcs : ∀ c ∈ cs, c.needsRunning = false ∧ c.isShutdown = false ∧ c.isDelivery = false)
    {l' : RunLoop δ σ η} (hl : l'.state = t.loop.state ∨ l'.state = .terminating) :
    (⟨l', t.made cs⟩ : Tape δ σ η).Steady :=
  ⟨h.lawful.made (fun c hc => Call.allowed_of_background (hcs c hc).1 (hcs c hc).2.1 _) hl,
    h.delivered.append_quiet _ fun c hc => (hcs c hc).2.2⟩

theorem Steady.dispatchQueued {t t' : Tape δ σ η} (h : t.Steady)
    (hd : Tape.dispatchQueued env t = .ok t') : t'.Steady :=
  ⟨h.lawful.dispatchQueued hd, h.delivered.dispatchQueued hd⟩

omit [BEq η] in
theorem Steady.render {t t' : Tape δ σ η} (h : t.Steady) (hr : Tape.render env t = .ok t') :
    t'.Steady :=
  ⟨h.lawful.render hr, h.delivered.render hr⟩

omit [BEq η] in
theorem Steady.flushForWait {t : Tape δ σ η} (h : t.Steady) : (Tape.flushForWait env t).1.Steady := by
  refine h.made (fun c hc => ?_) (RunLoop.flushForWait_state env t.loop)
  rcases mem_flushCalls env hc with rfl | rfl <;> exact ⟨rfl, rfl, rfl⟩

omit [BEq η] in
theorem Steady.await {t t' : Tape δ σ η} (h : t.Steady) (hrun : t.loop.state = .running)
    (ha : Tape.await env t = .ok t') : t'.Steady := by
  have hw : (Tape.wake env t).1.Steady := by
    refine ⟨h.lawful.wake hrun, h.delivered.append_quiet _ fun c hc => ?_⟩
    rcases mem_wakeCalls env hc with rfl | rfl | rfl | rfl <;> rfl
  exact renderIf_keeps Steady (fun _ _ ht hr => ht.render hr) hw ha

/-- **Every turn keeps the invariant.** -/
theorem Steady.turn {spins : Nat} {t t' : Tape δ σ η} (h : t.Steady)
    (ht : Tape.turn env spins t = .ok t') : t'.Steady :=
  turn_keeps Steady
    (fun _ hs => hs.made (fun c hc => by rw [List.mem_singleton.mp hc]; exact ⟨rfl, rfl, rfl⟩) (.inl rfl))
    (fun _ _ hs hd => hs.dispatchQueued hd) (fun _ hs => hs.flushForWait)
    (fun _ _ hs hrun ha => hs.await hrun ha) h ht

theorem Steady.turns {spins n : Nat} {t t' : Tape δ σ η} (h : t.Steady)
    (ht : Tape.turns env spins n t = .ok t') : t'.Steady :=
  turns_keeps Steady (fun _ _ hs h => hs.turn h) n h ht

/-- The start of a loop that was idle and had made no call. -/
theorem steady_start {l : RunLoop δ σ η} {t : Tape δ σ η} (hidle : l.state = .idle)
    (h : Tape.start env ⟨l, []⟩ = .ok t) : t.Steady := by
  obtain ⟨t₁, h₁, ⟨hidle₁, hr⟩ | ⟨-, rfl⟩⟩ := start_cases h
  · have hs₁ := (steady_idle hidle).dispatchQueued h₁
    exact ⟨hs₁.lawful.render_first hidle₁ hr,
      Delivered.render (t := ⟨{ t₁.loop with state := .running }, t₁.log⟩) hs₁.delivered hr⟩
  · exact (steady_idle hidle).dispatchQueued h₁

end Tape

/-! ### Whether the loop ran -/

namespace Tape

variable [BEq η] {env : RunLoop.Env δ σ η}

/-- A loop that does not run and made no call while running. -/
def NeverRan (t : Tape δ σ η) : Prop := t.loop.state ≠ .running ∧ ∀ e ∈ t.log, e.1 ≠ .running

omit [BEq η] in
theorem NeverRan.made {t : Tape δ σ η} (h : t.NeverRan) (cs : List (Call η)) {l' : RunLoop δ σ η}
    (hl : l'.state = t.loop.state ∨ l'.state = .terminating) : NeverRan ⟨l', t.made cs⟩ := by
  refine ⟨?_, fun e he => ?_⟩
  · rcases hl with hl | hl <;> rw [hl]
    · exact h.1
    · exact nofun
  · rcases List.mem_append.mp he with he | he
    · exact h.2 e he
    · obtain ⟨c, -, rfl⟩ := List.mem_map.mp he
      exact h.1

omit [BEq η] in
theorem NeverRan.render {t t' : Tape δ σ η} (h : t.NeverRan) (hr : Tape.render env t = .ok t') :
    t'.NeverRan := by
  rcases render_cases hr with ⟨rfl, -⟩ | ⟨hrun, -⟩
  · exact h
  · exact absurd hrun h.1

/-- Dispatching does not set a loop running. -/
theorem NeverRan.dispatchQueued {t t' : Tape δ σ η} (h : t.NeverRan)
    (hd : Tape.dispatchQueued env t = .ok t') : t'.NeverRan :=
  dispatchQueued_keeps NeverRan (fun _ hn => ⟨nofun, hn.2⟩)
    (fun t e hn => hn.made _ (RunLoop.respond_state env t.loop e)) (fun _ _ hn hr => hn.render hr)
    (h.made _ (.inl rfl)) hd

omit [BEq η] in
theorem prefix_render {t t' : Tape δ σ η} (hr : Tape.render env t = .ok t') : t.log <+: t'.log := by
  rcases render_cases hr with ⟨rfl, -⟩ | ⟨-, l', -, rfl | rfl⟩
  · exact List.prefix_refl _
  all_goals exact List.prefix_append _ _

/-- **A turn only appends to the log.** -/
theorem prefix_turn {spins : Nat} {pre : List (LoopState × Call η)} {t t' : Tape δ σ η}
    (hp : pre <+: t.log) (ht : Tape.turn env spins t = .ok t') : pre <+: t'.log := by
  have hdispatch : ∀ t t' : Tape δ σ η, pre <+: t.log → Tape.dispatchQueued env t = .ok t' →
      pre <+: t'.log :=
    fun _ _ hp hd => dispatchQueued_keeps (fun t => pre <+: t.log) (fun _ hp => hp)
      (fun _ _ hp => hp.trans (List.prefix_append _ _)) (fun _ _ hp hr => hp.trans (prefix_render hr))
      (hp.trans (List.prefix_append _ _)) hd
  exact turn_keeps (fun t => pre <+: t.log) (fun _ hp => hp.trans (List.prefix_append _ _)) hdispatch
    (fun _ hp => hp.trans (List.prefix_append _ _))
    (fun _ _ hp _ ha => renderIf_keeps (fun t => pre <+: t.log)
      (fun _ _ hp hr => hp.trans (prefix_render hr)) (hp.trans (List.prefix_append _ _)) ha) hp ht

theorem prefix_turns {spins n : Nat} {t t' : Tape δ σ η} (ht : Tape.turns env spins n t = .ok t') :
    t.log <+: t'.log :=
  turns_keeps (fun t' => t.log <+: t'.log) (fun _ _ hp h => prefix_turn hp h) n (List.prefix_refl _) ht

/-- **The loop runs exactly when the handshake's events leave it idle.** Only the start sets it
running, and a start whose dispatch ended the loop leaves nothing for the turns to do. -/
theorem ran_iff {spins limit : Nat} {l : RunLoop δ σ η} {t₁ t₂ : Tape δ σ η}
    (hidle : l.state = .idle) (h₁ : Tape.start env ⟨l, []⟩ = .ok t₁)
    (h₂ : Tape.turns env spins limit t₁ = .ok t₂) :
    (∃ e ∈ t₂.log, e.1 = .running) ↔ ∃ l₁, RunLoop.dispatchQueued env l = .ok l₁ ∧ l₁.state = .idle := by
  obtain ⟨t₀, h₀, hstart⟩ := start_cases h₁
  have hl₀ : RunLoop.dispatchQueued env l = .ok t₀.loop := by
    rw [← loop_dispatchQueued env ⟨l, []⟩, h₀]
    rfl
  rcases hstart with ⟨hidle₀, hr⟩ | ⟨hne, rfl⟩
  · -- the forced frame is laid out while running, and stays in the log
    refine ⟨fun _ => ⟨t₀.loop, hl₀, hidle₀⟩, fun _ => ?_⟩
    rcases render_cases hr with ⟨-, hne⟩ | ⟨-, l', -, rfl | rfl⟩
    · exact absurd rfl hne
    all_goals
      exact ⟨(.running, .render), (prefix_turns h₂).subset (List.mem_append_right _ List.mem_cons_self),
        rfl⟩
  · -- the handshake ended the loop: nothing ran, and the turns stop at once
    have hn : t₁.NeverRan := (show (⟨l, []⟩ : Tape δ σ η).NeverRan from
      ⟨fun hrun => absurd (hidle.symm.trans hrun) (by decide), fun _ he => absurd he List.not_mem_nil⟩)
      |>.dispatchQueued h₀
    rw [turns_of_not_running hn.1] at h₂
    cases h₂
    refine ⟨fun ⟨e, he, hre⟩ => absurd hre (hn.2 e he), ?_⟩
    rintro ⟨l₁, hl₁, hidle₁⟩
    rw [hl₀] at hl₁
    cases hl₁
    exact absurd hidle₁ hne

end Tape

/-! ### What the loop keeps of its panel -/

namespace Tape

variable [BEq η]

/-- A property of panels that the loop's own changes to its panel keep: answering an event,
taking the pending flag, and a render with the loop's engine. -/
structure PanelKeeps (env : RunLoop.Env δ σ η) (Q : Panel η → Prop) : Prop where
  handle : ∀ (p : Panel η) (e : Event η), Q p → Q (p.handle e).1
  takePending : ∀ p : Panel η, Q p → Q p.takePending.1
  renders : ∀ {p p' : Panel η} {pool pool' : Pool PixelBuffer} {mem mem' : δ} {frame : Option Frame},
    Q p → p.render pool env.display.buffers mem env.engine env.now = .ok (p', pool', mem', frame) →
      Q p'

namespace PanelKeeps

variable {env : RunLoop.Env δ σ η} {Q : Panel η → Prop}

/-- Answering an event changes the panel as the panel answers it, and a release takes the
pending flag. -/
theorem respond (hQ : PanelKeeps env Q) {t : Tape δ σ η} (h : Q t.loop.panel) (e : Event η) :
    Q (Tape.respond env t e).1.loop.panel := by
  have hq := hQ.handle _ e h
  show Q (RunLoop.respond env t.loop e).1.panel
  unfold RunLoop.respond
  generalize t.loop.panel.handle e = r at hq
  obtain ⟨panel, out, rel⟩ := r
  cases out with
  | activate k seat =>
    dsimp only
    split <;> exact hq
  | bufferReleased slot => exact hQ.takePending _ hq
  | _ => exact hq

theorem render (hQ : PanelKeeps env Q) {t t' : Tape δ σ η} (h : Q t.loop.panel)
    (hr : Tape.render env t = .ok t') : Q t'.loop.panel := by
  unfold Tape.render at hr
  by_cases hrun : (t.loop.state != .running) = true
  · rw [if_pos hrun] at hr
    cases hr
    exact h
  · rw [if_neg hrun] at hr
    obtain ⟨⟨panel, pool, display, frame?⟩, hp, hr⟩ := Checked.bind_eq_ok.mp hr
    have hq := hQ.renders h hp
    cases frame? <;> cases hr <;> exact hq

theorem dispatchQueued (hQ : PanelKeeps env Q) {t t' : Tape δ σ η} (h : Q t.loop.panel)
    (hd : Tape.dispatchQueued env t = .ok t') : Q t'.loop.panel :=
  dispatchQueued_keeps (fun t => Q t.loop.panel) (fun _ hq => hq) (fun _ e hq => hQ.respond hq e)
    (fun _ _ hq hr => hQ.render hq hr) h hd

/-- **Every turn keeps the property of the panel**: announcing a read, flushing and waiting touch
the display and the sources only. -/
theorem turns (hQ : PanelKeeps env Q) {spins n : Nat} {t t' : Tape δ σ η} (h : Q t.loop.panel)
    (ht : Tape.turns env spins n t = .ok t') : Q t'.loop.panel := by
  have hflush : ∀ t : Tape δ σ η, (Tape.flushForWait env t).1.loop.panel = t.loop.panel := by
    intro t
    obtain ⟨display, hf | hf⟩ := RunLoop.flushForWait_frame env t.loop <;>
      · have := congrArg RunLoop.panel hf
        exact this
  have hwake : ∀ t : Tape δ σ η, (Tape.wake env t).1.loop.panel = t.loop.panel := by
    intro t
    obtain ⟨display, sources, hw | hw⟩ := RunLoop.wake_frame env t.loop <;>
      · have := congrArg RunLoop.panel hw
        exact this
  refine turns_keeps (fun t => Q t.loop.panel) (fun _ _ hq h => ?_) n h ht
  exact turn_keeps (fun t => Q t.loop.panel) (fun _ hq => hq) (fun _ _ hq hd => hQ.dispatchQueued hq hd)
    (fun t hq => show Q (Tape.flushForWait env t).1.loop.panel by rw [hflush]; exact hq)
    (fun t _ hq _ ha => renderIf_keeps (fun t => Q t.loop.panel) (fun _ _ hq hr => hQ.render hq hr)
      (show Q (Tape.wake env t).1.loop.panel by rw [hwake]; exact hq) ha) hq h

theorem start (hQ : PanelKeeps env Q) {t t' : Tape δ σ η} (h : Q t.loop.panel)
    (hs : Tape.start env t = .ok t') : Q t'.loop.panel := by
  obtain ⟨t₁, h₁, ⟨-, hr⟩ | ⟨-, rfl⟩⟩ := start_cases hs
  · have hq₁ := hQ.dispatchQueued h h₁
    exact hQ.render (t := ⟨{ t₁.loop with state := .running }, t₁.log⟩) hq₁ hr
  · exact hQ.dispatchQueued h h₁

end PanelKeeps

end Tape

/-! ### The registry along a run -/

namespace Panel

variable [BEq η]

omit [BEq η] in
theorem windows_applyOutputScale (p : Panel η) : p.applyOutputScale.1.windows = p.windows := by
  rw [applyOutputScale_fst]

theorem handle_button_fst (p : Panel η) (seat serial : Nat) (down : Bool) :
    (p.handle (.button seat serial down)).1 = p := by
  simp only [handle]
  split
  · rfl
  · split
    · rfl
    · split <;> rfl

/-- Updating a tracked window through `onWindow`. -/
theorem onWindow_modify (p : Panel η) (id : η) (f : Tracked η → Tracked η) :
    (p.onWindow (p.windows.modify? id f)).1.windows = p.windows ∨
      p.windows.modify? id f = some (p.onWindow (p.windows.modify? id f)).1.windows := by
  cases h : p.windows.modify? id f with
  | none => exact .inl rfl
  | some r => exact .inr rfl

/-- **An event changes the tracked windows by at most one operation of the registry**: a report,
an update of a tracked window that keeps its handle, or a removal. -/
theorem handle_windows (p : Panel η) (e : Event η) :
    (p.handle e).1.windows = p.windows ∨ (∃ id, (p.handle e).1.windows = (p.windows.report id).1) ∨
      (∃ id f, (∀ w, (f w).id = w.id) ∧ p.windows.modify? id f = some (p.handle e).1.windows) ∨
      ∃ id rel, p.windows.remove id = some ((p.handle e).1.windows, rel) := by
  cases e with
  | appeared id => exact .inr (.inl ⟨id, rfl⟩)
  | title id t =>
    rcases onWindow_modify p id (fun w => { w with title := some t }) with h | h
    · exact .inl h
    · exact .inr (.inr (.inl ⟨id, fun w => { w with title := some t }, fun _ => rfl, h⟩))
  | appId id a =>
    rcases onWindow_modify p id (fun w => { w with appId := some a }) with h | h
    · exact .inl h
    · exact .inr (.inr (.inl ⟨id, fun w => { w with appId := some a }, fun _ => rfl, h⟩))
  | state id s =>
    rcases onWindow_modify p id (fun w => { w with active := s.active }) with h | h
    · exact .inl h
    · exact .inr (.inr (.inl ⟨id, fun w => { w with active := s.active }, fun _ => rfl, h⟩))
  | closed id =>
    cases h : p.windows.remove id with
    | none =>
      left
      simp only [handle, h]
    | some x =>
      obtain ⟨r, rel⟩ := x
      refine .inr (.inr (.inr ⟨id, rel, ?_⟩))
      simp only [handle, h]
  | surfaceEnter o =>
    left
    rw [handle_surfaceEnter, windows_applyOutputScale]
    split <;> rfl
  | outputSelected o =>
    left
    rw [handle_outputSelected, windows_applyOutputScale]
  | outputScale o f =>
    left
    by_cases h : p.activeOutput = some o
    · rw [handle_outputScale_of_active f h, windows_applyOutputScale]
      rfl
    · rw [handle_outputScale_of_inactive f h]
      rfl
  | outputRemoved o =>
    left
    rw [handle_outputRemoved]
  | button seat serial down => exact .inl (by rw [handle_button_fst])
  | _ => exact .inl rfl

end Panel

section Registry

variable [DecidableEq η]

theorem Panel.windows_consistent_handle {p : Panel η} (hc : p.windows.Consistent) (e : Event η) :
    (p.handle e).1.windows.Consistent := by
  rcases Panel.handle_windows p e with h | ⟨id, h⟩ | ⟨id, f, hf, h⟩ | ⟨id, rel, h⟩
  · rwa [h]
  · rw [h]
    exact hc.report id
  · exact hc.modify? h hf
  · exact hc.remove h

namespace Tape

variable {env : RunLoop.Env δ σ η}

/-- The registry of a taped run's panel is consistent. -/
def WindowsConsistent (t : Tape δ σ η) : Prop := t.loop.panel.windows.Consistent

/-- Every change the loop makes to its panel keeps its registry consistent: a render touches the
widgets and flags only. -/
theorem windowsConsistent_keeps : PanelKeeps env fun p : Panel η => p.windows.Consistent where
  handle _ e hc := Panel.windows_consistent_handle hc e
  takePending _ hc := hc
  renders hc hr := by
    obtain ⟨widgets, faults, pending, rfl⟩ := Panel.render_panel hr
    exact hc

end Tape

end Registry

/-! ### Whole runs -/

namespace RunLoop

variable [BEq η] (env : Env δ σ η)

omit [BEq η] in
theorem shutdown_windows (l : RunLoop δ σ η) :
    (shutdown env l).panel.windows = l.panel.windows.clear.1 := rfl

end RunLoop

namespace Tape

section Orderly

variable [BEq η]

/-- What a whole run of the loop `l` promises about its calls, read off its tape `t`. -/
structure Orderly (env : RunLoop.Env δ σ η) (l : RunLoop δ σ η) (t : Tape δ σ η) : Prop where
  /-- The loop's state only moves from idle to running to terminating. -/
  sorted : (t.log.map (·.1)).Pairwise fun a b => a.rank ≤ b.rank
  terminated : t.loop.state = .terminating
  /-- The loop runs at all exactly when the events the handshake queued leave it idle. -/
  runs_iff : (∃ e ∈ t.log, e.1 = .running) ↔
    ∃ l₁, RunLoop.dispatchQueued env l = .ok l₁ ∧ l₁.state = .idle
  /-- Its first call while running lays out the forced frame. -/
  firstRender : FirstRender t.log
  /-- Frames are submitted, the sources waited on and clock ticks consumed only while running. -/
  running : ∀ e ∈ t.log, e.2.needsRunning = true → e.1 = .running
  delivered : Delivered t.log
  /-- The run ends by releasing the handle of every window the registry tracks, in order, then
  the pool's buffers, and only then shuts the connection down, once. -/
  shutdown : ∃ (pre : List (LoopState × Call η)) (l₂ : RunLoop δ σ η),
    (∀ e ∈ pre, e.2.isShutdown = false) ∧ t.loop = RunLoop.shutdown env l₂ ∧
      t.log = pre ++ ((l₂.panel.windows.entries.map fun w : WindowKey × Tracked η => Call.release w.2.id) ++
        [Call.clearPool, Call.shutdown]).map fun c => (.terminating, c)
  /-- After it the registry tracks nothing and the pool holds no buffer. -/
  emptied : t.loop.panel.windows.entries = [] ∧ t.loop.pool = {}

end Orderly

variable [DecidableEq η] {env : RunLoop.Env δ σ η}

/-- **The shutdown completes a steady run.** -/
theorem Steady.orderly {l : RunLoop δ σ η} {t : Tape δ σ η} (h : t.Steady) (hc : t.WindowsConsistent)
    (hran : (∃ e ∈ t.log, e.1 = .running) ↔
      ∃ l₁, RunLoop.dispatchQueued env l = .ok l₁ ∧ l₁.state = .idle) :
    (shutdown env t).Orderly env l := by
  have hnew : ∀ e ∈ (shutdownCalls t.loop).map (fun c => ((LoopState.terminating, c) : LoopState × Call η)),
      e.1 = .terminating ∧ e.2.needsRunning = false ∧ e.2.isDelivery = false := by
    intro e he
    obtain ⟨c, hc, rfl⟩ := List.mem_map.mp he
    refine ⟨rfl, ?_⟩
    rcases List.mem_append.mp hc with hc | hc
    · obtain ⟨id, -, rfl⟩ := List.mem_map.mp hc
      exact ⟨rfl, rfl⟩
    · simp only [List.mem_cons, List.mem_nil_iff, or_false] at hc
      rcases hc with rfl | rfl <;> exact ⟨rfl, rfl⟩
  refine ⟨?_, rfl, ?_, ?_, ?_, ?_, ?_, ?_⟩
  · -- the shutdown's calls come last, all while terminating
    show ((t.log ++ _).map (·.1)).Pairwise _
    rw [List.map_append, List.pairwise_append]
    refine ⟨h.lawful.sorted, pairwise_rank_const _ _, ?_⟩
    intro a _ b hb
    obtain ⟨e, he, rfl⟩ := List.mem_map.mp hb
    rw [(hnew e he).1]
    exact LoopState.rank_le_terminating a
  · refine Iff.trans ⟨fun ⟨e, he, hre⟩ => ?_, fun ⟨e, he, hre⟩ => ⟨e, List.mem_append_left _ he, hre⟩⟩ hran
    rcases List.mem_append.mp he with he | he
    · exact ⟨e, he, hre⟩
    · rw [(hnew e he).1] at hre
      cases hre
  · refine h.lawful.firstRender.append_not_running fun e he => ?_
    rw [(hnew e he).1]
    exact nofun
  · intro e he hneeds
    rcases List.mem_append.mp he with he | he
    · exact (h.lawful.allowed e he).1 hneeds
    · rw [(hnew e he).2.1] at hneeds
      cases hneeds
  · exact h.delivered.append_quiet _ fun c hc => by
      obtain ⟨-, -, hd⟩ := hnew (.terminating, c) (List.mem_map.mpr ⟨c, hc, rfl⟩)
      exact hd
  · -- the releases are those of the registry's clear, which are every tracked handle
    refine ⟨t.log, t.loop, fun e he => (h.lawful.allowed e he).2, rfl, ?_⟩
    show t.log ++ _ = _
    rw [shutdownCalls, hc.clear_released, List.map_map]
    rfl
  · refine ⟨?_, rfl⟩
    show (RunLoop.shutdown env t.loop).panel.windows.entries = []
    rw [RunLoop.shutdown_windows, Registry.clear_eq]
    rfl

end Tape

/-- **Every run keeps to its phases.** On the tape of any run of a loop that starts idle with a
consistent registry and returns: the state only moves from idle to running to terminating; the
loop runs exactly when the handshake's events leave it idle, and then its first call while
running lays out the forced frame; frames are submitted, the sources waited on and ticks consumed
only while running; each dispatched event is handed to the panel once, in order, right after its
dispatch; and the run ends in the terminating state, with the release of every tracked handle,
the pool's buffers and then the only shutdown of the connection, leaving the registry and the
pool empty. -/
theorem RunLoop.run_orderly [DecidableEq η] {env : RunLoop.Env δ σ η} {spins limit : Nat}
    {l l' : RunLoop δ σ η} (hidle : l.state = .idle) (hc : l.panel.windows.Consistent)
    (h : RunLoop.run env spins limit l = .ok l') :
    ∃ t, Tape.run env spins limit ⟨l, []⟩ = .ok t ∧ t.loop = l' ∧ t.Orderly env l := by
  obtain ⟨t, ht, rfl⟩ := Tape.exists_run env h
  obtain ⟨t₁, t₂, h₁, h₂, rfl⟩ := Tape.run_cases ht
  refine ⟨_, ht, rfl, ?_⟩
  have hs₂ : t₂.Steady := (Tape.steady_start hidle h₁).turns h₂
  have hc₂ : t₂.WindowsConsistent :=
    Tape.windowsConsistent_keeps.turns (Tape.windowsConsistent_keeps.start (t := ⟨l, []⟩) hc h₁) h₂
  exact hs₂.orderly hc₂ (Tape.ran_iff hidle h₁ h₂)

/-- A replayed run configured to 9 by 4 that reports window 1, submits its frame, reads a press of
seat 0 over the window's button and activates the window, then shuts down, releasing the window's
handle: it keeps to its phases. -/
theorem RunLoop.run_orderly_configured :
    ({ display :=
         { queue := [.configure 9 4, .appeared 1, .title 1 "a", Event.done 1]
           batches := [[.pointerEnter 0 (Binary.Datum.ofInt 8) (Binary.Datum.ofInt 2),
             .button 0 0 true]] }
       sources := { script := [{ protocol := true }] }
       panel := Panel.ofState (PanelState.ofSettings {}) } :
        RunLoop Replay ReplaySources Nat).state = .idle ∧
      (Panel.ofState (PanelState.ofSettings {}) : Panel Nat).windows.Consistent ∧
      ∃ l', RunLoop.run (Replay.env ⟨12, 0, 0, 0⟩) 4 3
          { display :=
              { queue := [.configure 9 4, .appeared 1, .title 1 "a", Event.done 1]
                batches := [[.pointerEnter 0 (Binary.Datum.ofInt 8) (Binary.Datum.ofInt 2),
                  .button 0 0 true]] }
            sources := { script := [{ protocol := true }] }
            panel := Panel.ofState (PanelState.ofSettings {}) } = .ok l' ∧
        l'.display.frames.size = 1 ∧ l'.display.activations = #[(1, 0)] ∧
        l'.display.released = #[1] ∧
        ∃ t, Tape.run (Replay.env ⟨12, 0, 0, 0⟩) 4 3
            ⟨{ display :=
                 { queue := [.configure 9 4, .appeared 1, .title 1 "a", Event.done 1]
                   batches := [[.pointerEnter 0 (Binary.Datum.ofInt 8) (Binary.Datum.ofInt 2),
                     .button 0 0 true]] }
               sources := { script := [{ protocol := true }] }
               panel := Panel.ofState (PanelState.ofSettings {}) }, []⟩ = .ok t ∧ t.loop = l' ∧
          t.Orderly (Replay.env ⟨12, 0, 0, 0⟩)
            { display :=
                { queue := [.configure 9 4, .appeared 1, .title 1 "a", Event.done 1]
                  batches := [[.pointerEnter 0 (Binary.Datum.ofInt 8) (Binary.Datum.ofInt 2),
                    .button 0 0 true]] }
              sources := { script := [{ protocol := true }] }
              panel := Panel.ofState (PanelState.ofSettings {}) } := by
  -- the run, evaluated: one frame, one activation, and the window's handle released
  have hrun : ((RunLoop.run (Replay.env ⟨12, 0, 0, 0⟩) 4 3
      { display :=
          { queue := [.configure 9 4, .appeared 1, .title 1 "a", Event.done 1]
            batches := [[.pointerEnter 0 (Binary.Datum.ofInt 8) (Binary.Datum.ofInt 2),
              .button 0 0 true]] }
        sources := { script := [{ protocol := true }] }
        panel := Panel.ofState (PanelState.ofSettings {}) }).toOption.any
      fun l => l.display.frames.size == 1 && l.display.activations == #[(1, 0)] &&
        l.display.released == #[1]) = true := by
    set_option maxRecDepth 100000 in decide +kernel
  obtain ⟨l', hl', hdone⟩ := Checked.exists_of_any hrun
  simp only [Bool.and_eq_true, beq_iff_eq] at hdone
  obtain ⟨⟨hframes, hact⟩, hrel⟩ := hdone
  exact ⟨rfl, Registry.consistent_empty, l', hl', hframes, hact, hrel,
    RunLoop.run_orderly rfl Registry.consistent_empty hl'⟩

end DeskPanel
