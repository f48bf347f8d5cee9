import DeskPanel.Proofs.LoopPhases

/-!
# The two phases of a read

Reading from the display connection takes two calls. A read is first announced, which the
display refuses while it still holds queued events; an announced read must then be completed,
by reading or by cancelling it, exactly once, before the loop announces another read,
dispatches, lays out a frame or shuts down. Between the two phases the loop only flushes and
waits on its sources; it never reads, cancels a read or waits without a read announced.

The protocol is a two-state automaton over the loop's calls (`Call.readStep`), whose state says
whether an announced read is pending. `ReadsInTurn` spells out what it means for a whole
sequence of calls, and `ReadsInTurn.of_readPhase` shows that the automaton accepting a sequence
and ending with no read pending gives it.

A turn dispatches first, so over a display whose dispatch drains its queue (`Env.Drains`) the
read is announced at once; each of the turn's exits then completes it once: a loop that stopped
running cancels it, a failed flush cancels it, a failed wait cancels it, and otherwise the wait
is followed by one read or cancelled read, whatever the readiness set.

## Main definitions

* `Call.readStep`, `readPhase` — the protocol's automaton.
* `Outstanding`, `ReadsInTurn` — the protocol, on a sequence of calls.
* `RunLoop.Env.Drains` — a display whose dispatch drains its queue.

## Main results

* `ReadsInTurn.of_readPhase` — what the automaton accepts keeps the protocol.
* `Tape.Closed.turn` — a turn completes every read it announces.
* `RunLoop.run_reads_in_turn` — every run keeps the protocol.
-/

namespace DeskPanel

/-! ### The protocol -/

namespace Call

variable {η : Type}

/-- One call of the read protocol, from whether an announced read is pending; `none` marks a
call the protocol forbids. With a read pending only a flush, a wait, a read or a cancelled read
may come; without one, a read may be announced, and reads, cancelled reads and waits may not
come. -/
def readStep : Bool → Call η → Option Bool
  | true, .read => some false
  | true, .cancelRead => some false
  | true, .flush => some true
  | true, .wait => some true
  | true, _ => none
  | false, .prepareRead ok => some ok
  | false, .read => none
  | false, .cancelRead => none
  | false, .wait => none
  | false, _ => some false

/-- A call allowed with no read pending, which leaves none pending. -/
def Quiet (c : Call η) : Prop := c.readStep false = some false

theorem readStep_true_eq_true {c : Call η} (h : c.readStep true = some true) :
    c = .flush ∨ c = .wait := by
  cases c <;> first | exact .inl rfl | exact .inr rfl | cases h

theorem readStep_false_eq_true {c : Call η} (h : c.readStep false = some true) :
    c = .prepareRead true := by
  cases c with
  | prepareRead ok =>
    cases h
    rfl
  | _ => cases h

theorem readStep_false_of_reading {c : Call η} (hc : c = .read ∨ c = .cancelRead ∨ c = .wait) :
    c.readStep false = none := by
  rcases hc with rfl | rfl | rfl <;> rfl

end Call

variable {η : Type}

/-- The state of the read protocol after a sequence of calls, from no read pending; `none` once
a call breaks it. -/
def readPhase (cs : List (Call η)) : Option Bool := cs.foldlM Call.readStep false

theorem readPhase_append (cs cs' : List (Call η)) :
    readPhase (cs ++ cs') = readPhase cs >>= fun b => cs'.foldlM Call.readStep b :=
  List.foldlM_append

theorem readPhase_append_eq_some {cs cs' : List (Call η)} {b : Bool}
    (h : readPhase (cs ++ cs') = some b) :
    ∃ b₀, readPhase cs = some b₀ ∧ cs'.foldlM Call.readStep b₀ = some b := by
  rw [readPhase_append] at h
  exact Option.bind_eq_some_iff.mp h

/-- Quiet calls leave no read pending. -/
theorem foldlM_quiet : ∀ {cs : List (Call η)}, (∀ c ∈ cs, c.Quiet) →
    cs.foldlM Call.readStep false = some false
  | [], _ => rfl
  | c :: cs, h => by
    rw [List.foldlM_cons, show Call.readStep false c = some false from h c List.mem_cons_self]
    exact foldlM_quiet fun c hc => h c (List.mem_cons_of_mem _ hc)

/-- An announced read is pending: the last successful announcement is followed only by flushes
and waits. -/
def Outstanding (cs : List (Call η)) : Prop :=
  ∃ pre post, cs = pre ++ .prepareRead true :: post ∧ ∀ c ∈ post, c = .flush ∨ c = .wait

/-- The two-phase read protocol, on a sequence of calls. -/
structure ReadsInTurn (cs : List (Call η)) : Prop where
  /-- A successful announcement is completed by one read or cancelled read, with only flushes
  and waits before it. -/
  completed : ∀ pre post, cs = pre ++ .prepareRead true :: post →
    ∃ mid c rest, post = mid ++ c :: rest ∧ (c = .read ∨ c = .cancelRead) ∧
      ∀ x ∈ mid, x = .flush ∨ x = .wait
  /-- Reads, cancelled reads and waits come only with an announced read pending. -/
  announced : ∀ pre c post, cs = pre ++ c :: post → (c = .read ∨ c = .cancelRead ∨ c = .wait) →
    Outstanding pre

/-- Calls that leave a read pending either only flushed and waited on one pending before them,
or announced it themselves. -/
theorem outstanding_of_foldlM :
    ∀ {cs : List (Call η)} {b : Bool}, cs.foldlM Call.readStep b = some true →
      (b = true ∧ ∀ c ∈ cs, c = .flush ∨ c = .wait) ∨ Outstanding cs
  | [], b, h => by
    cases h
    exact .inl ⟨rfl, nofun⟩
  | c :: cs, b, h => by
    rw [List.foldlM_cons] at h
    obtain ⟨b', hc, h⟩ := Option.bind_eq_some_iff.mp h
    rcases outstanding_of_foldlM h with ⟨rfl, hcs⟩ | ⟨pre, post, rfl, hpost⟩
    · cases b with
      | false =>
        -- this call announced the read
        rw [Call.readStep_false_eq_true hc]
        exact .inr ⟨[], cs, rfl, hcs⟩
      | true =>
        refine .inl ⟨rfl, fun x hx => ?_⟩
        rcases List.mem_cons.mp hx with rfl | hx
        · exact Call.readStep_true_eq_true hc
        · exact hcs x hx
    · exact .inr ⟨c :: pre, post, rfl, hpost⟩

/-- The automaton's pending state is an outstanding read. -/
theorem outstanding_of_readPhase {cs : List (Call η)} (h : readPhase cs = some true) :
    Outstanding cs := by
  rcases outstanding_of_foldlM h with ⟨hb, -⟩ | h
  · cases hb
  · exact h

/-- From a pending read, calls that end with none pending complete it once, after flushes and
waits. -/
theorem completed_of_foldlM :
    ∀ {post : List (Call η)}, post.foldlM Call.readStep true = some false →
      ∃ mid c rest, post = mid ++ c :: rest ∧ (c = .read ∨ c = .cancelRead) ∧
        ∀ x ∈ mid, x = .flush ∨ x = .wait
  | [], h => by cases h
  | c :: post, h => by
    rw [List.foldlM_cons] at h
    cases c with
    | read => exact ⟨[], .read, post, rfl, .inl rfl, nofun⟩
    | cancelRead => exact ⟨[], .cancelRead, post, rfl, .inr rfl, nofun⟩
    | flush =>
      obtain ⟨mid, c, rest, rfl, hc, hmid⟩ := completed_of_foldlM h
      refine ⟨.flush :: mid, c, rest, rfl, hc, fun x hx => ?_⟩
      rcases List.mem_cons.mp hx with rfl | hx
      · exact .inl rfl
      · exact hmid x hx
    | wait =>
      obtain ⟨mid, c, rest, rfl, hc, hmid⟩ := completed_of_foldlM h
      refine ⟨.wait :: mid, c, rest, rfl, hc, fun x hx => ?_⟩
      rcases List.mem_cons.mp hx with rfl | hx
      · exact .inr rfl
      · exact hmid x hx
    | _ => cases h

/-- **What the automaton accepts keeps the protocol.** -/
theorem ReadsInTurn.of_readPhase {cs : List (Call η)} (h : readPhase cs = some false) :
    ReadsInTurn cs where
  completed pre post hcs := by
    rw [hcs] at h
    obtain ⟨b, -, hb⟩ := readPhase_append_eq_some h
    rw [List.foldlM_cons] at hb
    -- an announcement is accepted only with no read pending, and leaves one pending
    cases b with
    | false => exact completed_of_foldlM hb
    | true => cases hb
  announced pre c post hcs hc := by
    rw [hcs] at h
    obtain ⟨b, hpre, hb⟩ := readPhase_append_eq_some h
    rw [List.foldlM_cons] at hb
    cases b with
    | false =>
      rw [Call.readStep_false_of_reading hc] at hb
      cases hb
    | true => exact outstanding_of_readPhase hpre

/-! ### Displays that drain their queue -/

variable {δ σ : Type}

namespace Panel

variable {p p' : Panel η} {pool pool' : Pool PixelBuffer} {alloc : Allocator σ PixelBuffer}
  {mem mem' : σ} {engine : TextEngine} {now : TimeOfDay} {frame : Option Frame}

/-- A render touches the allocator's state only by making and dropping buffers. -/
theorem render_keeps_mem (Q : σ → Prop)
    (hmake : ∀ {i w h s made s'}, Q s → alloc.make i w h s = .ok (made, s') → Q s')
    (hdrop : ∀ b {s}, Q s → Q (alloc.drop b s)) (hq : Q mem)
    (h : p.render pool alloc mem engine now = .ok (p', pool', mem', frame)) : Q mem' := by
  unfold render at h
  dsimp only at h
  split at h
  · cases h
    exact hq
  split at h
  case h_2 =>
    cases h
    exact hq
  obtain ⟨_, -, h⟩ := Checked.bind_eq_ok.mp h
  obtain ⟨⟨slot?, pool₁, mem₁⟩, hacq, h⟩ := Checked.bind_eq_ok.mp h
  have hq₁ : Q mem₁ := by
    rcases Pool.acquire_state hacq with rfl | ⟨i, made, -, hm⟩
    · exact hq
    · refine hmake ?_ hm
      cases pool.slots[i] with
      | none => exact hq
      | some a => exact hdrop a.buffer hq
  -- every exit returns the state the acquire left
  cases slot? with
  | none =>
    cases h
    exact hq₁
  | some i =>
    dsimp only at h
    split at h
    · split at h
      · obtain ⟨_, -, h⟩ := Checked.bind_eq_ok.mp h
        cases h
        exact hq₁
      · cases h
        exact hq₁
    · cases h
      exact hq₁

end Panel

namespace RunLoop

/-- A display whose dispatch drains what it holds, which accepts the announcement of a read once
drained, and whose calls while answering events keep it drained. -/
structure Env.Drains (env : Env δ σ η) (drained : δ → Prop) : Prop where
  dispatch : ∀ d, drained (env.display.dispatch d).2
  prepareRead : ∀ d, drained d → (env.display.prepareRead d).1 = true
  submit : ∀ d f, drained d → drained (env.display.submit d f)
  activate : ∀ d id seat, drained d → drained (env.display.activate d id seat)
  release : ∀ d id, drained d → drained (env.display.release d id)
  make : ∀ {i w h d made d'}, drained d → env.display.buffers.make i w h d = .ok (made, d') →
    drained d'
  drop : ∀ b {d}, drained d → drained (env.display.buffers.drop b d)

variable {env : Env δ σ η} {drained : δ → Prop}

theorem Env.Drains.releaseAll (hd : env.Drains drained) {d : δ} (h : drained d) :
    ∀ hs : List η, drained (hs.foldl env.display.release d)
  | [] => h
  | x :: hs => by
    rw [List.foldl_cons]
    exact hd.releaseAll (hd.release d x h) hs

theorem Env.Drains.respond [BEq η] (hd : env.Drains drained) {l : RunLoop δ σ η} (h : drained l.display)
    (e : Event η) : drained (respond env l e).1.display := by
  unfold RunLoop.respond
  generalize l.panel.handle e = r
  obtain ⟨panel, out, rel⟩ := r
  -- releasing the handles and activating a window keep the display drained
  have hrel : drained (RunLoop.releaseAll env { l with panel } rel).display := hd.releaseAll h rel
  cases out with
  | activate k seat =>
    dsimp only
    split
    · exact hd.activate _ _ _ hrel
    · exact hrel
  | _ => exact hrel

end RunLoop

/-- The replayed display drains its queue at each dispatch. -/
theorem Replay.drains (now : TimeOfDay) : (Replay.env now).Drains fun d => d.queue = [] where
  dispatch _ := rfl
  prepareRead d h := by
    change d.queue.isEmpty = true
    rw [h]
    rfl
  submit _ _ h := h
  activate _ _ _ h := h
  release _ _ h := h
  make {i w h d made d'} hd hmake := by
    obtain ⟨⟨b, m⟩, -, hmake⟩ := Checked.bind_eq_ok.mp hmake
    cases hmake
    exact hd
  drop _ _ h := h

/-! ### A run on tape -/

namespace Tape

variable [BEq η] {env : RunLoop.Env δ σ η} {drained : δ → Prop}

/-- No announced read is pending, and no call broke the protocol. -/
def Closed (t : Tape δ σ η) : Prop := readPhase (t.log.map (·.2)) = some false

omit [BEq η] in
theorem readPhase_made (t : Tape δ σ η) (cs : List (Call η)) :
    readPhase ((t.made cs).map (·.2)) = readPhase (t.log.map (·.2)) >>= fun b =>
      cs.foldlM Call.readStep b := by
  have hcs : cs.map ((·.2) ∘ fun c => (t.loop.state, c)) = cs := List.map_id' cs
  rw [made, List.map_append, List.map_map, readPhase_append, hcs]

omit [BEq η] in
/-- Quiet calls keep the protocol closed. -/
theorem Closed.made {t : Tape δ σ η} (h : t.Closed) {cs : List (Call η)} (hcs : ∀ c ∈ cs, c.Quiet)
    (l' : RunLoop δ σ η) : (⟨l', t.made cs⟩ : Tape δ σ η).Closed := by
  show readPhase ((t.made cs).map (·.2)) = some false
  rw [readPhase_made, h]
  exact foldlM_quiet hcs

omit [BEq η] in
theorem Closed.render {t t' : Tape δ σ η} (h : t.Closed) (hr : Tape.render env t = .ok t') :
    t'.Closed := by
  rcases render_cases hr with ⟨rfl, -⟩ | ⟨-, l', -, rfl | rfl⟩
  · exact h
  all_goals
    refine h.made ?_ l'
    simp only [List.mem_cons, List.mem_nil_iff, or_false]
    rintro c (rfl | rfl) <;> rfl

theorem Closed.respond {t : Tape δ σ η} (h : t.Closed) (e : Event η) : (Tape.respond env t e).1.Closed :=
  h.made (fun c hc => by rcases mem_respondCalls hc with rfl | ⟨id, rfl⟩ | ⟨id, seat, rfl⟩ <;> rfl) _

theorem Closed.dispatchQueued {t t' : Tape δ σ η} (h : t.Closed)
    (hd : Tape.dispatchQueued env t = .ok t') : t'.Closed :=
  dispatchQueued_keeps Closed (fun _ hc => hc) (fun _ e hc => hc.respond e)
    (fun _ _ hc hr => hc.render hr)
    (h.made (fun c hc => by rw [List.mem_singleton.mp hc]; rfl) _) hd

omit [BEq η] in
theorem drained_render (hd : env.Drains drained) {t t' : Tape δ σ η} (h : drained t.loop.display)
    (hr : Tape.render env t = .ok t') : drained t'.loop.display := by
  unfold Tape.render at hr
  by_cases hrun : (t.loop.state != .running) = true
  · rw [if_pos hrun] at hr
    cases hr
    exact h
  · rw [if_neg hrun] at hr
    obtain ⟨⟨panel, pool, display, frame?⟩, hp, hr⟩ := Checked.bind_eq_ok.mp hr
    have hdisplay : drained display :=
      Panel.render_keeps_mem drained (fun hs hm => hd.make hs hm) (fun b _ hs => hd.drop b hs) h hp
    cases frame? with
    | some f =>
      cases hr
      exact hd.submit _ _ hdisplay
    | none =>
      cases hr
      exact hdisplay

/-- **A dispatch leaves the display drained.** -/
theorem drained_dispatchQueued (hd : env.Drains drained) {t t' : Tape δ σ η}
    (h : Tape.dispatchQueued env t = .ok t') : drained t'.loop.display :=
  dispatchQueued_keeps (fun t => drained t.loop.display) (fun _ h => h)
    (fun _ e h => hd.respond h e) (fun _ _ h hr => drained_render hd h hr) (hd.dispatch _) h

/-- Over a drained display, a read is announced at once. -/
theorem prepare_drained (hd : env.Drains drained) {spins : Nat} {t t' : Tape δ σ η}
    {o : Option (Tape δ σ η)} (h : drained t.loop.display)
    (hp : Tape.prepare env spins t = .ok (o, t')) :
    o = some t' ∧ t'.log = t.made [.prepareRead true] := by
  rw [Tape.prepare] at hp
  have hok := hd.prepareRead _ h
  generalize env.display.prepareRead t.loop.display = r at hok hp
  obtain ⟨ok, display⟩ := r
  dsimp only at hok hp
  subst hok
  rw [if_pos rfl] at hp
  cases hp
  exact ⟨rfl, rfl⟩

/-- **A turn completes every read it announces.** The dispatch drains the display, so the read
is announced at once, and each exit of the turn completes it once. -/
theorem Closed.turn (hd : env.Drains drained) {spins : Nat} {t t' : Tape δ σ η} (h : t.Closed)
    (ht : Tape.turn env spins t = .ok t') : t'.Closed := by
  unfold Tape.turn at ht
  obtain ⟨t₁, h₁, ht⟩ := Checked.bind_eq_ok.mp ht
  obtain ⟨⟨prepared, t₂⟩, h₂, ht⟩ := Checked.bind_eq_ok.mp ht
  obtain ⟨rfl, hlog₂⟩ := prepare_drained hd (drained_dispatchQueued hd h₁) h₂
  have hc₂ : readPhase (t₂.log.map (·.2)) = some true := by
    rw [hlog₂, readPhase_made, h.dispatchQueued h₁]
    rfl
  dsimp only at ht
  rcases flushCalls_cases env t₂.loop with ⟨hw, hcs⟩ | ⟨hw, hcs⟩
  · -- the loop flushed and waits, with the read still pending
    have hw' : (Tape.flushForWait env t₂).2 = true := hw
    rw [if_pos hw'] at ht
    have hc₃ : readPhase ((Tape.flushForWait env t₂).1.log.map (·.2)) = some true := by
      show readPhase ((t₂.made _).map (·.2)) = _
      rw [readPhase_made, hc₂, hcs]
      rfl
    -- the wait is followed by one read or cancelled read, and at most a consumed tick
    have hc₄ : (Tape.wake env (Tape.flushForWait env t₂).1).1.Closed := by
      obtain ⟨c, rest, hwake, hc, hrest⟩ := wakeCalls_cases env (Tape.flushForWait env t₂).1.loop
      show readPhase ((Tape.made _ _).map (·.2)) = _
      rw [readPhase_made, hc₃, hwake]
      rcases hc with rfl | rfl <;> rcases hrest with rfl | rfl <;> rfl
    exact renderIf_keeps Closed (fun _ _ hc hr => hc.render hr) hc₄ ht
  · -- the loop stopped running or the flush failed: the read is cancelled
    have hw' : ¬(Tape.flushForWait env t₂).2 = true := by
      show ¬(RunLoop.flushForWait env t₂.loop).2 = true
      rw [hw]
      exact Bool.false_ne_true
    rw [if_neg hw'] at ht
    cases ht
    show readPhase ((t₂.made _).map (·.2)) = _
    rw [readPhase_made, hc₂]
    rcases hcs with hcs | hcs <;> rw [hcs] <;> rfl

theorem Closed.turns (hd : env.Drains drained) {spins n : Nat} {t t' : Tape δ σ η} (h : t.Closed)
    (ht : Tape.turns env spins n t = .ok t') : t'.Closed :=
  turns_keeps Closed (fun _ _ hc h => hc.turn hd h) n h ht

theorem Closed.start {t t' : Tape δ σ η} (h : t.Closed) (hs : Tape.start env t = .ok t') :
    t'.Closed := by
  obtain ⟨t₁, h₁, ⟨-, hr⟩ | ⟨-, rfl⟩⟩ := start_cases hs
  · have hc₁ := h.dispatchQueued h₁
    exact Closed.render (t := ⟨{ t₁.loop with state := .running }, t₁.log⟩) hc₁ hr
  · exact h.dispatchQueued h₁

omit [BEq η] in
/-- The shutdown's calls leave reads alone. -/
theorem Closed.shutdown {t : Tape δ σ η} (h : t.Closed) : (Tape.shutdown env t).Closed := by
  show readPhase ((t.log ++ _).map (·.2)) = some false
  have hcs : (shutdownCalls t.loop).map ((·.2) ∘ fun c => (LoopState.terminating, c)) =
      shutdownCalls t.loop := List.map_id' _
  rw [List.map_append, List.map_map, readPhase_append, h, hcs]
  refine foldlM_quiet fun c hc => ?_
  rcases List.mem_append.mp hc with hc | hc
  · obtain ⟨id, -, rfl⟩ := List.mem_map.mp hc
    rfl
  · simp only [List.mem_cons, List.mem_nil_iff, or_false] at hc
    rcases hc with rfl | rfl <;> rfl

end Tape

/-- **Every run reads in two phases.** Over a display whose dispatch drains its queue, the
calls of any run that returns keep the read protocol: each successful announcement of a read is
completed by exactly one read or cancelled read, with only flushes and waits before it, so
before any other announcement, dispatch, frame or shutdown; and reads, cancelled reads and waits
come only with an announced read pending. -/
theorem RunLoop.run_reads_in_turn [BEq η] {env : RunLoop.Env δ σ η} {drained : δ → Prop}
    (hd : env.Drains drained) {spins limit : Nat} {l l' : RunLoop δ σ η}
    (h : RunLoop.run env spins limit l = .ok l') :
    ∃ t, Tape.run env spins limit ⟨l, []⟩ = .ok t ∧ t.loop = l' ∧ ReadsInTurn (t.log.map (·.2)) := by
  obtain ⟨t, ht, rfl⟩ := Tape.exists_run env h
  obtain ⟨t₁, t₂, h₁, h₂, rfl⟩ := Tape.run_cases ht
  refine ⟨_, ht, rfl, ReadsInTurn.of_readPhase ?_⟩
  have hc₀ : (⟨l, []⟩ : Tape δ σ η).Closed := rfl
  exact ((hc₀.start h₁).turns hd h₂).shutdown

/-- A replayed run configured to 9 by 4 that reports window 1, reads a press of seat 0 over its
button once, and on its next announcement is told to stop: its one read and its one cancelled read
each complete an announcement. -/
theorem RunLoop.run_reads_in_turn_configured :
    (Replay.env ⟨12, 0, 0, 0⟩).Drains (fun d => d.queue = []) ∧
      ∃ l', RunLoop.run (Replay.env ⟨12, 0, 0, 0⟩) 4 3
          { display :=
              { queue := [.configure 9 4, .appeared 1, .title 1 "a", Event.done 1]
                batches := [[.pointerEnter 0 (Binary.Datum.ofInt 8) (Binary.Datum.ofInt 2),
                  .button 0 0 true]] }
            sources := { script := [{ protocol := true }] }
            panel := Panel.ofState (PanelState.ofSettings {}) } = .ok l' ∧
        l'.display.reads = 1 ∧ l'.display.cancelledReads = 1 ∧ l'.display.activations = #[(1, 0)] ∧
        ∃ t, Tape.run (Replay.env ⟨12, 0, 0, 0⟩) 4 3
            ⟨{ display :=
                 { queue := [.configure 9 4, .appeared 1, .title 1 "a", Event.done 1]
                   batches := [[.pointerEnter 0 (Binary.Datum.ofInt 8) (Binary.Datum.ofInt 2),
                     .button 0 0 true]] }
               sources := { script := [{ protocol := true }] }
               panel := Panel.ofState (PanelState.ofSettings {}) }, []⟩ = .ok t ∧ t.loop = l' ∧
          ReadsInTurn (t.log.map (·.2)) := by
  -- the run, evaluated: one read, one cancelled read and the press's activation
  have hrun : ((RunLoop.run (Replay.env ⟨12, 0, 0, 0⟩) 4 3
      { display :=
          { queue := [.configure 9 4, .appeared 1, .title 1 "a", Event.done 1]
            batches := [[.pointerEnter 0 (Binary.Datum.ofInt 8) (Binary.Datum.ofInt 2),
              .button 0 0 true]] }
        sources := { script := [{ protocol := true }] }
        panel := Panel.ofState (PanelState.ofSettings {}) }).toOption.any
      fun l => l.display.reads == 1 && l.display.cancelledReads == 1 &&
        l.display.activations == #[(1, 0)]) = true := by
    set_option maxRecDepth 100000 in decide +kernel
  obtain ⟨l', hl', hdone⟩ := Checked.exists_of_any hrun
  simp only [Bool.and_eq_true, beq_iff_eq] at hdone
  obtain ⟨⟨hreads, hcancelled⟩, hact⟩ := hdone
  exact ⟨Replay.drains _, l', hl', hreads, hcancelled, hact,
    RunLoop.run_reads_in_turn (Replay.drains _) hl'⟩

end DeskPanel
