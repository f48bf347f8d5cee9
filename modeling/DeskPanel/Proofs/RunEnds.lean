import Mathlib
import DeskPanel.Proofs.ReadDiscipline

/-!
# Every replayed run ends

The run loop has no bound of its own: it turns while it runs. Over a replayed display and
replayed sources it stops anyway, because the sources pay for every turn that goes on.

A turn dispatches first, which empties the replayed queue, so its read is announced at the
first try and the retry loop around the announcement never runs. The turn then either stops the
loop without waiting, or waits once; a wait takes the next readiness set of the script or, once
the script is exhausted, a signal, which ends the loop. So a running loop has at most one turn
for each scripted readiness set and one more (`RunLoop.turnsLeft`); every turn lowers that
budget, and every wait is paid for from it.

The loop's model bounds both its turns and the retries of each announcement. Once the bound on
turns covers the budget, neither bound changes the outcome (`RunLoop.run_settles`): the run is
the loop's own, which ends by itself.

## Main definitions

* `RunLoop.turnsLeft` — the turns a replayed loop has left at most.

## Main results

* `RunLoop.prepare_drained_replayed` — after a dispatch, a read is announced at the first try.
* `RunLoop.turn_replayed` — a turn of a running loop lowers its budget and pays for its wait.
* `RunLoop.turns_settle`, `RunLoop.run_settles` — more turns or retries change nothing.
* `RunLoop.run_ends`.
-/

namespace DeskPanel

namespace RunLoop

/-! ### Steps of any loop -/

section Steps

variable {δ σ η : Type} [BEq η] (env : Env δ σ η)

omit [BEq η] in
/-- The flush goes on to no wait only with the loop stopped. -/
theorem flushForWait_stops (l : RunLoop δ σ η) (h : (flushForWait env l).2 = false) :
    (flushForWait env l).1.state ≠ .running := by
  unfold flushForWait at h ⊢
  by_cases hrun : (l.state != .running) = true
  · rw [if_pos hrun]
    show l.state ≠ .running
    simpa using hrun
  · rw [if_neg hrun] at h ⊢
    generalize env.display.flush l.display = r at h ⊢
    obtain ⟨_ | _, display⟩ := r
    · dsimp only at h ⊢
      split at h
      · rw [if_pos ‹_›]
        show LoopState.terminating ≠ .running
        decide
      · cases h
    · cases h

omit [BEq η] in
/-- A wait leaves the sources as the wait left them, with at most a clock tick taken. -/
theorem wake_sources (l : RunLoop δ σ η) :
    (wake env l).1.sources = (env.sources.wait l.sources l.display).2.1 ∨
      (wake env l).1.sources = env.sources.consumeTick (env.sources.wait l.sources l.display).2.1 := by
  unfold wake
  generalize env.sources.wait l.sources l.display = r
  obtain ⟨waited, sources, display⟩ := r
  cases waited with
  | error _ => exact .inl rfl
  | ok ready =>
    dsimp only
    have hread : (completeRead env { l with sources, display } ready).1.sources = sources :=
      Watch.sources_completeRead _ _
    generalize completeRead env { l with sources, display } ready = c at hread
    obtain ⟨l₂, alive⟩ := c
    dsimp only at hread ⊢
    -- the loop ends, takes a tick or goes on
    split
    · exact .inl hread
    · split
      · exact .inl hread
      · split
        · exact .inr (by rw [hread])
        · exact .inl hread

omit [BEq η] in
/-- A wait answered by a signal ends the loop. -/
theorem wake_signal (l : RunLoop δ σ η) {ready : Ready}
    (hw : (env.sources.wait l.sources l.display).1 = .ok ready) (hs : ready.signal = true) :
    (wake env l).1.state = .terminating := by
  unfold wake
  generalize env.sources.wait l.sources l.display = r at hw
  obtain ⟨waited, sources, display⟩ := r
  cases hw
  dsimp only
  generalize completeRead env { l with sources, display } ready = c
  obtain ⟨l₂, alive⟩ := c
  dsimp only
  split
  · rfl
  · rw [if_pos (by simp [hs])]
    rfl

omit [BEq η] in
/-- A frame changes neither the sources nor the state of the loop. -/
theorem renderIf_frame {r : RunLoop δ σ η × Bool} {l' : RunLoop δ σ η}
    (h : renderIf env r = .ok l') : l'.sources = r.1.sources ∧ l'.state = r.1.state := by
  obtain ⟨l, _ | _⟩ := r
  · cases h
    exact ⟨rfl, rfl⟩
  · change render env l = .ok l' at h
    unfold render at h
    by_cases hrun : (l.state != .running) = true
    · rw [if_pos hrun] at h
      cases h
      exact ⟨rfl, rfl⟩
    · rw [if_neg hrun] at h
      obtain ⟨⟨panel, pool, display, frame?⟩, -, h⟩ := Checked.bind_eq_ok.mp h
      cases h
      exact ⟨rfl, rfl⟩

/-- The start waits on nothing. -/
theorem start_sources {l l₁ : RunLoop δ σ η} (h : start env l = .ok l₁) : l₁.sources = l.sources := by
  rw [← Watch.loop_start env ⟨l, none⟩] at h
  obtain ⟨w₁, hw₁, rfl⟩ := Checked.map_eq_ok.mp h
  exact Watch.sources_start hw₁

end Steps

/-! ### Steps of a replayed loop -/

section Replayed

variable (now : TimeOfDay)

/-- A dispatch empties the replayed queue and leaves the sources alone. -/
theorem dispatchQueued_replayed {l l' : RunLoop Replay ReplaySources Nat}
    (h : dispatchQueued (Replay.env now) l = .ok l') : l'.display.queue = [] ∧ l'.sources = l.sources := by
  have ht := h
  rw [← Tape.loop_dispatchQueued (Replay.env now) ⟨l, []⟩] at ht
  obtain ⟨t', ht', rfl⟩ := Checked.map_eq_ok.mp ht
  have hw := h
  rw [← Watch.loop_dispatchQueued (Replay.env now) ⟨l, none⟩] at hw
  obtain ⟨w', hw', hwl⟩ := Checked.map_eq_ok.mp hw
  refine ⟨Tape.drained_dispatchQueued (Replay.drains now) ht', ?_⟩
  rw [← hwl]
  exact Watch.sources_dispatchQueued hw'

/-- **A read is announced at the first try** once the replayed queue is empty, whatever the
retries allowed. -/
theorem prepare_drained_replayed (spins : Nat) {l : RunLoop Replay ReplaySources Nat}
    (h : l.display.queue = []) : prepare (Replay.env now) spins l = .ok (some l, l) := by
  have hok : (Replay.env now).display.prepareRead l.display = (true, l.display) := by
    simp [Replay.env, Replay.ops, h]
  rw [prepare, hok]
  rfl

/-- A turn of a replayed loop does not depend on the retries allowed. -/
theorem turn_spins (spins : Nat) (l : RunLoop Replay ReplaySources Nat) :
    turn (Replay.env now) spins l = turn (Replay.env now) 0 l := by
  unfold turn
  cases hd : dispatchQueued (Replay.env now) l with
  | error e => rfl
  | ok l₁ =>
    have hq := (dispatchQueued_replayed now hd).1
    simp only [Checked.ok_bind]
    rw [prepare_drained_replayed now spins hq, prepare_drained_replayed now 0 hq]

/-- A replayed wait takes the next readiness set from the script and counts itself; once the
script is exhausted it is a signal, which ends the loop. -/
theorem wake_replayed (l : RunLoop Replay ReplaySources Nat) :
    (wake (Replay.env now) l).1.sources.script = l.sources.script.tail ∧
      (wake (Replay.env now) l).1.sources.waits = l.sources.waits + 1 ∧
      (l.sources.script = [] → (wake (Replay.env now) l).1.state = .terminating) := by
  have hwaits := Watch.count_wake (Replay.countsWaits now) l
  have htick : ∀ s : ReplaySources, ((Replay.env now).sources.consumeTick s).script = s.script :=
    fun _ => rfl
  have hscript : ((Replay.env now).sources.wait l.sources l.display).2.1.script = l.sources.script.tail := by
    change (ReplaySources.ops.wait l.sources l.display).2.1.script = _
    unfold ReplaySources.ops
    dsimp only
    split <;> simp_all
  refine ⟨?_, hwaits, fun hnil => ?_⟩
  · rcases wake_sources (Replay.env now) l with h | h <;> rw [h]
    · exact hscript
    · rw [htick, hscript]
  · -- an exhausted script answers with a signal
    have hsignal : ((Replay.env now).sources.wait l.sources l.display).1 = .ok { signal := true } := by
      change (ReplaySources.ops.wait l.sources l.display).1 = _
      unfold ReplaySources.ops
      dsimp only
      rw [hnil]
    exact wake_signal _ l hsignal rfl

/-! ### The budget of turns -/

/-- The turns a replayed loop has left at most: while it runs, one for each readiness set still
scripted and one for the signal after them; none once it stopped. -/
def turnsLeft (l : RunLoop Replay ReplaySources Nat) : Nat :=
  if l.state = .running then l.sources.script.length + 1 else 0

theorem turnsLeft_le (l : RunLoop Replay ReplaySources Nat) :
    turnsLeft l ≤ l.sources.script.length + 1 := by
  unfold turnsLeft
  split <;> omega

theorem turnsLeft_of_running {l : RunLoop Replay ReplaySources Nat} (h : l.state = .running) :
    turnsLeft l = l.sources.script.length + 1 := if_pos h

theorem turnsLeft_of_not_running {l : RunLoop Replay ReplaySources Nat} (h : l.state ≠ .running) :
    turnsLeft l = 0 := if_neg h

/-- **A turn spends its budget.** A turn of a running replayed loop leaves it fewer turns, and a
wait it makes is paid for by a turn. -/
theorem turn_replayed {spins : Nat} {l l' : RunLoop Replay ReplaySources Nat} (hrun : l.state = .running)
    (h : turn (Replay.env now) spins l = .ok l') :
    turnsLeft l' < turnsLeft l ∧ l'.sources.waits + turnsLeft l' ≤ l.sources.waits + turnsLeft l := by
  rw [turnsLeft_of_running hrun]
  unfold turn at h
  obtain ⟨l₁, h₁, h⟩ := Checked.bind_eq_ok.mp h
  obtain ⟨hq, hs₁⟩ := dispatchQueued_replayed now h₁
  rw [prepare_drained_replayed now spins hq, Checked.ok_bind] at h
  dsimp only at h
  have hs₂ : (flushForWait (Replay.env now) l₁).1.sources = l.sources :=
    (Watch.sources_flushForWait _).trans hs₁
  have hstop := flushForWait_stops (Replay.env now) l₁
  generalize flushForWait (Replay.env now) l₁ = r at hs₂ hstop h
  obtain ⟨l₃, _ | _⟩ := r
  · -- no wait: the loop stopped
    cases h
    rw [turnsLeft_of_not_running (hstop rfl), hs₂]
    omega
  · -- one wait, which takes a readiness set or ends the loop
    dsimp only at hs₂ h
    rw [if_pos rfl] at h
    obtain ⟨hsrc, hstate⟩ := renderIf_frame _
      (show renderIf (Replay.env now) (wake (Replay.env now) l₃) = .ok l' from h)
    obtain ⟨hscript, hwaits, hend⟩ := wake_replayed now l₃
    rw [hs₂] at hscript hwaits hend
    have hle := turnsLeft_le l'
    rw [hsrc] at hle ⊢
    rw [hwaits]
    cases hs : l.sources.script with
    | nil =>
      rw [turnsLeft_of_not_running (by rw [hstate, hend hs]; decide), List.length_nil]
      omega
    | cons r rest =>
      rw [hscript, hs, List.tail_cons] at hle
      rw [List.length_cons]
      omega

/-- A loop that does not run takes no turn. -/
theorem turns_of_not_running (env : Env Replay ReplaySources Nat) {spins n : Nat}
    {l : RunLoop Replay ReplaySources Nat} (h : l.state ≠ .running) : turns env spins n l = pure l := by
  cases n with
  | zero => rfl
  | succ n => rw [turns, if_pos (by simpa using h)]

/-- Turns spend the budget: as many turns as the budget stop the loop, and the waits they make
are paid for from the budget. -/
theorem turns_replayed {spins : Nat} :
    ∀ (n : Nat) {l l' : RunLoop Replay ReplaySources Nat}, turns (Replay.env now) spins n l = .ok l' →
      l'.sources.waits + turnsLeft l' ≤ l.sources.waits + turnsLeft l ∧
        (turnsLeft l ≤ n → l'.state ≠ .running)
  | 0, l, l', h => by
    cases h
    refine ⟨le_refl _, fun hleft hrun => ?_⟩
    rw [turnsLeft_of_running hrun] at hleft
    omega
  | n + 1, l, l', h => by
    by_cases hrun : l.state = .running
    · rw [turns, if_neg (by simpa using hrun)] at h
      obtain ⟨l₁, h₁, h⟩ := Checked.bind_eq_ok.mp h
      obtain ⟨hlt, hwaits⟩ := turn_replayed now hrun h₁
      obtain ⟨hwaits', hstop⟩ := turns_replayed n h
      exact ⟨hwaits'.trans hwaits, fun hleft => hstop (by omega)⟩
    · rw [turns_of_not_running _ hrun] at h
      cases h
      exact ⟨le_refl _, fun _ => hrun⟩

/-- **More turns change nothing** once the budget is covered, nor does retrying the
announcement of a read. -/
theorem turns_settle :
    ∀ (m : Nat) {l : RunLoop Replay ReplaySources Nat}, turnsLeft l ≤ m → ∀ (spins n : Nat), m ≤ n →
      turns (Replay.env now) spins n l = turns (Replay.env now) 0 m l
  | 0, l, hleft, spins, n, _ => by
    have hrun : l.state ≠ .running := fun hrun => by
      rw [turnsLeft_of_running hrun] at hleft
      omega
    rw [turns_of_not_running _ hrun, turns_of_not_running _ hrun]
  | m + 1, l, hleft, spins, n + 1, hmn => by
    by_cases hrun : l.state = .running
    · rw [turns, turns, if_neg (by simpa using hrun), if_neg (by simpa using hrun),
        turn_spins now spins l]
      -- both take the same turn, which leaves a smaller budget
      cases hturn : turn (Replay.env now) 0 l with
      | error e => rfl
      | ok l₁ =>
        have hlt := (turn_replayed now hrun hturn).1
        simp only [Checked.ok_bind]
        exact turns_settle m (by omega) spins n (by omega)
    · rw [turns_of_not_running _ hrun, turns_of_not_running _ hrun]

/-! ### Whole runs -/

/-- The start waits on nothing, so a started loop's budget is at most the script's. -/
theorem turnsLeft_start {l l₁ : RunLoop Replay ReplaySources Nat} (h : start (Replay.env now) l = .ok l₁) :
    turnsLeft l₁ ≤ l.sources.script.length + 1 := by
  rw [← start_sources _ h]
  exact turnsLeft_le l₁

theorem run_settles (l : RunLoop Replay ReplaySources Nat) {spins limit : Nat}
    (hlimit : l.sources.script.length + 1 ≤ limit) :
    run (Replay.env now) spins limit l = run (Replay.env now) 0 (l.sources.script.length + 1) l := by
  unfold run
  cases hs : start (Replay.env now) l with
  | error e => rfl
  | ok l₁ =>
    simp only [Checked.ok_bind]
    rw [turns_settle now _ (turnsLeft_start now hs) spins limit hlimit]

theorem run_waits (l : RunLoop Replay ReplaySources Nat) {spins limit : Nat}
    {l' : RunLoop Replay ReplaySources Nat} (h : run (Replay.env now) spins limit l = .ok l') :
    l'.sources.waits ≤ l.sources.waits + (l.sources.script.length + 1) := by
  unfold run at h
  obtain ⟨l₁, h₁, h⟩ := Checked.bind_eq_ok.mp h
  obtain ⟨l₂, h₂, h⟩ := Checked.bind_eq_ok.mp h
  cases h
  have hleft := turnsLeft_start now h₁
  obtain ⟨hwaits, -⟩ := turns_replayed now limit h₂
  rw [start_sources _ h₁] at hwaits
  -- shutting down leaves the sources alone
  change l₂.sources.waits ≤ _
  omega

/-- **Every replayed run ends.** Over a replayed display (any queued events, batches read,
flush fault and failing memory) and a finite script of readiness sets, for any panel:

* each turn announces its read at the first try: after the turn's dispatch the display accepts
  the announcement at once, so the retry loop around it never runs;
* the loop stops by itself: a bound of at least one turn more than the script's length gives
  the same outcome as that many turns with no retries, and after that many turns the loop no
  longer runs;
* it waits at most once more than the script has readiness sets. -/
theorem run_ends (l : RunLoop Replay ReplaySources Nat) :
    (∀ (spins : Nat) (l₁ l₂ : RunLoop Replay ReplaySources Nat),
      dispatchQueued (Replay.env now) l₁ = .ok l₂ → prepare (Replay.env now) spins l₂ = .ok (some l₂, l₂)) ∧
    (∀ spins limit : Nat, l.sources.script.length + 1 ≤ limit →
      run (Replay.env now) spins limit l = run (Replay.env now) 0 (l.sources.script.length + 1) l) ∧
    (∀ (spins : Nat) (l₁ l₂ : RunLoop Replay ReplaySources Nat), start (Replay.env now) l = .ok l₁ →
      turns (Replay.env now) spins (l.sources.script.length + 1) l₁ = .ok l₂ → l₂.state ≠ .running) ∧
    (∀ (spins limit : Nat) (l' : RunLoop Replay ReplaySources Nat),
      run (Replay.env now) spins limit l = .ok l' →
        l'.sources.waits ≤ l.sources.waits + (l.sources.script.length + 1)) := by
  refine ⟨fun spins l₁ l₂ h => prepare_drained_replayed now spins (dispatchQueued_replayed now h).1,
    fun spins limit hlimit => run_settles now l hlimit, ?_, fun spins limit l' h => run_waits now l h⟩
  intro spins l₁ l₂ h₁ h₂
  exact (turns_replayed now _ h₂).2 (turnsLeft_start now h₁)

end Replayed

end RunLoop

end DeskPanel
