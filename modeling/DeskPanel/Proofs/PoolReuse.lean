import Mathlib
import DeskPanel.Proofs.Pool

/-!
# Buffers are made again only for a new size

An acquire asks its allocator for a buffer only for the free slot it picks, only when that slot
is empty or holds a buffer of another size, and only after the slot's old buffer went back. So a
slot that got a buffer of the size asked keeps it: nothing but a clear takes it away, and no
acquire of that size asks for it again. Over a stretch without clears in which every acquire
asks for one size, each slot is given at most one buffer, whatever the submits, drops, releases
and failed allocations in between.

To see the calls, the allocator is wrapped in `Allocator.logged`, which records every call
made to it beside its state. A session threads one allocator's state through the pool's
operations, as the panel does with its display's buffers.

## Main definitions

* `AllocCall`, `Allocator.logged` — an allocator that records the calls made to it.
* `Pool.Use`, `Pool.use`, `Pool.session` — what the pool's user does, with one allocator.
* `Pool.fitting` — the slots that hold a buffer of a given size.
* `Pool.Refits` — buffers made only into slots that newly fit a given size.

## Main results

* `Pool.acquire_logged` — the calls one acquire makes.
* `Pool.session_logged` — over a stretch of one size without clears, each buffer made fills a
  slot that did not fit before.
* `Pool.reallocates_only_on_size_change`.
-/

namespace DeskPanel

/-- A call made to an allocator: a buffer asked for a slot at a size, with whether one was
made, or a buffer let go of. -/
inductive AllocCall (β : Type) where
  | make (slot : Slot) (width height : Nat) (made : Bool)
  | drop (buffer : β)

/-- Whether a call made a buffer. -/
def AllocCall.made {β : Type} : AllocCall β → Bool
  | .make _ _ _ m => m
  | .drop _ => false

/-- The allocator `alloc` with every call made to it recorded, in order, beside its state. -/
def Allocator.logged {σ β : Type} (alloc : Allocator σ β) : Allocator (σ × List (AllocCall β)) β where
  make i w h s := do
    let (b, s') ← alloc.make i w h s.1
    pure (b, s', s.2 ++ [.make i w h b.isSome])
  drop b s := (alloc.drop b s.1, s.2 ++ [.drop b])

namespace Allocator

variable {σ β : Type} (alloc : Allocator σ β)

theorem logged_dropSlot (a? : Option (Allocated β)) (s : σ) (log : List (AllocCall β)) :
    alloc.logged.dropSlot a? (s, log) = (alloc.dropSlot a? s, log ++ a?.toList.map fun a => .drop a.buffer) := by
  cases a? with
  | none => simp [dropSlot]
  | some a => rfl

theorem logged_make_eq_ok {i : Slot} {w h : Nat} {s : σ} {log : List (AllocCall β)}
    {made : Option β} {t : σ × List (AllocCall β)} (hmake : alloc.logged.make i w h (s, log) = .ok (made, t)) :
    ∃ s', alloc.make i w h s = .ok (made, s') ∧ t = (s', log ++ [.make i w h made.isSome]) := by
  change (alloc.make i w h s >>= fun r => pure (r.1, r.2, log ++ [AllocCall.make i w h r.1.isSome])) =
    .ok (made, t) at hmake
  cases hinner : alloc.make i w h s with
  | error e =>
    rw [hinner] at hmake
    cases hmake
  | ok r =>
    rw [hinner] at hmake
    cases hmake
    exact ⟨r.2, rfl, rfl⟩

end Allocator

namespace Pool

variable {σ β : Type}

/-! ### The calls of one acquire -/

/-- **The calls one acquire makes.** None; or, for the free slot it picks when that slot is
empty or holds a buffer of another size, the old buffer's release, if there is one, followed by
one request for a buffer of the asked size. -/
theorem acquire_logged {p p' : Pool β} {alloc : Allocator σ β} {s s' : σ}
    {log log' : List (AllocCall β)} {w h : Nat} {r : Option Slot}
    (hacq : p.acquire alloc.logged (s, log) w h = .ok (r, p', s', log')) :
    log' = log ∨ ∃ i made, getElem p.busy i i.isLt = false ∧ p.freeSlot? = some i ∧
      fits (getElem p.slots i i.isLt) w h = false ∧
      log' = log ++ (getElem p.slots i i.isLt).toList.map (fun a => .drop a.buffer) ++
        [.make i w h made] := by
  rcases acquire_cases hacq with
    ⟨-, -, -, hs⟩ | ⟨i, -, -, hi, ⟨-, -, -, hs⟩ | ⟨hfit, made, hmake, -, -⟩⟩
  · exact .inl (Prod.mk.inj hs).2
  · exact .inl (Prod.mk.inj hs).2
  · -- the old buffer goes back first, then the new one is asked for
    rw [Allocator.logged_dropSlot] at hmake
    obtain ⟨s₁, -, hlog⟩ := Allocator.logged_make_eq_ok alloc hmake
    refine .inr ⟨i, made.isSome, (freeSlot?_eq_some_iff.mp hi).1, hi, hfit, ?_⟩
    exact (Prod.mk.inj hlog).2

/-! ### Slots that fit -/

/-- The slots that hold a buffer of exactly `w × h`. -/
def fitting (p : Pool β) (w h : Nat) : Finset Slot :=
  Finset.univ.filter fun i => fits (getElem p.slots i i.isLt) w h = true

theorem mem_fitting {p : Pool β} {w h : Nat} {i : Slot} :
    i ∈ p.fitting w h ↔ fits (getElem p.slots i i.isLt) w h = true := by
  simp [fitting]

/-- A lease written and settled keeps the size of every slot. -/
theorem fits_settle (p : Pool β) (i j : Slot) (write : β → β) (submit : Bool) (w h : Nat) :
    fits (getElem (p.settle i write submit).slots j j.isLt) w h =
      fits (getElem p.slots j j.isLt) w h := by
  have hslots : (p.settle i write submit).slots = (p.modifyBuffer i write).slots := by
    unfold settle
    cases submit <;> rfl
  rw [hslots]
  unfold modifyBuffer
  rw [getElem_set_slot]
  split
  · rename_i hij
    obtain rfl : i = j := Fin.ext hij
    cases p.slots[i] <;> rfl
  · rfl

/-- A change that keeps every slot's fit keeps the slots that fit. -/
theorem fitting_congr {p p' : Pool β} {w h : Nat}
    (hfits : ∀ j : Slot,
      fits (getElem p'.slots j j.isLt) w h = fits (getElem p.slots j j.isLt) w h) :
    p'.fitting w h = p.fitting w h := by
  ext j
  rw [mem_fitting, mem_fitting, hfits]

theorem fitting_settle (p : Pool β) (i : Slot) (write : β → β) (submit : Bool) (w h : Nat) :
    (p.settle i write submit).fitting w h = p.fitting w h :=
  fitting_congr fun j => fits_settle p i j write submit w h

/-- Changing one slot that did not fit: the slots that fit grow by that slot exactly when it
fits afterwards. -/
theorem fitting_of_set {p p' : Pool β} {w h : Nat} {i : Slot}
    (hi : fits (getElem p.slots i i.isLt) w h = false)
    (hothers : ∀ j, j ≠ i → getElem p'.slots j j.isLt = getElem p.slots j j.isLt) :
    p.fitting w h ⊆ p'.fitting w h ∧
      (p'.fitting w h).card =
        (p.fitting w h).card + (fits (getElem p'.slots i i.isLt) w h).toNat := by
  have hnot : i ∉ p.fitting w h := by
    rw [mem_fitting, hi]
    exact Bool.false_ne_true
  have hsame : ∀ j, j ≠ i → (j ∈ p'.fitting w h ↔ j ∈ p.fitting w h) := by
    intro j hj
    rw [mem_fitting, mem_fitting, hothers j hj]
  cases hfit' : fits p'.slots[i] w h with
  | false =>
    -- nothing new fits
    have heq : p'.fitting w h = p.fitting w h := by
      ext j
      by_cases hj : j = i
      · subst hj
        rw [mem_fitting, mem_fitting, hfit', hi]
      · exact hsame j hj
    rw [heq]
    exact ⟨subset_refl _, rfl⟩
  | true =>
    -- the slot joins those that fit
    have heq : p'.fitting w h = insert i (p.fitting w h) := by
      ext j
      by_cases hj : j = i
      · subst hj
        rw [mem_fitting, hfit']
        exact iff_of_true rfl (Finset.mem_insert_self _ _)
      · rw [Finset.mem_insert, or_iff_right hj]
        exact hsame j hj
    rw [heq, Finset.card_insert_of_notMem hnot]
    exact ⟨Finset.subset_insert _ _, rfl⟩

/-! ### Buffers made pay for slots that fit -/

/-- From `p` with the calls `log` to `p'` with the calls `log'`, the calls were only added to,
no slot that fit `w × h` stopped fitting, and each call that made a buffer is paid for by a slot
that fits now and did not before. -/
def Refits (w h : Nat) (p p' : Pool β) (log log' : List (AllocCall β)) : Prop :=
  ∃ new, log' = log ++ new ∧ p.fitting w h ⊆ p'.fitting w h ∧
    new.countP AllocCall.made + (p.fitting w h).card ≤ (p'.fitting w h).card

theorem Refits.of_fitting_eq {w h : Nat} {p p' : Pool β} {log : List (AllocCall β)}
    (hfit : p'.fitting w h = p.fitting w h) : Refits w h p p' log log := by
  rw [Refits, hfit]
  exact ⟨[], (List.append_nil log).symm, subset_refl _, by simp⟩

theorem Refits.trans {w h : Nat} {p₁ p₂ p₃ : Pool β} {log₁ log₂ log₃ : List (AllocCall β)}
    (h₁ : Refits w h p₁ p₂ log₁ log₂) (h₂ : Refits w h p₂ p₃ log₂ log₃) : Refits w h p₁ p₃ log₁ log₃ := by
  obtain ⟨new₁, rfl, hsub₁, hcount₁⟩ := h₁
  obtain ⟨new₂, rfl, hsub₂, hcount₂⟩ := h₂
  refine ⟨new₁ ++ new₂, List.append_assoc _ _ _, hsub₁.trans hsub₂, ?_⟩
  rw [List.countP_append]
  omega

/-- An acquire of `w × h` makes a buffer only into a slot that did not fit, which then fits. -/
theorem acquire_logged_fitting {p p' : Pool β} {alloc : Allocator σ β} {s s' : σ}
    {log log' : List (AllocCall β)} {w h : Nat} {r : Option Slot}
    (hacq : p.acquire alloc.logged (s, log) w h = .ok (r, p', s', log')) : Refits w h p p' log log' := by
  rcases acquire_cases hacq with
    ⟨-, -, rfl, hs⟩ | ⟨i, -, -, hi, ⟨-, -, rfl, hs⟩ | ⟨hfit, made, hmake, -, hp⟩⟩
  · rw [(Prod.mk.inj hs).2]
    exact .of_fitting_eq rfl
  · rw [(Prod.mk.inj hs).2]
    exact .of_fitting_eq rfl
  · rw [Allocator.logged_dropSlot] at hmake
    obtain ⟨s₁, -, hlog⟩ := Allocator.logged_make_eq_ok alloc hmake
    have hlog' : log' = log ++ ((p.slots[i]).toList.map (fun a => AllocCall.drop a.buffer) ++
        [.make i w h made.isSome]) := by
      rw [← List.append_assoc]
      exact (Prod.mk.inj hlog).2
    -- only slot `i` changes, to the buffer made or to nothing
    have hothers : ∀ j, j ≠ i → p'.slots[j] = p.slots[j] := by
      intro j hj
      rw [hp]
      exact (getElem_set_slot _ _ i.isLt _ _).trans (if_neg (Fin.val_ne_of_ne (Ne.symm hj)))
    have hnew : fits p'.slots[i] w h = made.isSome := by
      rw [hp]
      show fits (p.slots.set i (made.map fun b => ⟨b, w, h⟩) i.isLt)[i] w h = _
      rw [Fin.getElem_fin, Vector.getElem_set_self]
      cases made <;> simp [fits]
    obtain ⟨hsub, hcard⟩ := fitting_of_set hfit hothers
    unfold Refits
    refine ⟨_, hlog', hsub, ?_⟩
    have hdrops : ((p.slots[i]).toList.map (fun a => AllocCall.drop a.buffer)).countP AllocCall.made = 0 := by
      rw [List.countP_eq_zero]
      intro c hc
      obtain ⟨a, -, rfl⟩ := List.mem_map.mp hc
      exact Bool.false_ne_true
    have hmade : [(AllocCall.make i w h made.isSome : AllocCall β)].countP AllocCall.made = made.isSome.toNat := by
      cases made <;> rfl
    rw [List.countP_append, hdrops, hmade, hcard, hnew]
    omega

/-! ### Sessions -/

/-- One thing the pool's user does with its allocator: acquire a buffer of a size, write the
lease's buffer and submit or drop the lease; release a slot, known or not; or clear the pool. -/
inductive Use (β : Type) where
  | acquire (width height : Nat) (write : β → β) (submit : Bool)
  | release (slot : Nat)
  | clear

/-- Whether a use keeps to the size `w × h` and clears nothing: an acquire of that size, or a
release. -/
def Use.keeps (w h : Nat) : Use β → Bool
  | .acquire w' h' _ _ => w' == w && h' == h
  | .release _ => true
  | .clear => false

/-- The pool and the allocator's state after one use; an allocator that faults stops it. -/
def use (alloc : Allocator σ β) : Pool β × σ → Use β → Checked (Pool β × σ)
  | (p, s), .acquire w h write submit => do
    let (r, p, s) ← p.acquire alloc s w h
    pure (r.elim p fun i => p.settle i write submit, s)
  | (p, s), .release i => pure (p.release i, s)
  | (p, s), .clear => pure (p.clear alloc s)

/-- The pool and the allocator's state after a sequence of uses. -/
def session (alloc : Allocator σ β) (ps : Pool β × σ) (us : List (Use β)) : Checked (Pool β × σ) :=
  us.foldlM (use alloc) ps

theorem session_cons (alloc : Allocator σ β) (ps : Pool β × σ) (u : Use β) (us : List (Use β)) :
    session alloc ps (u :: us) = (use alloc ps u >>= fun ps => session alloc ps us) := rfl

/-- One use that keeps to `w × h`: each buffer it makes fills a slot that did not fit before. -/
theorem use_logged {p p' : Pool β} {alloc : Allocator σ β} {s s' : σ}
    {log log' : List (AllocCall β)} {w h : Nat} {u : Use β} (hu : u.keeps w h = true)
    (huse : use alloc.logged (p, s, log) u = .ok (p', s', log')) : Refits w h p p' log log' := by
  cases u with
  | acquire w' h' write submit =>
    obtain ⟨rfl, rfl⟩ : w' = w ∧ h' = h := by simpa [Use.keeps] using hu
    cases hacq : p.acquire alloc.logged (s, log) w' h' with
    | error e =>
      rw [use, hacq] at huse
      cases huse
    | ok v =>
      obtain ⟨r, p₁, s₁, log₁⟩ := v
      rw [use, hacq] at huse
      cases huse
      -- settling the lease keeps every slot's size
      have hsettle : (r.elim p₁ fun i => p₁.settle i write submit).fitting w' h' = p₁.fitting w' h' := by
        cases r with
        | none => rfl
        | some i => exact fitting_settle p₁ i write submit w' h'
      exact (acquire_logged_fitting hacq).trans (.of_fitting_eq hsettle)
  | release n =>
    cases huse
    exact .of_fitting_eq (fitting_congr fun j => by rw [release_slots])
  | clear => cases hu

/-- **Over a stretch of one size without clears**, each buffer made fills a slot that did not
fit before, and no slot that fits stops fitting. -/
theorem session_logged {p p' : Pool β} {alloc : Allocator σ β} {s s' : σ}
    {log log' : List (AllocCall β)} {w h : Nat} {us : List (Use β)} (hus : ∀ u ∈ us, u.keeps w h = true)
    (hrun : session alloc.logged (p, s, log) us = .ok (p', s', log')) : Refits w h p p' log log' := by
  -- the uses one by one, each a step of `Refits`
  induction us generalizing p s log with
  | nil =>
    cases hrun
    exact .of_fitting_eq rfl
  | cons u us ih =>
    rw [session_cons] at hrun
    cases huse : use alloc.logged (p, s, log) u with
    | error e =>
      rw [huse] at hrun
      cases hrun
    | ok v =>
      obtain ⟨p₁, s₁, log₁⟩ := v
      rw [huse] at hrun
      exact (use_logged (hus u List.mem_cons_self) huse).trans
        (ih (fun x hx => hus x (List.mem_cons_of_mem u hx)) hrun)

theorem card_fitting_le (p : Pool β) (w h : Nat) : (p.fitting w h).card ≤ poolSize := by
  calc (p.fitting w h).card ≤ Finset.univ.card := Finset.card_le_univ _
    _ = poolSize := Finset.card_fin poolSize

/-- **Buffers are made again only for a new size.** An acquire asks the allocator for a buffer
only for the free slot it picks, only when that slot is empty or holds a buffer of another size,
and after the slot's old buffer was let go of. Over a stretch without clears whose acquires all
ask for one size, whatever the submits, drops, releases and failed allocations, at most as many
buffers are made as there are slots, less those that already held a buffer of that size. -/
theorem reallocates_only_on_size_change :
    (∀ (p p' : Pool β) (alloc : Allocator σ β) (s s' : σ) (log log' : List (AllocCall β))
        (w h : Nat) (r : Option Slot),
      p.acquire alloc.logged (s, log) w h = .ok (r, p', s', log') →
        log' = log ∨ ∃ i made, getElem p.busy i i.isLt = false ∧ p.freeSlot? = some i ∧
          fits (getElem p.slots i i.isLt) w h = false ∧
          log' = log ++ (getElem p.slots i i.isLt).toList.map (fun a => .drop a.buffer) ++
            [.make i w h made]) ∧
    (∀ (alloc : Allocator σ β) (p p' : Pool β) (s s' : σ) (log log' : List (AllocCall β))
        (w h : Nat) (us : List (Use β)),
      (∀ u ∈ us, u.keeps w h = true) → session alloc.logged (p, s, log) us = .ok (p', s', log') →
        ∃ new, log' = log ++ new ∧ new.countP AllocCall.made + (p.fitting w h).card ≤ poolSize) := by
  refine ⟨fun p p' alloc s s' log log' w h r hacq => acquire_logged hacq, ?_⟩
  intro alloc p p' s s' log log' w h us hus hrun
  obtain ⟨new, hlog, -, hcount⟩ := session_logged hus hrun
  exact ⟨new, hlog, hcount.trans (card_fitting_le p' w h)⟩

end Pool

end DeskPanel
