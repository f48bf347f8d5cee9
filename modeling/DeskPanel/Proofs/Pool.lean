import DeskPanel.Surface.Pool

/-!
# Leases of the surface pool

A frame takes a buffer from the pool with `acquire`, may write its pixels, and then either
submits it, which marks the slot busy, or drops the lease, which leaves the slot free. The
compositor releases busy slots, unknown and free ones included, and clearing drops everything.
Whatever the order of these steps and whatever each allocation answers:

* a busy slot always holds a buffer;
* `acquire` hands out the free slot of highest index, with a buffer of exactly the asked size,
  and leaves the busy flags and every other slot as they were;
* it hands out nothing exactly for an empty size, a pool with no free slot, or a failed
  allocation, and then at most the chosen slot has lost its buffer;
* only a submitted lease marks a slot busy, so a busy slot keeps its buffer and its size until
  it is released or the pool is cleared.

## Main definitions

* `Pool.Op`, `Pool.perform`, `Pool.runOps` — what the pool's user does.
* `Pool.HoldsBusy` — every busy slot holds a buffer.

## Main results

* `Pool.acquire_cases` — everything one `acquire` can do.
* `Pool.surface_pool_safety`.
-/

namespace DeskPanel

namespace Pool

variable {β σ : Type}

/-- The pool is not empty, so slots can be written as numerals. Its zero is core's, named in
full so that the instance reads the same whatever instances are in scope. -/
instance : @NeZero Nat (@Zero.ofOfNat0 Nat (instOfNatNat 0)) poolSize := ⟨by decide⟩

/-! ### Slots -/

theorem slot_cases (i : Slot) : i = 0 ∨ i = 1 := by
  obtain ⟨_ | _ | n, hi⟩ := i
  · exact .inl rfl
  · exact .inr rfl
  · exact absurd hi (by simp [poolSize])

/-- A slot of a vector after one index was set. -/
theorem getElem_set_slot {α : Type} (v : Vector α poolSize) (n : Nat) (hn : n < poolSize)
    (j : Slot) (x : α) : (v.set n x hn)[j] = if n = (j : Nat) then x else v[j] := by
  simp only [Fin.getElem_fin, Vector.getElem_set]

/-- The free slot of highest index, read off the two flags. -/
theorem freeSlot?_eq (p : Pool β) :
    p.freeSlot? = if !p.busy[(1 : Slot)] then some 1 else if !p.busy[(0 : Slot)] then some 0
      else none := by
  unfold freeSlot?
  rw [show List.finRange poolSize = [0, 1] from rfl]
  simp only [List.reverse_cons, List.reverse_nil, List.nil_append, List.cons_append,
    List.find?_cons]
  cases p.busy[(1 : Slot)] <;> cases p.busy[(0 : Slot)] <;> rfl

theorem freeSlot?_eq_none_iff {p : Pool β} :
    p.freeSlot? = none ↔ ∀ i : Slot, getElem p.busy i i.isLt = true := by
  simp [freeSlot?, List.find?_eq_none]

theorem forall_above_zero {P : Slot → Prop} : (∀ j : Slot, 0 < j → P j) ↔ P 1 := by
  refine ⟨fun h => h 1 (by decide), fun h j hj => ?_⟩
  rcases slot_cases j with rfl | rfl
  · exact absurd hj (by decide)
  · exact h

theorem forall_above_one {P : Slot → Prop} : (∀ j : Slot, 1 < j → P j) ↔ True := by
  refine ⟨fun _ => trivial, fun _ j hj => ?_⟩
  rcases slot_cases j with rfl | rfl <;> exact absurd hj (by decide)

/-- The slot handed out is free, and every slot above it is busy. -/
theorem freeSlot?_eq_some_iff {p : Pool β} {i : Slot} :
    p.freeSlot? = some i ↔
      getElem p.busy i i.isLt = false ∧ ∀ j : Slot, i < j → getElem p.busy j j.isLt = true := by
  rw [freeSlot?_eq]
  rcases slot_cases i with rfl | rfl
  · rw [forall_above_zero]
    cases p.busy[(1 : Slot)] <;> cases p.busy[(0 : Slot)] <;> decide
  · rw [forall_above_one]
    cases p.busy[(1 : Slot)] <;> cases p.busy[(0 : Slot)] <;> decide

theorem freeSlot?_ne_of_busy {p : Pool β} {j : Slot} (hj : getElem p.busy j j.isLt = true) :
    p.freeSlot? ≠ some j := fun h => by
  rw [(freeSlot?_eq_some_iff.mp h).1] at hj
  exact Bool.false_ne_true hj

/-! ### One acquire -/

section Acquire

variable {p p' : Pool β} {alloc : Allocator σ β} {s s' : σ} {w h : Nat} {r : Option Slot}

/-- Everything one `acquire` can do. It refuses an empty size or a pool with no free slot and
changes nothing. Otherwise it takes the free slot of highest index: a buffer there of the asked
size is handed out as it is; any other is dropped first, then a new one is made, and the slot
holds what making gave, handed out when there was one. -/
theorem acquire_cases (hacq : p.acquire alloc s w h = .ok (r, p', s')) :
    ((w = 0 ∨ h = 0) ∨ p.freeSlot? = none) ∧ r = none ∧ p' = p ∧ s' = s ∨
    ∃ i, w ≠ 0 ∧ h ≠ 0 ∧ p.freeSlot? = some i ∧
      (fits (getElem p.slots i i.isLt) w h = true ∧ r = some i ∧ p' = p ∧ s' = s ∨
        fits (getElem p.slots i i.isLt) w h = false ∧ ∃ made : Option β,
          alloc.make i w h (alloc.dropSlot (getElem p.slots i i.isLt) s) = .ok (made, s') ∧
          r = made.map (fun _ => i) ∧
          p' = { p with slots := p.slots.set i (made.map fun b => ⟨b, w, h⟩) i.isLt }) := by
  unfold acquire at hacq
  by_cases hz : w = 0 ∨ h = 0
  · rw [if_pos hz] at hacq
    cases hacq
    exact .inl ⟨.inl hz, rfl, rfl, rfl⟩
  rw [if_neg hz] at hacq
  have hw : w ≠ 0 := fun e => hz (.inl e)
  have hh : h ≠ 0 := fun e => hz (.inr e)
  cases hfree : p.freeSlot? with
  | none =>
    rw [hfree] at hacq
    cases hacq
    exact .inl ⟨.inr rfl, rfl, rfl, rfl⟩
  | some i =>
    rw [hfree] at hacq
    dsimp only at hacq
    refine .inr ⟨i, hw, hh, rfl, ?_⟩
    cases hfit : fits p.slots[i] w h with
    | true =>
      rw [if_pos hfit] at hacq
      cases hacq
      exact .inl ⟨rfl, rfl, rfl, rfl⟩
    | false =>
      rw [hfit, if_neg Bool.false_ne_true] at hacq
      refine .inr ⟨rfl, ?_⟩
      cases hmake : alloc.make i w h (alloc.dropSlot p.slots[i] s) with
      | error e => rw [hmake] at hacq; cases hacq
      | ok v =>
        obtain ⟨made, s₁⟩ := v
        rw [hmake] at hacq
        cases made <;> cases hacq <;> exact ⟨_, rfl, rfl, rfl⟩

/-- An acquire changes no busy flag. -/
theorem acquire_busy (hacq : p.acquire alloc s w h = .ok (r, p', s')) : p'.busy = p.busy := by
  rcases acquire_cases hacq with
    ⟨-, -, rfl, -⟩ | ⟨i, -, -, -, ⟨-, -, rfl, -⟩ | ⟨-, made, -, -, rfl⟩⟩
  all_goals rfl

/-- Only the slot an acquire picks can change: every other keeps its buffer, or its lack of one. -/
theorem acquire_slots_other (hacq : p.acquire alloc s w h = .ok (r, p', s')) {j : Slot}
    (hj : p.freeSlot? ≠ some j) : getElem p'.slots j j.isLt = getElem p.slots j j.isLt := by
  rcases acquire_cases hacq with
    ⟨-, -, rfl, -⟩ | ⟨i, -, -, hi, ⟨-, -, rfl, -⟩ | ⟨-, made, -, -, rfl⟩⟩
  · rfl
  · rfl
  · have hij : i ≠ j := fun e => hj (e ▸ hi)
    exact (getElem_set_slot _ _ i.isLt _ _).trans (if_neg (Fin.val_ne_of_ne hij))

/-- The only buffer an acquire lets go of is the one in the slot it picks. -/
theorem acquire_state (hacq : p.acquire alloc s w h = .ok (r, p', s')) :
    s' = s ∨ ∃ i made, p.freeSlot? = some i ∧
      alloc.make i w h (alloc.dropSlot (getElem p.slots i i.isLt) s) = .ok (made, s') := by
  rcases acquire_cases hacq with ⟨-, -, -, rfl⟩ | ⟨i, -, -, hi, ⟨-, -, -, rfl⟩ | ⟨-, made, hm, -⟩⟩
  · exact .inl rfl
  · exact .inl rfl
  · exact .inr ⟨i, made, hi, hm⟩

/-- A lease is on the free slot of highest index, and its buffer has exactly the asked size. -/
theorem acquire_eq_some (hacq : p.acquire alloc s w h = .ok (r, p', s')) {i : Slot}
    (hr : r = some i) :
    p.freeSlot? = some i ∧
      ∃ a, getElem p'.slots i i.isLt = some a ∧ a.width = w ∧ a.height = h := by
  rcases acquire_cases hacq with
    ⟨-, hn, -⟩ | ⟨k, -, -, hk, ⟨hfit, hrk, hp, -⟩ | ⟨-, made, -, hrk, rfl⟩⟩
  · rw [hn] at hr; cases hr
  · rw [hrk, Option.some.injEq] at hr
    subst hr
    refine ⟨hk, ?_⟩
    rw [hp]
    cases ha : p.slots[k] with
    | none => rw [ha] at hfit; cases hfit
    | some a =>
      rw [ha] at hfit
      simp only [fits, Bool.and_eq_true, beq_iff_eq] at hfit
      exact ⟨a, rfl, hfit⟩
  · cases made with
    | none => rw [hrk] at hr; cases hr
    | some b =>
      rw [hrk, Option.map_some, Option.some.injEq] at hr
      subst hr
      exact ⟨hk, ⟨b, w, h⟩, Vector.getElem_set_self k.isLt, rfl, rfl⟩

/-- An acquire hands out nothing exactly when the size is empty, every slot is busy, or the
slot it picked needed a new buffer and making one failed. -/
theorem acquire_eq_none_iff (hacq : p.acquire alloc s w h = .ok (r, p', s')) :
    r = none ↔ (w = 0 ∨ h = 0) ∨ (∀ j : Slot, getElem p.busy j j.isLt = true) ∨
      ∃ i, p.freeSlot? = some i ∧ fits (getElem p.slots i i.isLt) w h = false ∧
        ∃ s₁, alloc.make i w h (alloc.dropSlot (getElem p.slots i i.isLt) s) = .ok (none, s₁) := by
  rw [← freeSlot?_eq_none_iff]
  rcases acquire_cases hacq with
    ⟨hz, hn, -⟩ | ⟨i, hw, hh, hi, ⟨hfit, hr, -⟩ | ⟨hfit, made, hm, hr, -⟩⟩
  · refine iff_of_true hn ?_
    rcases hz with hz | hn
    · exact .inl hz
    · exact .inr (.inl hn)
  · refine iff_of_false (by rw [hr]; exact Option.some_ne_none i) ?_
    rintro ((hz | hz) | hn | ⟨k, hk, hf, -⟩)
    · exact hw hz
    · exact hh hz
    · rw [hn] at hi; cases hi
    · rw [hi, Option.some.injEq] at hk
      subst hk
      rw [hfit] at hf
      cases hf
  · cases made with
    | none => exact iff_of_true hr (.inr (.inr ⟨i, hi, hfit, s', hm⟩))
    | some b =>
      refine iff_of_false (by rw [hr]; exact Option.some_ne_none i) ?_
      rintro ((hz | hz) | hn | ⟨k, hk, -, s₁, hk'⟩)
      · exact hw hz
      · exact hh hz
      · rw [hn] at hi; cases hi
      · rw [hi, Option.some.injEq] at hk
        subst hk
        rw [hm] at hk'
        cases hk'

end Acquire

/-! ### The other operations -/

section Operations

variable {p : Pool β} {i j : Slot}

@[simp] theorem modifyBuffer_busy (f : β → β) : (p.modifyBuffer i f).busy = p.busy := rfl

@[simp] theorem submit_slots : (p.submit i).slots = p.slots := rfl

@[simp] theorem release_slots (n : Nat) : (p.release n).slots = p.slots := by
  unfold release
  split <;> rfl

@[simp] theorem clear_fst (alloc : Allocator σ β) (s : σ) : (p.clear alloc s).1 = {} := rfl

/-- Writing a slot's buffer keeps whether each slot holds one, and leaves the other slots alone. -/
theorem modifyBuffer_slots (f : β → β) :
    (getElem (p.modifyBuffer i f).slots j j.isLt).isSome = (getElem p.slots j j.isLt).isSome ∧
      (i ≠ j → getElem (p.modifyBuffer i f).slots j j.isLt = getElem p.slots j j.isLt) := by
  unfold modifyBuffer
  rw [getElem_set_slot]
  by_cases hij : i = j
  · subst hij
    simp
  · simp [Fin.val_ne_of_ne hij, hij]

theorem submit_busy : getElem (p.submit i).busy j j.isLt = (i == j || getElem p.busy j j.isLt) := by
  unfold submit
  rw [getElem_set_slot]
  by_cases hij : i = j
  · simp [hij]
  · simp [Fin.val_ne_of_ne hij, hij]

theorem release_busy (n : Nat) :
    getElem (p.release n).busy j j.isLt = (n != j && getElem p.busy j j.isLt) := by
  unfold release
  split
  · rename_i hn
    show (p.busy.set n false hn)[j] = _
    rw [getElem_set_slot]
    by_cases hnj : n = j <;> simp [hnj]
  · rename_i hn
    have hnj : n ≠ j := fun e => hn (e ▸ j.isLt)
    simp [hnj]

end Operations

/-! ### Sequences of operations -/

/-- One thing the pool's user does: acquire a buffer of a size, with an allocator in a state of
its own, write the lease's buffer and then submit the lease or drop it; release a slot, known
or not; or clear the pool. -/
inductive Op (σ β : Type) where
  | acquire (alloc : Allocator σ β) (s : σ) (width height : Nat) (write : β → β) (submit : Bool)
  | release (slot : Nat)
  | clear (alloc : Allocator σ β) (s : σ)

/-- A lease's buffer written, and the lease then submitted or dropped. -/
def settle (p : Pool β) (i : Slot) (write : β → β) (submit : Bool) : Pool β :=
  if submit then (p.modifyBuffer i write).submit i else p.modifyBuffer i write

/-- The pool after one operation; an allocator that faults stops it. -/
def perform (p : Pool β) : Op σ β → Checked (Pool β)
  | .acquire alloc s w h write submit => do
    let (r, p, _) ← p.acquire alloc s w h
    pure (match r with
      | some i => p.settle i write submit
      | none => p)
  | .release i => pure (p.release i)
  | .clear alloc s => pure (p.clear alloc s).1

/-- The pool after a sequence of operations. -/
def runOps (p : Pool β) (ops : List (Op σ β)) : Checked (Pool β) := ops.foldlM perform p

/-- Whether an operation may free slot `j`: a release of it, or a clear. -/
def Op.frees : Op σ β → Slot → Bool
  | .release i, j => i == j
  | .clear _ _, _ => true
  | .acquire .., _ => false

/-- Every busy slot holds a buffer. -/
def HoldsBusy (p : Pool β) : Prop :=
  ∀ i : Slot, getElem p.busy i i.isLt = true → (getElem p.slots i i.isLt).isSome

theorem runOps_cons (p : Pool β) (op : Op σ β) (ops : List (Op σ β)) :
    runOps p (op :: ops) = (p.perform op >>= fun p => runOps p ops) := rfl

/-- An acquire as one operation: what `acquire` handed out, settled. -/
theorem perform_acquire {p p' : Pool β} {alloc : Allocator σ β} {s : σ} {w h : Nat}
    {write : β → β} {submit : Bool} (hop : p.perform (.acquire alloc s w h write submit) = .ok p') :
    ∃ r p₁ s₁, p.acquire alloc s w h = .ok (r, p₁, s₁) ∧
      p' = match r with
        | some i => p₁.settle i write submit
        | none => p₁ := by
  simp only [perform] at hop
  cases hacq : p.acquire alloc s w h with
  | error e => rw [hacq] at hop; cases hop
  | ok v =>
    obtain ⟨r, p₁, s₁⟩ := v
    rw [hacq] at hop
    exact ⟨r, p₁, s₁, rfl, (Except.ok.inj hop).symm⟩

theorem holdsBusy_empty : HoldsBusy ({} : Pool β) := by
  intro i hi
  simp [Fin.getElem_fin] at hi

theorem HoldsBusy.settle {p : Pool β} (hp : HoldsBusy p) {i : Slot}
    (hi : (getElem p.slots i i.isLt).isSome) (write : β → β) (submit : Bool) :
    HoldsBusy (p.settle i write submit) := by
  intro j hj
  have hkeep := (modifyBuffer_slots (p := p) (i := i) (j := j) write).1
  unfold Pool.settle at hj ⊢
  cases submit with
  | false =>
    simp only [Bool.false_eq_true, ↓reduceIte] at hj ⊢
    rw [hkeep]
    exact hp j hj
  | true =>
    simp only [↓reduceIte] at hj ⊢
    show ((p.modifyBuffer i write).slots[j]).isSome = true
    rw [hkeep]
    rw [submit_busy, modifyBuffer_busy] at hj
    by_cases hij : i = j
    · subst hij
      exact hi
    · exact hp j (by simpa [hij] using hj)

/-- **Busy slots hold buffers**, whatever one operation does. -/
theorem HoldsBusy.perform {p p' : Pool β} (hp : HoldsBusy p) {op : Op σ β}
    (hop : p.perform op = .ok p') : HoldsBusy p' := by
  cases op with
  | acquire alloc s w h write submit =>
    obtain ⟨r, p₁, s₁, hacq, rfl⟩ := perform_acquire hop
    have hp₁ : HoldsBusy p₁ := by
      intro j hj
      rw [acquire_busy hacq] at hj
      rw [acquire_slots_other hacq (freeSlot?_ne_of_busy hj)]
      exact hp j hj
    cases r with
    | none => exact hp₁
    | some i =>
      obtain ⟨-, a, ha, -⟩ := acquire_eq_some hacq rfl
      exact hp₁.settle (by rw [ha]; rfl) write submit
  | release n =>
    cases hop
    intro j hj
    rw [release_busy, Bool.and_eq_true] at hj
    rw [release_slots]
    exact hp j hj.2
  | clear alloc s =>
    cases hop
    exact holdsBusy_empty

theorem HoldsBusy.runOps {p p' : Pool β} (hp : HoldsBusy p) {ops : List (Op σ β)}
    (hrun : p.runOps ops = .ok p') : HoldsBusy p' := by
  induction ops generalizing p with
  | nil => cases hrun; exact hp
  | cons op ops ih =>
    rw [runOps_cons] at hrun
    cases hop : p.perform op with
    | error e => rw [hop] at hrun; cases hrun
    | ok p₁ =>
      rw [hop] at hrun
      exact ih (hp.perform hop) hrun

/-- A busy slot that an operation does not free stays busy, with the same buffer. -/
theorem perform_keeps_busy {p p' : Pool β} {op : Op σ β} (hop : p.perform op = .ok p')
    {j : Slot} (hj : getElem p.busy j j.isLt = true) (hf : op.frees j = false) :
    getElem p'.busy j j.isLt = true ∧ getElem p'.slots j j.isLt = getElem p.slots j j.isLt := by
  cases op with
  | acquire alloc s w h write submit =>
    obtain ⟨r, p₁, s₁, hacq, rfl⟩ := perform_acquire hop
    have hb₁ : p₁.busy = p.busy := acquire_busy hacq
    have hs₁ : p₁.slots[j] = p.slots[j] := acquire_slots_other hacq (freeSlot?_ne_of_busy hj)
    cases r with
    | none => exact ⟨hb₁ ▸ hj, hs₁⟩
    | some i =>
      -- the lease is on a free slot, so not on `j`
      have hij : i ≠ j := by
        rintro rfl
        have hfree := (freeSlot?_eq_some_iff.mp (acquire_eq_some hacq rfl).1).1
        rw [hfree] at hj
        cases hj
      have hmod := (modifyBuffer_slots (p := p₁) (i := i) (j := j) write).2 hij
      cases submit with
      | false =>
        simp only [settle, Bool.false_eq_true, ↓reduceIte]
        exact ⟨by simp only [modifyBuffer_busy, hb₁, hj], hmod.trans hs₁⟩
      | true =>
        simp only [settle, ↓reduceIte]
        refine ⟨?_, hmod.trans hs₁⟩
        simp only [submit_busy, modifyBuffer_busy, hb₁, hj, Bool.or_true]
  | release n =>
    cases hop
    have hnj : n ≠ j := by simpa [Op.frees] using hf
    refine ⟨?_, by simp only [release_slots]⟩
    simp only [release_busy, hj, Bool.and_true, bne_iff_ne]
    exact hnj
  | clear alloc s => simp [Op.frees] at hf

/-- **Only a submitted lease marks a slot busy.** A slot that turns busy in one operation was
handed out by an acquire whose lease was submitted. -/
theorem perform_busy_of_submit {p p' : Pool β} {op : Op σ β} (hop : p.perform op = .ok p')
    {j : Slot} (hj' : getElem p'.busy j j.isLt = true) (hj : getElem p.busy j j.isLt = false) :
    ∃ alloc s w h write p₁ s₁, op = .acquire alloc s w h write true ∧
      p.acquire alloc s w h = .ok (some j, p₁, s₁) := by
  cases op with
  | acquire alloc s w h write submit =>
    obtain ⟨r, p₁, s₁, hacq, rfl⟩ := perform_acquire hop
    have hb₁ : p₁.busy = p.busy := acquire_busy hacq
    cases r with
    | none => rw [hb₁, hj] at hj'; cases hj'
    | some i =>
      cases submit with
      | false =>
        simp only [settle, Bool.false_eq_true, ↓reduceIte] at hj'
        simp only [modifyBuffer_busy, hb₁, hj, Bool.false_eq_true] at hj'
      | true =>
        simp only [settle, ↓reduceIte] at hj'
        simp only [submit_busy, modifyBuffer_busy, hb₁, hj, Bool.or_false, beq_iff_eq] at hj'
        subst hj'
        exact ⟨alloc, s, w, h, write, p₁, s₁, rfl, hacq⟩
  | release n =>
    cases hop
    simp only [release_busy, hj, Bool.and_false, Bool.false_eq_true] at hj'
  | clear alloc s =>
    cases hop
    simp [Fin.getElem_fin] at hj'

/-- **A busy slot keeps its buffer and its size until it is released or the pool is cleared.** -/
theorem runOps_keeps_busy {p p' : Pool β} {ops : List (Op σ β)} (hrun : p.runOps ops = .ok p')
    {j : Slot} (hj : getElem p.busy j j.isLt = true) (hf : ∀ op ∈ ops, op.frees j = false) :
    getElem p'.busy j j.isLt = true ∧ getElem p'.slots j j.isLt = getElem p.slots j j.isLt := by
  induction ops generalizing p with
  | nil => cases hrun; exact ⟨hj, rfl⟩
  | cons op ops ih =>
    rw [runOps_cons] at hrun
    cases hop : p.perform op with
    | error e => rw [hop] at hrun; cases hrun
    | ok p₁ =>
      rw [hop] at hrun
      obtain ⟨hj₁, hs₁⟩ := perform_keeps_busy hop hj (hf op (List.mem_cons_self ..))
      obtain ⟨hj', hs'⟩ := ih hrun hj₁ fun o ho => hf o (List.mem_cons_of_mem _ ho)
      exact ⟨hj', hs'.trans hs₁⟩

/-- Releasing a slot while every other one is busy makes it the slot the next acquire picks. -/
theorem freeSlot?_release {p : Pool β} {i : Slot}
    (hothers : ∀ k : Slot, k ≠ i → getElem p.busy k k.isLt = true) :
    (p.release i).freeSlot? = some i := by
  rw [freeSlot?_eq_some_iff]
  refine ⟨by simp only [release_busy, bne_self_eq_false, Bool.false_and], fun j hj => ?_⟩
  have hji : j ≠ i := by
    rintro rfl
    exact Nat.lt_irrefl _ hj
  simp only [release_busy, hothers j hji, Bool.and_true, bne_iff_ne, ne_eq]
  exact Fin.val_ne_of_ne hji.symm

/-- A picked slot whose buffer has the asked size is handed out as it is: the pool and the
allocator are left alone. -/
theorem acquire_reuse {p : Pool β} {alloc : Allocator σ β} {s : σ} {w h : Nat} {i : Slot}
    (hi : p.freeSlot? = some i) (hw : w ≠ 0) (hh : h ≠ 0)
    (hfit : fits (getElem p.slots i i.isLt) w h = true) :
    p.acquire alloc s w h = .ok (some i, p, s) := by
  unfold acquire
  rw [if_neg (by rintro (e | e) <;> contradiction), hi]
  dsimp only
  rw [if_pos hfit]
  rfl

/-! ### Safety of the pool -/

/-- **Surface pool safety.** Over every sequence of acquires (each lease written and then
submitted or dropped, whatever each allocation answers), releases of any slot, and clears:

* every busy slot holds a buffer;
* an acquire keeps every busy flag, changes no slot but the one it picks, and lets go of no
  buffer but that slot's; a lease it hands out is on the free slot of highest index, with a
  buffer of exactly the asked size; it hands out nothing exactly for an empty size, a pool with
  every slot busy, or a failed allocation of a new buffer;
* a slot turns busy only when an acquire's lease on it is submitted;
* a busy slot keeps its buffer until it is released or the pool is cleared;
* once a busy slot is released while the other is busy, the next acquire picks it, and hands
  out its buffer as it is when the size matches. -/
theorem surface_pool_safety :
    (∀ (ops : List (Op σ β)) (p : Pool β), runOps {} ops = .ok p →
      ∀ i : Slot, getElem p.busy i i.isLt = true → (getElem p.slots i i.isLt).isSome) ∧
    (∀ (p p' : Pool β) (alloc : Allocator σ β) (s s' : σ) (w h : Nat) (r : Option Slot),
      p.acquire alloc s w h = .ok (r, p', s') →
        p'.busy = p.busy ∧
        (∀ j : Slot, p.freeSlot? ≠ some j → getElem p'.slots j j.isLt = getElem p.slots j j.isLt) ∧
        (s' = s ∨ ∃ i made, p.freeSlot? = some i ∧
          alloc.make i w h (alloc.dropSlot (getElem p.slots i i.isLt) s) = .ok (made, s')) ∧
        (∀ i, r = some i → getElem p.busy i i.isLt = false ∧
          (∀ j : Slot, i < j → getElem p.busy j j.isLt = true) ∧
          ∃ a, getElem p'.slots i i.isLt = some a ∧ a.width = w ∧ a.height = h) ∧
        (r = none ↔ (w = 0 ∨ h = 0) ∨ (∀ j : Slot, getElem p.busy j j.isLt = true) ∨
          ∃ i, p.freeSlot? = some i ∧ fits (getElem p.slots i i.isLt) w h = false ∧
            ∃ s₁, alloc.make i w h (alloc.dropSlot (getElem p.slots i i.isLt) s) =
              .ok (none, s₁))) ∧
    (∀ (p p' : Pool β) (op : Op σ β) (j : Slot), p.perform op = .ok p' →
      getElem p.busy j j.isLt = false → getElem p'.busy j j.isLt = true →
      ∃ alloc s w h write p₁ s₁, op = .acquire alloc s w h write true ∧
        p.acquire alloc s w h = .ok (some j, p₁, s₁)) ∧
    (∀ (p p' : Pool β) (ops : List (Op σ β)) (j : Slot), p.runOps ops = .ok p' →
      getElem p.busy j j.isLt = true → (∀ op ∈ ops, op.frees j = false) →
      getElem p'.busy j j.isLt = true ∧ getElem p'.slots j j.isLt = getElem p.slots j j.isLt) ∧
    (∀ (p : Pool β) (i : Slot), (∀ k : Slot, k ≠ i → getElem p.busy k k.isLt = true) →
      (p.release i).freeSlot? = some i ∧
      ∀ (alloc : Allocator σ β) (s : σ) (w h : Nat), w ≠ 0 → h ≠ 0 →
        fits (getElem p.slots i i.isLt) w h = true →
          (p.release i).acquire alloc s w h = .ok (some i, p.release i, s)) := by
  refine ⟨fun ops p hrun => holdsBusy_empty.runOps hrun, ?_, ?_, ?_, ?_⟩
  · intro p p' alloc s s' w h r hacq
    refine ⟨acquire_busy hacq, fun j hj => acquire_slots_other hacq hj, acquire_state hacq,
      fun i hi => ?_, acquire_eq_none_iff hacq⟩
    obtain ⟨hfree, hsize⟩ := acquire_eq_some hacq hi
    exact ⟨(freeSlot?_eq_some_iff.mp hfree).1, (freeSlot?_eq_some_iff.mp hfree).2, hsize⟩
  · intro p p' op j hop hj hj'
    exact perform_busy_of_submit hop hj' hj
  · intro p p' ops j hrun hj hf
    exact runOps_keeps_busy hrun hj hf
  · intro p i hothers
    have hfree := freeSlot?_release hothers
    refine ⟨hfree, fun alloc s w h hw hh hfit => acquire_reuse hfree hw hh ?_⟩
    simpa only [release_slots] using hfit

end Pool

end DeskPanel
