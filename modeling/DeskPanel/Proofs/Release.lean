import DeskPanel.Proofs.Registry

/-!
# Every window handle is released once

A registry lets go of a handle on three paths: at once when a report brings a second handle for
an id it tracks, when the window of an id is removed, and when the registry is cleared (dropping
a registry clears it). No handle may be missed, which would leak it, and none released twice, as
a drop after a clear or a removal after a clear would do if the structures disagreed.

The registry names handles by their ids, so two handles of one id look alike in its release
log. To follow each handle, a `Ledger` runs beside the registry and names every reported handle
by its place among the reports: the handle that each key of the report order holds, and the
handles released so far. It follows the registry's own decisions, and forgetting it gives back
the registry and its release log (`Ledger.registry_run`, `Ledger.releasedIds_run`).

The ledger's invariant is a partition: every reported handle is either released, once, or held
by exactly one live window, never both. A clear releases every held handle, so after the last
clear or the drop every reported handle has been released exactly once, and the release log is
the multiset of reported ids.

## Main definitions

* `Registry.Op`, `Registry.apply`, `Registry.applyAll` — sequences of registry operations with
  the handles they release.
* `Ledger`, `Ledger.apply`, `Ledger.run` — the registry beside the handles reported to it.
* `Ledger.Sound` — the ledger's invariant.

## Main results

* `Ledger.Sound.apply` — every operation keeps the invariant.
* `Ledger.releasedIds_apply` — the handles an operation releases are those the registry releases.
* `Ledger.handles_released_once` — over every sequence of operations, every handle is released
  exactly once by the last clear or the drop.
-/

namespace DeskPanel

/-! ### Lists of pairs -/

theorem List.mem_of_lookup_eq_some {α β : Type} [DecidableEq α] {l : List (α × β)} {a : α} {b : β}
    (h : l.lookup a = some b) : (a, b) ∈ l := by
  obtain ⟨l₁, l₂, rfl, -⟩ := List.lookup_eq_some_iff.mp h
  exact List.mem_append_right _ List.mem_cons_self

theorem List.lookup_isSome_of_mem_map_fst {α β : Type} [DecidableEq α] {l : List (α × β)} {a : α}
    (h : a ∈ l.map (·.1)) : (l.lookup a).isSome := by
  obtain ⟨p, hp, rfl⟩ := List.mem_map.mp h
  exact List.lookup_isSome_iff.mpr ⟨p, hp, beq_self_eq_true _⟩

/-- Taking out the only pair of a key puts its value first among the values. -/
theorem List.perm_snd_of_lookup {α β : Type} [DecidableEq α] {l : List (α × β)} {a : α} {b : β}
    (hnodup : (l.map (·.1)).Nodup) (h : l.lookup a = some b) :
    (l.map (·.2)).Perm (b :: (l.filter (·.1 != a)).map (·.2)) := by
  induction l with
  | nil => cases h
  | cons p l ih =>
    obtain ⟨a', b'⟩ := p
    rw [List.map_cons, List.nodup_cons] at hnodup
    rw [List.lookup_cons_ite] at h
    split at h
    · rename_i e
      subst e
      cases h
      -- no other pair has the key, so the filter keeps the rest
      have hrest : l.filter (·.1 != a) = l := by
        rw [List.filter_eq_self]
        intro q hq
        have hq' : q.1 ≠ a := fun e =>
          hnodup.1 (show a ∈ l.map (·.1) from List.mem_map.mpr ⟨q, hq, e⟩)
        simpa using hq'
      simp [hrest]
    · rename_i hne
      have hne' : (a' != a) = true := bne_iff_ne.mpr (Ne.symm hne)
      simp only [List.filter_cons, hne', if_true, List.map_cons]
      exact ((ih hnodup.2 h).cons b').trans (List.Perm.swap b b' _)

/-- Reading places below the length of a list reads the same in every longer list. -/
theorem List.filterMap_getElem?_append {α : Type} {xs ys : List α} {js : List Nat}
    (h : ∀ j ∈ js, j < xs.length) :
    js.filterMap (fun j => (xs ++ ys)[j]?) = js.filterMap fun j => xs[j]? := by
  apply List.filterMap_congr
  intro j hj
  exact List.getElem?_append_left (h j hj)

/-- Reading a list at each of its places gives the list back. -/
theorem List.filterMap_getElem?_range {α : Type} :
    ∀ xs : List α, (List.range xs.length).filterMap (fun j => xs[j]?) = xs
  | [] => rfl
  | x :: xs => by
    rw [List.length_cons, List.range_succ_eq_map, List.filterMap_cons, List.filterMap_map]
    simp [List.filterMap_getElem?_range xs]

/-! ### Sequences of registry operations -/

namespace Registry

/-- An operation on a registry. -/
inductive Op (η : Type) where
  | report (id : η)
  | setTitle (id : η) (title : String)
  | setAppId (id : η) (appId : String)
  | setState (id : η) (state : WindowState)
  | remove (id : η)
  | clear

variable {η : Type} [DecidableEq η]

/-- One operation: the registry after it and the handles it releases. An update or a removal of
an id that is not tracked leaves the registry as it was. -/
def apply (r : Registry η) : Op η → Registry η × List η
  | .report id => ((r.report id).1, (r.report id).2.2)
  | .setTitle id t => ((r.setTitle id t).getD r, [])
  | .setAppId id a => ((r.setAppId id a).getD r, [])
  | .setState id s => ((r.setState id s).getD r, [])
  | .remove id => (r.remove id).getD (r, [])
  | .clear => r.clear

/-- Operations in order: the registry after them and every handle released, in order. -/
def applyAll (r : Registry η) : List (Op η) → Registry η × List η
  | [] => (r, [])
  | op :: ops => (((r.apply op).1.applyAll ops).1, (r.apply op).2 ++ ((r.apply op).1.applyAll ops).2)

/-- The ids of the handles that a sequence of operations reports, in order. -/
def reports : List (Op η) → List η
  | [] => []
  | .report id :: ops => id :: reports ops
  | _ :: ops => reports ops

theorem applyAll_append (r : Registry η) (ops ops' : List (Op η)) :
    r.applyAll (ops ++ ops') = (((r.applyAll ops).1.applyAll ops').1,
      (r.applyAll ops).2 ++ ((r.applyAll ops).1.applyAll ops').2) := by
  induction ops generalizing r with
  | nil => simp [applyAll]
  | cons op ops ih => simp [applyAll, ih]

omit [DecidableEq η] in
theorem reports_append (ops ops' : List (Op η)) : reports (ops ++ ops') = reports ops ++ reports ops' := by
  induction ops with
  | nil => rfl
  | cons op ops ih => cases op <;> simp [reports, ih]

/-- A window changed by an update keeps its handle. -/
theorem get?_modify?_getD {r : Registry η} {id : η} {f : Tracked η → Tracked η}
    (hf : ∀ w, (f w).id = w.id) {k : WindowKey} {w : Tracked η} (hw : r.get? k = some w) :
    ∃ w', ((r.modify? id f).getD r).get? k = some w' ∧ w'.id = w.id := by
  cases hk : r.keyOf? id with
  | none => exact ⟨w, by rw [modify?_of_untracked hk]; exact hw, rfl⟩
  | some k₀ =>
    rw [modify?_of_tracked hk]
    cases hm : r.windows.modify? k₀ f with
    | none => exact ⟨w, hw, rfl⟩
    | some m =>
      rw [Option.map_some, Option.getD_some]
      show ∃ w', m.get? k = some w' ∧ _
      rw [SlotMap.get?_of_modify? hm]
      split
      · rename_i e
        subst e
        exact ⟨f w, by rw [show r.windows.get? k = some w from hw]; rfl, hf w⟩
      · exact ⟨w, hw, rfl⟩

theorem order_modify?_getD (r : Registry η) (id : η) (f : Tracked η → Tracked η) :
    ((r.modify? id f).getD r).order = r.order := by
  cases hk : r.keyOf? id with
  | none => rw [modify?_of_untracked hk]; rfl
  | some k₀ =>
    rw [modify?_of_tracked hk]
    cases r.windows.modify? k₀ f <;> rfl

theorem Consistent.modify?_getD {r : Registry η} (hc : r.Consistent) (id : η)
    {f : Tracked η → Tracked η} (hf : ∀ w, (f w).id = w.id) : ((r.modify? id f).getD r).Consistent := by
  cases h : r.modify? id f with
  | none => exact hc
  | some r' => exact hc.modify? h hf

end Registry

/-! ### The ledger -/

/-- A registry beside the handles reported to it, each handle named by its place among the
reports: the ids of the handles reported so far, the handle that each key of the report order
holds, and the handles released so far, in order. -/
structure Ledger (η : Type) where
  registry : Registry η
  reported : List η := []
  holders : List (WindowKey × Nat) := []
  released : List Nat := []

namespace Ledger

open Registry (Op)

variable {η : Type} [DecidableEq η]

/-- No registry yet: nothing reported, held or released. -/
def empty : Ledger η := { registry := {} }

/-- One operation, following each handle. A reported handle is held under the key it was given,
or released at once when a window already has its id; a removal releases the handle its window's
key holds; a clear releases every held handle, in report order. -/
def apply (L : Ledger η) : Op η → Ledger η
  | .report id =>
    let n := L.reported.length
    let (r, k, rel) := L.registry.report id
    if rel.isEmpty then ⟨r, L.reported ++ [id], L.holders ++ [(k, n)], L.released⟩
    else ⟨r, L.reported ++ [id], L.holders, L.released ++ [n]⟩
  | .remove id =>
    match L.registry.keyOf? id with
    | some k =>
      ⟨(L.registry.apply (.remove id)).1, L.reported, L.holders.filter (·.1 != k),
        L.released ++ (L.holders.lookup k).toList⟩
    | none => L
  | .clear => ⟨L.registry.clear.1, L.reported, [], L.released ++ L.holders.map (·.2)⟩
  | .setTitle id t => { L with registry := (L.registry.apply (.setTitle id t)).1 }
  | .setAppId id a => { L with registry := (L.registry.apply (.setAppId id a)).1 }
  | .setState id s => { L with registry := (L.registry.apply (.setState id s)).1 }

/-- Operations in order. -/
def run (L : Ledger η) : List (Op η) → Ledger η
  | [] => L
  | op :: ops => (L.apply op).run ops

theorem run_append (L : Ledger η) (ops ops' : List (Op η)) :
    L.run (ops ++ ops') = (L.run ops).run ops' := by
  induction ops generalizing L with
  | nil => rfl
  | cons op ops ih => exact ih _

/-- The ids of handles named by their places among the reports. -/
def ids (L : Ledger η) (js : List Nat) : List η := js.filterMap fun j => L.reported[j]?

/-- The ledger's invariant. The registry is consistent; the holders follow the report order, and
the handle each key holds has its window's id; and every reported handle is either released or
held, exactly once, never both. -/
structure Sound (L : Ledger η) : Prop where
  consistent : L.registry.Consistent
  keys : L.holders.map (·.1) = L.registry.order
  holds : ∀ k j, (k, j) ∈ L.holders → ∃ w, L.registry.get? k = some w ∧ L.reported[j]? = some w.id
  partition : (L.released ++ L.holders.map (·.2)).Perm (List.range L.reported.length)

theorem sound_empty : (empty : Ledger η).Sound where
  consistent := Registry.consistent_empty
  keys := rfl
  holds _ _ h := by cases h
  partition := List.Perm.refl []

section Sound

variable {L : Ledger η}

theorem Sound.lt_of_mem (h : L.Sound) {j : Nat} (hj : j ∈ L.released ++ L.holders.map (·.2)) :
    j < L.reported.length :=
  List.mem_range.mp (h.partition.subset hj)

theorem Sound.lt_of_held (h : L.Sound) {k : WindowKey} {j : Nat} (hj : (k, j) ∈ L.holders) :
    j < L.reported.length :=
  h.lt_of_mem (List.mem_append_right _ (List.mem_map.mpr ⟨(k, j), hj, rfl⟩))

/-- A handle held by a live window has not been released. -/
theorem Sound.not_released_of_held (h : L.Sound) {k : WindowKey} {j : Nat}
    (hj : (k, j) ∈ L.holders) : j ∉ L.released := by
  intro hr
  have hnodup := h.partition.nodup_iff.mpr List.nodup_range
  exact (List.nodup_append.mp hnodup).2.2 j hr j (List.mem_map.mpr ⟨(k, j), hj, rfl⟩) rfl

/-- A reported handle stays where it was when another handle is reported after it. -/
theorem Sound.holds_report (h : L.Sound) (id : η) {k : WindowKey} {j : Nat}
    (hj : (k, j) ∈ L.holders) : (L.reported ++ [id])[j]? = L.reported[j]? :=
  List.getElem?_append_left (h.lt_of_held hj)

/-- A tracked key is held by some handle. -/
theorem Sound.holder_of_keyOf? (h : L.Sound) {id : η} {k : WindowKey}
    (hk : L.registry.keyOf? id = some k) : ∃ j, L.holders.lookup k = some j := by
  obtain ⟨w, hw, -⟩ := (h.consistent.keyOf?_eq_some id k).mp hk
  have hmem : k ∈ L.holders.map (·.1) := by
    rw [h.keys, h.consistent.mem_order, hw]
    rfl
  exact Option.isSome_iff_exists.mp (List.lookup_isSome_of_mem_map_fst hmem)

theorem apply_report_of_tracked {id : η} {k : WindowKey} (hk : L.registry.keyOf? id = some k) :
    L.apply (.report id) = ⟨L.registry, L.reported ++ [id], L.holders, L.released ++ [L.reported.length]⟩ := by
  simp only [apply, Registry.report_of_tracked hk]
  rfl

theorem apply_report_of_untracked {id : η} (hk : L.registry.keyOf? id = none) :
    L.apply (.report id) = ⟨(L.registry.report id).1, L.reported ++ [id],
      L.holders ++ [((L.registry.report id).2.1, L.reported.length)], L.released⟩ := by
  simp only [apply, Registry.report_of_untracked hk]
  rfl

theorem Sound.report (h : L.Sound) (id : η) : (L.apply (.report id)).Sound := by
  cases hk : L.registry.keyOf? id with
  | some k =>
    -- a duplicate: the registry keeps its window and the new handle is released at once
    rw [apply_report_of_tracked hk]
    refine ⟨h.consistent, h.keys, ?_, ?_⟩
    · intro k' j hj
      rw [h.holds_report id hj]
      exact h.holds k' j hj
    · rw [List.length_append, List.length_singleton, List.range_succ, List.append_assoc]
      exact (List.perm_append_comm.append_left _).trans
        (List.append_assoc _ _ _ ▸ h.partition.append_right [L.reported.length])
  | none =>
    rw [apply_report_of_untracked hk]
    have hc := h.consistent
    have hget := hc.fresh.get?_insert_eq { id }
    have hnew := hc.report_key_not_mem hk
    rw [hc.map_fst_entries, Registry.report_of_untracked hk] at hnew
    refine ⟨hc.report id, ?_, ?_, ?_⟩
    · rw [List.map_append, h.keys, Registry.report_of_untracked hk]
      rfl
    · intro k' j hj
      rw [List.mem_append, List.mem_singleton] at hj
      rcases hj with hj | hj
      · -- an older window: its key is not the one just issued
        obtain ⟨w, hw, hid⟩ := h.holds k' j hj
        have hmem : k' ∈ L.registry.order := h.keys ▸ List.mem_map.mpr ⟨(k', j), hj, rfl⟩
        have hne : k' ≠ (L.registry.windows.insert { id }).2 := by
          rintro rfl
          exact hnew hmem
        refine ⟨w, ?_, by rw [h.holds_report id hj]; exact hid⟩
        rw [Registry.report_of_untracked hk]
        show (L.registry.windows.insert { id }).1.get? k' = some w
        rw [hget, if_neg hne]
        exact hw
      · -- the new window holds the handle just reported
        cases hj
        refine ⟨{ id }, ?_, by simp⟩
        rw [Registry.report_of_untracked hk]
        show (L.registry.windows.insert { id }).1.get? _ = some { id }
        rw [hget, if_pos rfl]
    · rw [List.length_append, List.length_singleton, List.range_succ, List.map_append,
        ← List.append_assoc]
      exact h.partition.append_right _

theorem Sound.remove (h : L.Sound) (id : η) : (L.apply (.remove id)).Sound := by
  cases hk : L.registry.keyOf? id with
  | none =>
    simp only [apply, hk]
    exact h
  | some k =>
    simp only [apply, hk]
    have hc := h.consistent
    have hrem := Registry.remove_of_tracked hk
    obtain ⟨j, hj⟩ := h.holder_of_keyOf? hk
    refine ⟨by rw [Registry.apply, hrem]; exact hc.remove hrem, ?_, ?_, ?_⟩
    · rw [Registry.apply, hrem]
      show _ = L.registry.order.filter (· != k)
      rw [← h.keys, List.filter_map]
      rfl
    · intro k' j' hj'
      rw [List.mem_filter] at hj'
      have hne : k' ≠ k := by simpa using hj'.2
      obtain ⟨w, hw, hid⟩ := h.holds k' j' hj'.1
      refine ⟨w, ?_, hid⟩
      rw [Registry.apply, hrem]
      show (L.registry.windows.remove k).1.get? k' = some w
      rw [SlotMap.get?_remove, if_neg hne]
      exact hw
    · -- the removed window's handle moves from the held ones to the released ones
      have hnodup : (L.holders.map (·.1)).Nodup := h.keys ▸ hc.nodup
      rw [hj, Option.toList_some, List.append_assoc, List.singleton_append]
      exact ((List.perm_snd_of_lookup hnodup hj).symm.append_left _).trans h.partition

theorem Sound.clear (h : L.Sound) : (L.apply .clear).Sound where
  consistent := h.consistent.clear
  keys := by
    show [] = L.registry.clear.1.order
    rw [Registry.clear_eq]
  holds _ _ hj := by cases hj
  partition := by
    show ((L.released ++ L.holders.map (·.2)) ++ ([] : List (WindowKey × Nat)).map (·.2)).Perm _
    rw [List.map_nil, List.append_nil]
    exact h.partition

/-- An update keeps the invariant: it changes a window's fields, never its handle. -/
theorem Sound.modify (h : L.Sound) (id : η) {f : Tracked η → Tracked η} (hf : ∀ w, (f w).id = w.id) :
    ({ L with registry := (L.registry.modify? id f).getD L.registry } : Ledger η).Sound where
  consistent := h.consistent.modify?_getD id hf
  keys := by
    rw [Registry.order_modify?_getD]
    exact h.keys
  holds k j hj := by
    obtain ⟨w, hw, hid⟩ := h.holds k j hj
    obtain ⟨w', hw', hid'⟩ := Registry.get?_modify?_getD hf hw
    exact ⟨w', hw', hid'.symm ▸ hid⟩
  partition := h.partition

/-- **Every operation keeps the invariant.** -/
theorem Sound.apply (h : L.Sound) : ∀ op : Op η, (L.apply op).Sound
  | .report id => h.report id
  | .remove id => h.remove id
  | .clear => h.clear
  | .setTitle id _ => h.modify id fun _ => rfl
  | .setAppId id _ => h.modify id fun _ => rfl
  | .setState id _ => h.modify id fun _ => rfl

theorem Sound.run (h : L.Sound) (ops : List (Op η)) : (L.run ops).Sound := by
  induction ops generalizing L with
  | nil => exact h
  | cons op ops ih => exact ih (h.apply op)

end Sound

/-! ### Forgetting the ledger -/

section Erase

variable (L : Ledger η)

/-- The ledger's registry is the registry's own. -/
theorem registry_apply : ∀ op : Op η, (L.apply op).registry = (L.registry.apply op).1
  | .report id => by
    cases hk : L.registry.keyOf? id with
    | some k => rw [apply_report_of_tracked hk, Registry.apply, Registry.report_of_tracked hk]
    | none => rw [apply_report_of_untracked hk]; rfl
  | .remove id => by
    cases hk : L.registry.keyOf? id with
    | some k => simp only [apply, hk]
    | none =>
      simp only [apply, hk, Registry.apply, Registry.remove_of_untracked hk]
      rfl
  | .clear => rfl
  | .setTitle _ _ => rfl
  | .setAppId _ _ => rfl
  | .setState _ _ => rfl

theorem registry_run (ops : List (Op η)) : (L.run ops).registry = (L.registry.applyAll ops).1 := by
  induction ops generalizing L with
  | nil => rfl
  | cons op ops ih =>
    rw [run, ih, registry_apply]
    rfl

theorem reported_apply : ∀ op : Op η, (L.apply op).reported = L.reported ++ Registry.reports [op]
  | .report id => by
    cases hk : L.registry.keyOf? id with
    | some k => rw [apply_report_of_tracked hk]; rfl
    | none => rw [apply_report_of_untracked hk]; rfl
  | .remove id => by
    cases hk : L.registry.keyOf? id <;> simp [apply, hk, Registry.reports]
  | .clear => (List.append_nil _).symm
  | .setTitle _ _ => (List.append_nil _).symm
  | .setAppId _ _ => (List.append_nil _).symm
  | .setState _ _ => (List.append_nil _).symm

theorem reported_run (ops : List (Op η)) :
    (L.run ops).reported = L.reported ++ Registry.reports ops := by
  induction ops generalizing L with
  | nil => exact (List.append_nil _).symm
  | cons op ops ih =>
    rw [run, ih, reported_apply, List.append_assoc, ← Registry.reports_append]
    rfl

end Erase

section Released

variable {L : Ledger η}

/-- The handles that an operation releases, in order, are those the registry releases: a
duplicate at once, a removed window's handle, or every held handle at a clear. -/
theorem releasedIds_apply (h : L.Sound) (op : Op η) :
    ∃ js, (L.apply op).released = L.released ++ js ∧ (L.apply op).ids js = (L.registry.apply op).2 := by
  cases op with
  | report id =>
    cases hk : L.registry.keyOf? id with
    | some k =>
      refine ⟨[L.reported.length], ?_, ?_⟩ <;> rw [apply_report_of_tracked hk]
      simp [ids, Registry.apply, Registry.report_of_tracked hk]
    | none =>
      refine ⟨[], ?_, ?_⟩ <;> rw [apply_report_of_untracked hk]
      · exact (List.append_nil _).symm
      · rw [Registry.apply, Registry.report_of_untracked hk]
        rfl
  | remove id =>
    cases hk : L.registry.keyOf? id with
    | none =>
      refine ⟨[], by simp only [apply, hk, List.append_nil], ?_⟩
      simp [ids, Registry.apply, Registry.remove_of_untracked hk]
    | some k =>
      -- the handle the removed window's key holds has that window's id
      obtain ⟨j, hj⟩ := h.holder_of_keyOf? hk
      obtain ⟨w, hw, hid⟩ := h.holds k j (List.mem_of_lookup_eq_some hj)
      refine ⟨[j], by simp only [apply, hk, hj, Option.toList_some], ?_⟩
      simp only [apply, hk, ids, Registry.apply, Registry.remove_of_tracked hk]
      simp [hid, show L.registry.windows.get? k = some w from hw]
  | clear =>
    refine ⟨L.holders.map (·.2), rfl, ?_⟩
    show (L.holders.map (·.2)).filterMap (fun j => L.reported[j]?) = L.registry.clear.2
    rw [h.consistent.clear_released, Registry.entries, ← h.keys, List.map_filterMap,
      List.filterMap_map, List.filterMap_map]
    apply List.filterMap_congr
    intro p hp
    obtain ⟨w, hw, hid⟩ := h.holds p.1 p.2 hp
    simp [hid, show L.registry.windows.get? p.1 = some w from hw]
  | setTitle id t => exact ⟨[], (List.append_nil _).symm, rfl⟩
  | setAppId id a => exact ⟨[], (List.append_nil _).symm, rfl⟩
  | setState id s => exact ⟨[], (List.append_nil _).symm, rfl⟩

omit [DecidableEq η] in
theorem ids_append (L : Ledger η) (js js' : List Nat) : L.ids (js ++ js') = L.ids js ++ L.ids js' :=
  List.filterMap_append

/-- The handles released before an operation keep their ids after it. -/
theorem Sound.ids_apply_released (h : L.Sound) (op : Op η) :
    (L.apply op).ids L.released = L.ids L.released := by
  unfold ids
  rw [reported_apply]
  exact List.filterMap_getElem?_append fun j hj => h.lt_of_mem (List.mem_append_left _ hj)

/-- **Forgetting the ledger gives the release log**: the ids of the handles the ledger releases
along a sequence of operations are the handles the registry releases. -/
theorem releasedIds_run (h : L.Sound) (ops : List (Op η)) :
    (L.run ops).ids (L.run ops).released = L.ids L.released ++ (L.registry.applyAll ops).2 := by
  induction ops generalizing L with
  | nil => exact (List.append_nil _).symm
  | cons op ops ih =>
    obtain ⟨js, hjs, hids⟩ := releasedIds_apply h op
    rw [run, ih (h.apply op), hjs, ids_append, h.ids_apply_released, hids, registry_apply,
      Registry.applyAll, List.append_assoc]

end Released

/-- **Every window handle is released exactly once.** Take any sequence of reports, updates,
removals and clears, ended by a clear or by dropping the registry, which clears it. Along the way
the ledger stays sound, so no handle is released while a live window holds it, and the ledger's
registry and the ids it releases are the registry's own. At the end every reported handle has
been released exactly once, the release log is the multiset of reported ids, and a drop after
the final clear releases nothing more. -/
theorem handles_released_once (ops : List (Op η)) :
    (empty.run ops).Sound ∧ (empty.run ops).registry = (Registry.applyAll {} ops).1 ∧
      (empty.run ops).reported = Registry.reports ops ∧
      (empty.run ops).ids (empty.run ops).released = (Registry.applyAll {} ops).2 ∧
      (empty.run (ops ++ [.clear])).released.Perm (List.range (Registry.reports ops).length) ∧
      (Registry.applyAll {} (ops ++ [.clear])).2.Perm (Registry.reports ops) ∧
      (Registry.applyAll {} (ops ++ [.clear])).1.clear.2 = [] := by
  have hsound := (sound_empty : (empty : Ledger η).Sound).run ops
  have hreported : (empty.run ops).reported = Registry.reports ops := reported_run _ ops
  have hlog : (empty.run ops).ids (empty.run ops).released = (Registry.applyAll {} ops).2 :=
    releasedIds_run sound_empty ops
  -- the final clear releases every held handle: nothing is held any more
  have hclear : (empty.run (ops ++ [.clear])).released.Perm (List.range (Registry.reports ops).length) := by
    have hrun : empty.run (ops ++ [.clear]) = (empty.run ops).apply .clear := run_append _ ops _
    rw [hrun, ← hreported]
    exact hsound.partition
  refine ⟨hsound, registry_run _ ops, hreported, hlog, hclear, ?_, ?_⟩
  · -- the release log is the ids of a permutation of all reported handles
    have hall : (empty.run (ops ++ [.clear])).ids (empty.run (ops ++ [.clear])).released =
        (Registry.applyAll {} (ops ++ [.clear])).2 :=
      releasedIds_run sound_empty (ops ++ [.clear])
    rw [← hall, ids, reported_run, Registry.reports_append,
      show Registry.reports [(.clear : Op η)] = [] from rfl, List.append_nil]
    have hperm := hclear.filterMap fun j => (Registry.reports ops)[j]?
    rw [List.filterMap_getElem?_range] at hperm
    exact hperm
  · -- the final clear leaves an empty report order, so the drop has nothing to release
    rw [Registry.applyAll_append]
    rfl

end Ledger

end DeskPanel
