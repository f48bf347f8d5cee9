import Mathlib.Data.List.Basic
import DeskPanel.Window.Registry

/-!
# The registry is an association list

A registry keeps three structures in step: a slot map from keys to windows, the keys in report
order, and a map from handle ids to keys. What it stands for is simpler: the list of its
entries, key and window, in the order the windows were first reported (`Registry.entries`).
This module proves that the three structures stay consistent over every sequence of reports,
updates, removals and clears, and that each operation is one step of the list: a report of an
untracked id appends a fresh entry, an update changes one entry's field, a removal deletes one
entry and keeps the others in order, and a clear empties the list.

## Main definitions

* `SlotMap.Fresh` — the slot map's keys are distinct and below the next one it issues.
* `Registry.Consistent` — the three structures agree.
* `Windows.keyOf?`, `Windows.update`, `Windows.erase` — the list's own operations.
* `Registry.Reachable` — the registries a sequence of operations reaches.
* `Registry.Refines` — what a registry is to its list of entries.

## Main results

* `Registry.Reachable.consistent` — the three structures agree on every reachable registry.
* `Registry.Consistent.keyOf?_eq`, `Registry.Consistent.modify?_entries`,
  `Registry.Consistent.remove_entries` — one step of the list for each operation.
* `Registry.registry_refines_entries` — every reachable registry refines its list.
-/

namespace DeskPanel

/-! ### Lookup in an association list -/

theorem List.lookup_cons_ite {α β : Type} [DecidableEq α] (a : α) (b : β)
    (l : List (α × β)) (k : α) :
    ((a, b) :: l).lookup k = if k = a then some b else l.lookup k := by
  by_cases h : k = a
  · subst h
    simp
  · simp [List.lookup_cons, beq_false_of_ne h, h]

/-- Dropping the pairs under one key leaves the lookup of every other key as it was. -/
theorem List.lookup_filter_ne {α β : Type} [DecidableEq α] (l : List (α × β)) {k k' : α}
    (h : k' ≠ k) : (l.filter (·.1 != k)).lookup k' = l.lookup k' := by
  induction l with
  | nil => rfl
  | cons e l ih =>
    obtain ⟨k'', v⟩ := e
    by_cases h1 : k'' = k
    · subst h1
      simp [ih, List.lookup_cons_ite, h]
    · simp [h1, List.lookup_cons_ite, ih]

theorem List.lookup_filter_self {α β : Type} [DecidableEq α] (l : List (α × β)) (k : α) :
    (l.filter (·.1 != k)).lookup k = none := by
  rw [List.lookup_eq_none_iff]
  intro p hp
  simpa [bne_comm] using (List.mem_filter.mp hp).2

namespace SlotMap

variable {α : Type}

/-- The keys of a slot map are distinct, and each is below the serial it issues next. -/
structure Fresh (m : SlotMap α) : Prop where
  nodup : (m.entries.map (·.1)).Nodup
  lt_next : ∀ k ∈ m.entries.map (·.1), k.serial < m.nextSerial

theorem fresh_empty : Fresh ({} : SlotMap α) := ⟨List.nodup_nil, by simp⟩

/-- The key an insert issues names nothing yet. -/
theorem Fresh.get?_insert_key {m : SlotMap α} (hm : m.Fresh) (v : α) :
    m.get? (m.insert v).2 = none := by
  rw [get?, List.lookup_eq_none_iff]
  intro p hp
  have hlt := hm.lt_next p.1 (List.mem_map_of_mem hp)
  simp only [insert, bne_iff_ne, ne_eq]
  intro e
  rw [← e] at hlt
  exact Nat.lt_irrefl _ hlt

theorem get?_insert (m : SlotMap α) (v : α) (k : WindowKey) :
    (m.insert v).1.get? k = (m.get? k).or (if k = (m.insert v).2 then some v else none) := by
  simp only [get?, insert, List.lookup_append, List.lookup_cons_ite, List.lookup_nil]
  rfl

theorem Fresh.insert {m : SlotMap α} (hm : m.Fresh) (v : α) : (m.insert v).1.Fresh := by
  refine ⟨?_, ?_⟩
  · simp only [SlotMap.insert, List.map_append, List.map_cons, List.map_nil]
    refine List.nodup_append.mpr ⟨hm.nodup, by simp, ?_⟩
    intro a ha b hb
    rw [List.mem_singleton] at hb
    subst hb
    intro e
    have hlt := hm.lt_next a ha
    rw [e] at hlt
    exact Nat.lt_irrefl _ hlt
  · simp only [SlotMap.insert, List.map_append, List.map_cons, List.map_nil, List.mem_append,
      List.mem_singleton]
    rintro k (hk | rfl)
    · exact Nat.lt_succ_of_lt (hm.lt_next k hk)
    · exact Nat.lt_succ_self _

theorem Fresh.get?_insert_eq {m : SlotMap α} (hm : m.Fresh) (v : α) (k : WindowKey) :
    (m.insert v).1.get? k = if k = (m.insert v).2 then some v else m.get? k := by
  rw [get?_insert]
  split
  · rename_i h
    rw [h, hm.get?_insert_key]
    rfl
  · exact Option.or_none

/-- Changing the value under a key keeps every key. -/
theorem map_keys_modify (m : SlotMap α) (k : WindowKey) (f : α → α) :
    (m.entries.map fun (k', v) => if k' == k then (k', f v) else (k', v)).map (·.1) =
      m.entries.map (·.1) := by
  rw [List.map_map]
  congr 1
  funext e
  simp only [Function.comp]
  split <;> rfl

theorem isSome_modify? (m : SlotMap α) (k : WindowKey) (f : α → α) :
    (m.modify? k f).isSome = (m.get? k).isSome := by
  unfold modify?
  split <;> simp_all

theorem get?_modify (m : SlotMap α) (k k' : WindowKey) (f : α → α) :
    ({ m with entries := m.entries.map fun (k'', v) => if k'' == k then (k'', f v) else (k'', v) } :
      SlotMap α).get? k' = if k' = k then (m.get? k).map f else m.get? k' := by
  simp only [get?]
  induction m.entries with
  | nil => split <;> rfl
  | cons e l ih =>
    obtain ⟨k'', v⟩ := e
    simp only [List.map_cons, beq_iff_eq]
    by_cases h1 : k'' = k
    · subst h1
      by_cases h2 : k' = k'' <;> simp_all [List.lookup_cons_ite]
    · have h1' : k ≠ k'' := fun e => h1 e.symm
      by_cases h2 : k' = k'' <;> simp_all [List.lookup_cons_ite]

theorem Fresh.modify {m : SlotMap α} (hm : m.Fresh) (k : WindowKey) (f : α → α) :
    ({ m with entries := m.entries.map fun (k', v) => if k' == k then (k', f v) else (k', v) } :
      SlotMap α).Fresh := by
  refine ⟨?_, ?_⟩
  · show (List.map _ _).Nodup
    rw [map_keys_modify]
    exact hm.nodup
  · show ∀ k' ∈ List.map _ _, _
    rw [map_keys_modify]
    exact hm.lt_next

theorem get?_of_modify? {m m' : SlotMap α} {k : WindowKey} {f : α → α}
    (h : m.modify? k f = some m') (k' : WindowKey) :
    m'.get? k' = if k' = k then (m.get? k).map f else m.get? k' := by
  unfold modify? at h
  split at h
  · cases h
    exact get?_modify m k k' f
  · cases h

theorem Fresh.of_modify? {m m' : SlotMap α} (hm : m.Fresh) {k : WindowKey} {f : α → α}
    (h : m.modify? k f = some m') : m'.Fresh := by
  unfold modify? at h
  split at h
  · cases h
    exact hm.modify k f
  · cases h

theorem get?_remove (m : SlotMap α) (k k' : WindowKey) :
    (m.remove k).1.get? k' = if k' = k then none else m.get? k' := by
  simp only [remove, get?]
  split
  · rename_i h
    subst h
    exact List.lookup_filter_self _ _
  · rename_i h
    exact List.lookup_filter_ne _ h

theorem Fresh.remove {m : SlotMap α} (hm : m.Fresh) (k : WindowKey) : (m.remove k).1.Fresh := by
  have hsub : ((m.remove k).1.entries.map (·.1)).Sublist (m.entries.map (·.1)) :=
    List.Sublist.map _ List.filter_sublist
  exact ⟨hm.nodup.sublist hsub, fun k' hk' => hm.lt_next k' (hsub.subset hk')⟩

end SlotMap

/-! ### The list a registry stands for -/

/-- A list of keyed windows, in report order: what a registry stands for. -/
abbrev Windows (η : Type) := List (WindowKey × Tracked η)

namespace Windows

variable {η : Type} [DecidableEq η]

/-- The key of the first window with a handle id. -/
def keyOf? (l : Windows η) (id : η) : Option WindowKey := (l.find? (·.2.id = id)).map (·.1)

/-- Changes the windows with a handle id. -/
def update (l : Windows η) (id : η) (f : Tracked η → Tracked η) : Windows η :=
  l.map fun e => if e.2.id = id then (e.1, f e.2) else e

/-- Drops the windows with a handle id. -/
def erase (l : Windows η) (id : η) : Windows η := l.filter (·.2.id ≠ id)

end Windows

namespace Registry

section DropAll

variable {η : Type}

theorem clear_eq (r : Registry η) :
    r.clear = (⟨(dropAll r.windows r.order).1, [], []⟩, (dropAll r.windows r.order).2) := rfl

theorem dropAll_cons (m : SlotMap (Tracked η)) (k : WindowKey) (ks : List WindowKey) :
    dropAll m (k :: ks) = ((dropAll (m.remove k).1 ks).1,
      ((m.get? k).map (·.id)).toList ++ (dropAll (m.remove k).1 ks).2) := rfl

theorem get?_dropAll (m : SlotMap (Tracked η)) (ks : List WindowKey) (k : WindowKey) :
    (dropAll m ks).1.get? k = if k ∈ ks then none else m.get? k := by
  induction ks generalizing m with
  | nil => simp [dropAll]
  | cons k' ks ih =>
    rw [dropAll_cons, ih, SlotMap.get?_remove]
    by_cases h1 : k = k' <;> by_cases h2 : k ∈ ks <;> simp [h1, h2]

theorem fresh_dropAll {m : SlotMap (Tracked η)} (hm : m.Fresh) (ks : List WindowKey) :
    (dropAll m ks).1.Fresh := by
  induction ks generalizing m with
  | nil => exact hm
  | cons k ks ih =>
    rw [dropAll_cons]
    exact ih (hm.remove k)

/-- Dropping distinct keys releases the handle of each window under them, in their order. -/
theorem dropAll_released (m : SlotMap (Tracked η)) {ks : List WindowKey} (hks : ks.Nodup) :
    (dropAll m ks).2 = ks.filterMap fun k => (m.get? k).map (·.id) := by
  induction ks generalizing m with
  | nil => rfl
  | cons k ks ih =>
    rw [List.nodup_cons] at hks
    rw [dropAll_cons, ih _ hks.2, List.filterMap_cons]
    have hrest : (ks.filterMap fun k' => ((m.remove k).1.get? k').map (·.id)) =
        ks.filterMap fun k' => (m.get? k').map (·.id) := by
      apply List.filterMap_congr
      intro k' hk'
      have hne : k' ≠ k := fun e => hks.1 (e ▸ hk')
      rw [SlotMap.get?_remove, if_neg hne]
    rw [hrest]
    cases m.get? k <;> rfl

end DropAll

variable {η : Type} [DecidableEq η]

/-- The three structures of a registry agree. The slot map issues fresh keys; the report order
holds each key of the slot map once and no other; and the id map sends the id of each tracked
window to its key, and no other id anywhere. -/
structure Consistent (r : Registry η) : Prop where
  fresh : r.windows.Fresh
  nodup : r.order.Nodup
  mem_order : ∀ k, k ∈ r.order ↔ (r.windows.get? k).isSome
  keyOf?_eq_some : ∀ id k, r.keyOf? id = some k ↔ ∃ w, r.windows.get? k = some w ∧ w.id = id

theorem consistent_empty : Consistent ({} : Registry η) where
  fresh := SlotMap.fresh_empty
  nodup := List.nodup_nil
  mem_order k := by simp [SlotMap.get?]
  keyOf?_eq_some id k := by simp [keyOf?, SlotMap.get?]

/-! ### What each operation does to the three structures -/

theorem report_of_tracked {r : Registry η} {id : η} {k : WindowKey} (h : r.keyOf? id = some k) :
    r.report id = (r, k, [id]) := by
  unfold report
  rw [show r.byId.lookup id = some k from h]

theorem report_of_untracked {r : Registry η} {id : η} (h : r.keyOf? id = none) :
    r.report id = (⟨(r.windows.insert { id }).1, r.order ++ [(r.windows.insert { id }).2],
      (id, (r.windows.insert { id }).2) :: r.byId.filter (·.1 != id)⟩,
      (r.windows.insert { id }).2, []) := by
  unfold report
  rw [show r.byId.lookup id = none from h]

theorem modify?_of_untracked {r : Registry η} {id : η} (h : r.keyOf? id = none)
    (f : Tracked η → Tracked η) : r.modify? id f = none := by
  unfold modify?
  rw [show r.byId.lookup id = none from h]

theorem modify?_of_tracked {r : Registry η} {id : η} {k : WindowKey} (h : r.keyOf? id = some k)
    (f : Tracked η → Tracked η) :
    r.modify? id f = (r.windows.modify? k f).map fun windows => { r with windows } := by
  unfold modify?
  rw [show r.byId.lookup id = some k from h]

theorem remove_of_untracked {r : Registry η} {id : η} (h : r.keyOf? id = none) :
    r.remove id = none := by
  unfold remove
  rw [show r.byId.lookup id = none from h]

theorem remove_of_tracked {r : Registry η} {id : η} {k : WindowKey} (h : r.keyOf? id = some k) :
    r.remove id = some (⟨(r.windows.remove k).1, r.order.filter (· != k),
      r.byId.filter (·.1 != id)⟩, ((r.windows.get? k).map (·.id)).toList) := by
  unfold remove
  rw [show r.byId.lookup id = some k from h]
  rfl

/-! ### The invariant holds on every reachable registry -/

section Consistent

variable {r : Registry η}

theorem Consistent.key_unique (hc : r.Consistent) {k k' : WindowKey} {w w' : Tracked η}
    (h : r.windows.get? k = some w) (h' : r.windows.get? k' = some w') (hid : w.id = w'.id) :
    k = k' := by
  have h1 := (hc.keyOf?_eq_some w.id k).mpr ⟨w, h, rfl⟩
  have h2 := (hc.keyOf?_eq_some w.id k').mpr ⟨w', h', hid.symm⟩
  exact Option.some.inj (h1.symm.trans h2)

theorem Consistent.exists_of_mem (hc : r.Consistent) {k : WindowKey} (hk : k ∈ r.order) :
    ∃ w, r.windows.get? k = some w :=
  Option.isSome_iff_exists.mp ((hc.mem_order k).mp hk)

theorem Consistent.report (hc : r.Consistent) (id : η) : (r.report id).1.Consistent := by
  cases h : r.keyOf? id with
  | some k => rwa [report_of_tracked h]
  | none =>
    rw [report_of_untracked h]
    -- the issued key names nothing yet, so it is new to the order and to the id map
    have hnew : r.windows.get? (r.windows.insert { id }).2 = none :=
      hc.fresh.get?_insert_key _
    have hget := hc.fresh.get?_insert_eq { id }
    refine ⟨hc.fresh.insert _, ?_, ?_, ?_⟩
    · refine List.nodup_append.mpr ⟨hc.nodup, by simp, ?_⟩
      intro a ha b hb e
      rw [List.mem_singleton] at hb
      have hsome := (hc.mem_order a).mp ha
      rw [e, hb, hnew] at hsome
      simp at hsome
    · intro k
      rw [List.mem_append, List.mem_singleton, hget, hc.mem_order]
      by_cases hk : k = (r.windows.insert { id }).2 <;> simp [hk, hnew]
    · intro id' k
      show ((id, _) :: r.byId.filter (·.1 != id)).lookup id' = some k ↔ _
      rw [List.lookup_cons_ite, hget]
      by_cases hid : id' = id
      · subst hid
        rw [if_pos rfl, Option.some.injEq]
        constructor
        · rintro rfl
          exact ⟨{ id := id' }, by simp, rfl⟩
        · rintro ⟨w, hw, rfl⟩
          by_cases hk : k = (r.windows.insert { id := w.id }).2
          · exact hk.symm
          · rw [if_neg hk] at hw
            have hsome := (hc.keyOf?_eq_some w.id k).mpr ⟨w, hw, rfl⟩
            rw [h] at hsome
            cases hsome
      · rw [if_neg hid, List.lookup_filter_ne _ hid]
        have hold := hc.keyOf?_eq_some id' k
        by_cases hk : k = (r.windows.insert { id }).2
        · subst hk
          simp only [keyOf?] at hold
          simp [hold, hnew, Ne.symm hid]
        · simpa [keyOf?, hk] using hold

theorem Consistent.modify? (hc : r.Consistent) {id : η} {f : Tracked η → Tracked η}
    {r' : Registry η} (h : r.modify? id f = some r') (hf : ∀ w, (f w).id = w.id) :
    r'.Consistent := by
  cases hk : r.keyOf? id with
  | none => rw [modify?_of_untracked hk] at h; cases h
  | some k =>
    rw [modify?_of_tracked hk] at h
    obtain ⟨m', hm', rfl⟩ := Option.map_eq_some_iff.mp h
    have hget := SlotMap.get?_of_modify? hm'
    refine ⟨hc.fresh.of_modify? hm', hc.nodup, ?_, ?_⟩
    · intro k'
      rw [hc.mem_order, hget]
      split <;> simp_all
    · intro id' k'
      rw [show ({ r with windows := m' } : Registry η).keyOf? id' = r.keyOf? id' from rfl,
        hc.keyOf?_eq_some, hget]
      split
      · rename_i hkk
        subst hkk
        cases r.windows.get? k' <;> simp [hf]
      · rfl

theorem Consistent.remove (hc : r.Consistent) {id : η} {r' : Registry η} {rel : List η}
    (h : r.remove id = some (r', rel)) : r'.Consistent := by
  cases hk : r.keyOf? id with
  | none => rw [remove_of_untracked hk] at h; cases h
  | some k =>
    rw [remove_of_tracked hk, Option.some.injEq, Prod.mk.injEq] at h
    obtain ⟨rfl, -⟩ := h
    obtain ⟨w, hw, hwid⟩ := (hc.keyOf?_eq_some id k).mp hk
    refine ⟨hc.fresh.remove k, hc.nodup.sublist List.filter_sublist, ?_, ?_⟩
    · intro k'
      rw [List.mem_filter, hc.mem_order, SlotMap.get?_remove]
      by_cases hkk : k' = k <;> simp [hkk]
    · intro id' k'
      show (r.byId.filter (·.1 != id)).lookup id' = some k' ↔ _
      rw [SlotMap.get?_remove]
      by_cases hid : id' = id
      · subst hid
        rw [List.lookup_filter_self]
        simp only [reduceCtorEq, false_iff, not_exists, not_and]
        intro w' hw' hid'
        split at hw'
        · cases hw'
        · rename_i hkk
          exact hkk (hc.key_unique hw' hw (hid'.trans hwid.symm))
      · rw [List.lookup_filter_ne _ hid]
        rw [show r.byId.lookup id' = r.keyOf? id' from rfl, hc.keyOf?_eq_some]
        by_cases hkk : k' = k
        · subst hkk
          simp only [if_pos, hw, Option.some.injEq, exists_eq_left', reduceCtorEq, false_and,
            exists_false, iff_false]
          exact fun e => hid (e.symm.trans hwid)
        · rw [if_neg hkk]

theorem Consistent.clear (hc : r.Consistent) : r.clear.1.Consistent := by
  have hget : ∀ k, (dropAll r.windows r.order).1.get? k = none := by
    intro k
    rw [get?_dropAll]
    split
    · rfl
    · rename_i hk
      simpa [hc.mem_order] using hk
  rw [clear_eq]
  refine ⟨fresh_dropAll hc.fresh r.order, List.nodup_nil, ?_, ?_⟩
  · intro k
    simp [hget]
  · intro id k
    simp [keyOf?, hget]

end Consistent

/-- The registries that a sequence of reports, updates, removals and clears reaches from the
empty one. -/
inductive Reachable : Registry η → Prop
  | empty : Reachable {}
  | report {r : Registry η} (id : η) : Reachable r → Reachable (r.report id).1
  | setTitle {r r' : Registry η} (id : η) (t : String) :
      Reachable r → r.setTitle id t = some r' → Reachable r'
  | setAppId {r r' : Registry η} (id : η) (a : String) :
      Reachable r → r.setAppId id a = some r' → Reachable r'
  | setState {r r' : Registry η} (id : η) (s : WindowState) :
      Reachable r → r.setState id s = some r' → Reachable r'
  | remove {r r' : Registry η} {rel : List η} (id : η) :
      Reachable r → r.remove id = some (r', rel) → Reachable r'
  | clear {r : Registry η} : Reachable r → Reachable r.clear.1

theorem Reachable.consistent {r : Registry η} (hr : Reachable r) : r.Consistent := by
  induction hr with
  | empty => exact consistent_empty
  | report id _ ih => exact ih.report id
  | setTitle _ _ _ h ih => exact ih.modify? h fun _ => rfl
  | setAppId _ _ _ h ih => exact ih.modify? h fun _ => rfl
  | setState _ _ _ h ih => exact ih.modify? h fun _ => rfl
  | remove _ _ h ih => exact ih.remove h
  | clear _ ih => exact ih.clear

/-! ### Each operation is one step of the list -/

section Entries

variable {r : Registry η}

theorem Consistent.mem_entries (hc : r.Consistent) {k : WindowKey} {w : Tracked η} :
    (k, w) ∈ r.entries ↔ r.windows.get? k = some w := by
  simp only [entries, List.mem_filterMap, Option.map_eq_some_iff, Prod.mk.injEq]
  constructor
  · rintro ⟨k', -, w', hw', rfl, rfl⟩
    exact hw'
  · intro hw
    exact ⟨k, (hc.mem_order k).mpr (by simp [hw]), w, hw, rfl, rfl⟩

/-- The keys of the entries are the report order. -/
theorem Consistent.map_fst_entries (hc : r.Consistent) : r.entries.map (·.1) = r.order := by
  have h : r.order.filterMap (fun k => ((r.windows.get? k).map (k, ·)).map (·.1)) =
      r.order.map id := by
    rw [List.filterMap_eq_map_iff_forall_eq_some]
    intro k hk
    obtain ⟨w, hw⟩ := hc.exists_of_mem hk
    simp [hw]
  rw [entries, List.map_filterMap, h, List.map_id]

theorem Consistent.size_eq (hc : r.Consistent) : r.size = r.entries.length := by
  rw [size, ← hc.map_fst_entries, List.length_map]

theorem Consistent.isEmpty_eq (hc : r.Consistent) : r.isEmpty = r.entries.isEmpty := by
  rw [isEmpty, ← hc.map_fst_entries, List.isEmpty_map]

/-- The id map finds the key the list finds. -/
theorem Consistent.keyOf?_eq (hc : r.Consistent) (id : η) :
    r.keyOf? id = Windows.keyOf? r.entries id := by
  cases h : r.keyOf? id with
  | some k =>
    obtain ⟨w, hw, rfl⟩ := (hc.keyOf?_eq_some _ k).mp h
    -- the list's first window with this id is the one under `k`, the only one
    obtain ⟨e, he⟩ : ∃ e, r.entries.find? (·.2.id = w.id) = some e := by
      refine Option.isSome_iff_exists.mp (List.find?_isSome.mpr ?_)
      exact ⟨(k, w), hc.mem_entries.mpr hw, by simp⟩
    have hmem := hc.mem_entries.mp (List.mem_of_find?_eq_some he)
    have hid : e.2.id = w.id := by simpa using List.find?_some he
    rw [Windows.keyOf?, he, Option.map_some, hc.key_unique hw hmem hid.symm]
  | none =>
    symm
    rw [Windows.keyOf?, Option.map_eq_none_iff, List.find?_eq_none]
    rintro ⟨k, w⟩ hkw hid
    have hsome := (hc.keyOf?_eq_some id k).mpr ⟨w, hc.mem_entries.mp hkw, by simpa using hid⟩
    rw [h] at hsome
    cases hsome

theorem Consistent.entries_report_of_untracked (hc : r.Consistent) {id : η}
    (h : r.keyOf? id = none) :
    (r.report id).1.entries = r.entries ++ [((r.report id).2.1, { id := id })] := by
  rw [report_of_untracked h]
  have hget := hc.fresh.get?_insert_eq { id }
  have hnew := hc.fresh.get?_insert_key { id }
  simp only [entries, List.filterMap_append]
  congr 1
  · apply List.filterMap_congr
    intro k hk
    obtain ⟨w, hw⟩ := hc.exists_of_mem hk
    have hne : k ≠ (r.windows.insert { id }).2 := by
      rintro rfl
      rw [hnew] at hw
      cases hw
    rw [hget, if_neg hne]
  · simp [hget]

theorem Consistent.report_key_not_mem (hc : r.Consistent) {id : η} (h : r.keyOf? id = none) :
    (r.report id).2.1 ∉ r.entries.map (·.1) := by
  rw [hc.map_fst_entries, report_of_untracked h, hc.mem_order, hc.fresh.get?_insert_key]
  simp

theorem Consistent.modify?_entries (hc : r.Consistent) (id : η) (f : Tracked η → Tracked η) :
    (r.modify? id f).map entries =
      (Windows.keyOf? r.entries id).map fun _ => Windows.update r.entries id f := by
  rw [← hc.keyOf?_eq]
  cases hk : r.keyOf? id with
  | none => rw [modify?_of_untracked hk]; rfl
  | some k =>
    obtain ⟨w, hw, rfl⟩ := (hc.keyOf?_eq_some _ k).mp hk
    obtain ⟨m', hm'⟩ : ∃ m', r.windows.modify? k f = some m' :=
      Option.isSome_iff_exists.mp (by rw [SlotMap.isSome_modify?, hw]; rfl)
    rw [modify?_of_tracked hk, hm', Option.map_some, Option.map_some, Option.map_some]
    congr 1
    simp only [entries, Windows.update, List.map_filterMap]
    apply List.filterMap_congr
    intro k' hk'
    rw [SlotMap.get?_of_modify? hm']
    split
    · rename_i hkk
      subst hkk
      simp [hw]
    · rename_i hkk
      obtain ⟨w', hw'⟩ := hc.exists_of_mem hk'
      have hid : w'.id ≠ w.id := fun e => hkk (hc.key_unique hw' hw e)
      simp [hw', hid]

theorem Consistent.remove_entries (hc : r.Consistent) (id : η) :
    (r.remove id).map (fun p => (p.1.entries, p.2)) =
      (Windows.keyOf? r.entries id).map fun _ => (Windows.erase r.entries id, [id]) := by
  rw [← hc.keyOf?_eq]
  cases hk : r.keyOf? id with
  | none => rw [remove_of_untracked hk]; rfl
  | some k =>
    obtain ⟨w, hw, rfl⟩ := (hc.keyOf?_eq_some _ k).mp hk
    rw [remove_of_tracked hk, hw]
    simp only [Option.map_some, Option.toList_some, Option.some.injEq, Prod.mk.injEq, and_true]
    simp only [entries, Windows.erase, List.filterMap_filter, List.filter_filterMap]
    apply List.filterMap_congr
    intro k' hk'
    rw [SlotMap.get?_remove]
    by_cases hkk : k' = k
    · subst hkk
      simp [hw, Option.filter_some]
    · obtain ⟨w', hw'⟩ := hc.exists_of_mem hk'
      have hid : w'.id ≠ w.id := fun e => hkk (hc.key_unique hw' hw e)
      simp [hkk, hw', hid, Option.filter_some]

theorem Consistent.clear_released (hc : r.Consistent) : r.clear.2 = r.entries.map (·.2.id) := by
  rw [clear_eq, dropAll_released _ hc.nodup, entries, List.map_filterMap]
  apply List.filterMap_congr
  intro k _
  cases r.windows.get? k <;> rfl

end Entries

/-! ### The registry refines its list of entries -/

/-- What a registry is to the list of its entries. Its three structures agree; its size,
emptiness and id lookup are the list's; a report of an untracked id appends a fresh entry and
one of a tracked id changes nothing; each update and removal acts on the entry with its id
exactly when there is one; and a clear empties the list, releasing every handle in order. -/
structure Refines (r : Registry η) : Prop where
  consistent : r.Consistent
  size_eq : r.size = r.entries.length
  isEmpty_eq : r.isEmpty = r.entries.isEmpty
  keyOf?_eq : ∀ id, r.keyOf? id = Windows.keyOf? r.entries id
  report_untracked : ∀ id, Windows.keyOf? r.entries id = none →
    (r.report id).1.entries = r.entries ++ [((r.report id).2.1, { id := id })] ∧
      (r.report id).2.1 ∉ r.entries.map (·.1) ∧ (r.report id).2.2 = []
  report_tracked : ∀ id k, Windows.keyOf? r.entries id = some k → r.report id = (r, k, [id])
  setTitle : ∀ id t, (r.setTitle id t).map entries = (Windows.keyOf? r.entries id).map
    fun _ => Windows.update r.entries id fun w => { w with title := some t }
  setAppId : ∀ id a, (r.setAppId id a).map entries = (Windows.keyOf? r.entries id).map
    fun _ => Windows.update r.entries id fun w => { w with appId := some a }
  setState : ∀ id s, (r.setState id s).map entries = (Windows.keyOf? r.entries id).map
    fun _ => Windows.update r.entries id fun w => { w with active := s.active }
  remove : ∀ id, (r.remove id).map (fun p => (p.1.entries, p.2)) =
    (Windows.keyOf? r.entries id).map fun _ => (Windows.erase r.entries id, [id])
  clear : r.clear.1.entries = [] ∧ r.clear.2 = r.entries.map (·.2.id)

/-- **The registry refines an association list.** Every registry that reports, updates,
removals and clears reach keeps its structures consistent and acts on its entries as the list's
own operations do. -/
theorem registry_refines_entries {r : Registry η} (hr : Reachable r) : r.Refines := by
  have hc := hr.consistent
  refine ⟨hc, hc.size_eq, hc.isEmpty_eq, hc.keyOf?_eq, ?_, ?_, ?_, ?_, ?_, hc.remove_entries,
    ⟨by rw [clear_eq]; rfl, hc.clear_released⟩⟩
  · intro id h
    rw [← hc.keyOf?_eq] at h
    refine ⟨hc.entries_report_of_untracked h, hc.report_key_not_mem h, ?_⟩
    rw [report_of_untracked h]
  · intro id k h
    rw [← hc.keyOf?_eq] at h
    exact report_of_tracked h
  · intro id t
    exact hc.modify?_entries id _
  · intro id a
    exact hc.modify?_entries id _
  · intro id s
    exact hc.modify?_entries id _

theorem refines_after_two_reports :
    Reachable ((({} : Registry Nat).report 1).1.report 2).1 ∧
      ((({} : Registry Nat).report 1).1.report 2).1.Refines :=
  ⟨.report 2 (.report 1 .empty), registry_refines_entries (.report 2 (.report 1 .empty))⟩

end Registry

end DeskPanel
