import Mathlib
import DeskPanel.Session.Client
import DeskPanel.Proofs.Registry

/-!
# A window's reported state

A window handle reports its state as an array of 32-bit words, sent as bytes. The panel reads
the complete four-byte words in the machine's byte order, keeps the numbers that name a flag
(0 maximized, 1 minimized, 2 activated, 3 fullscreen) and joins the flags' bits into one byte.
Handling the state of a tracked window sets the window's active flag from the byte and leaves
the rest of the window as it was.

The byte is a set of flags. Each flag owns one bit, the bit at its number, so a bit of a joined
byte is set exactly when some flag of the list owns it (`testBit_ofFlags`): the state of a list
of flags has a flag exactly when the list holds it (`has_ofFlags`), and two lists give the same
state exactly when they hold the same flags (`ofFlags_eq_iff`). Order and repetition make no
difference, and neither do numbers that name no flag.

## Main definitions

* `WindowFlag.code` — the number that names a flag, its place in bit order.

## Main results

* `WindowState.has_ofFlags`, `WindowState.ofFlags_eq_iff` — a state is the set of its flags.
* `WindowState.ofRaw_eq_ofFlags` — the state of a list of numbers holds the flags they name.
* `ByteOrder.mem_words` — the words of a byte string are its complete four-byte words.
* `ByteOrder.words_array`, `Client.parseStates_array` — words sent as an array are read back
  as sent, so a state reaches the panel as the compositor sent it.
* `Panel.handle_state_get?` — handling a state changes the active flag of its window only.
* `Client.reported_state_sets_active` — a reported state is the set of flags its complete words
  name, and handling it makes the window active exactly when a word is 2.
-/

namespace DeskPanel

/-! ### Flags and their bits -/

namespace WindowFlag

/-- The number that names a flag: its place in bit order. -/
def code : WindowFlag → Nat
  | .maximized => 0
  | .minimized => 1
  | .activated => 2
  | .fullscreen => 3

@[simp] theorem ofRaw?_code (f : WindowFlag) : ofRaw? f.code = some f := by
  cases f <;> rfl

theorem toNat_bit (f : WindowFlag) : f.bit.toNat = 2 ^ f.code := by
  cases f <;> rfl

theorem code_injective : Function.Injective code := by
  intro f g h
  have hf := ofRaw?_code f
  rw [h, ofRaw?_code] at hf
  exact (Option.some.inj hf).symm

theorem ofRaw?_eq_some_iff {v : Nat} {f : WindowFlag} : ofRaw? v = some f ↔ v = f.code := by
  constructor
  · intro h
    rcases v with _ | _ | _ | _ | v <;> cases h <;> rfl
  · rintro rfl
    exact ofRaw?_code f

/-- A number names the flag at its place in the list of flags. -/
theorem ofRaw?_eq_getElem?_all (v : Nat) : ofRaw? v = all[v]? := by
  rcases v with _ | _ | _ | _ | v
  iterate 4 rfl
  simp [ofRaw?, all]

@[simp] theorem mem_all (f : WindowFlag) : f ∈ all := by
  cases f <;> decide

end WindowFlag

namespace WindowState

/-- A state has a flag exactly when the bit at the flag's number is set. -/
theorem has_eq_testBit (s : WindowState) (f : WindowFlag) :
    s.has f = s.bits.toNat.testBit f.code := by
  have hand : (s.bits &&& f.bit).toNat = (s.bits.toNat.testBit f.code).toNat * 2 ^ f.code := by
    rw [UInt8.toNat_and, WindowFlag.toNat_bit, Nat.and_two_pow]
  rw [has, Bool.eq_iff_iff, bne_iff_ne, ne_eq, ← UInt8.toNat_inj, hand, UInt8.toNat_zero]
  cases s.bits.toNat.testBit f.code <;> simp

/-- A bit of a fold of flags is set exactly when it was set at the start or some flag of the
list owns it. -/
theorem testBit_foldl_bit (fs : List WindowFlag) (acc : UInt8) (k : Nat) :
    (fs.foldl (fun b f => b ||| f.bit) acc).toNat.testBit k =
      (acc.toNat.testBit k || fs.any (·.code == k)) := by
  induction fs generalizing acc with
  | nil => simp
  | cons f fs ih =>
    rw [List.foldl_cons, ih, UInt8.toNat_or, Nat.testBit_or, WindowFlag.toNat_bit,
      Nat.testBit_two_pow, List.any_cons, Bool.or_assoc, beq_eq_decide]

theorem testBit_ofFlags (fs : List WindowFlag) (k : Nat) :
    (ofFlags fs).bits.toNat.testBit k = fs.any (·.code == k) := by
  rw [ofFlags, testBit_foldl_bit]
  simp

/-- **The state of a list of flags has a flag exactly when the list holds it.** -/
theorem has_ofFlags (fs : List WindowFlag) (f : WindowFlag) :
    (ofFlags fs).has f = decide (f ∈ fs) := by
  rw [has_eq_testBit, testBit_ofFlags, Bool.eq_iff_iff, List.any_eq_true, decide_eq_true_iff]
  constructor
  · rintro ⟨g, hg, hcode⟩
    rwa [← WindowFlag.code_injective (beq_iff_eq.mp hcode)]
  · intro hf
    exact ⟨f, hf, beq_self_eq_true _⟩

/-- **Two lists of flags give the same state exactly when they hold the same flags.** -/
theorem ofFlags_eq_iff {fs gs : List WindowFlag} :
    ofFlags fs = ofFlags gs ↔ ∀ f, f ∈ fs ↔ f ∈ gs := by
  constructor
  · intro h f
    rw [← decide_eq_decide, ← has_ofFlags, h, has_ofFlags]
  · intro h
    -- the two bytes agree bit by bit, since a bit is set when some flag held owns it
    have hbit : ∀ k, (ofFlags fs).bits.toNat.testBit k = (ofFlags gs).bits.toNat.testBit k := by
      intro k
      rw [testBit_ofFlags, testBit_ofFlags, Bool.eq_iff_iff, List.any_eq_true, List.any_eq_true]
      exact exists_congr fun g => and_congr_left' (h g)
    exact congrArg WindowState.mk (UInt8.toNat_inj.mp (Nat.eq_of_testBit_eq hbit))

/-- The state of a list of numbers holds, in bit order, the flags at the places the numbers
name; other numbers, the order of the numbers and their repetitions make no difference. -/
theorem ofRaw_eq_ofFlags (raw : List Nat) :
    ofRaw raw =
      ofFlags (WindowFlag.all.filter fun f => ∃ v ∈ raw, WindowFlag.all[v]? = some f) := by
  rw [ofRaw, ofFlags_eq_iff]
  intro f
  simp only [List.mem_filterMap, List.mem_filter, WindowFlag.mem_all, true_and,
    decide_eq_true_eq, WindowFlag.ofRaw?_eq_getElem?_all]

/-- A list of numbers describes an active window exactly when it holds 2. -/
theorem active_ofRaw (raw : List Nat) : (ofRaw raw).active = decide (2 ∈ raw) := by
  rw [active, ofRaw, has_ofFlags, decide_eq_decide, List.mem_filterMap]
  simp only [WindowFlag.ofRaw?_eq_some_iff, exists_eq_right]
  rfl

end WindowState

/-! ### Words of a byte string -/

namespace ByteOrder

/-- A string of fewer than four bytes holds no four bytes anywhere. -/
theorem take_four_drop_ne {raw : List UInt8} (h : raw.length < 4) (n : Nat)
    (b₀ b₁ b₂ b₃ : UInt8) : (raw.drop n).take 4 ≠ [b₀, b₁, b₂, b₃] := by
  intro e
  have hlen := congrArg List.length e
  simp only [List.length_take, List.length_drop, List.length_cons, List.length_nil] at hlen
  omega

theorem drop_four_mul_succ (b₀ b₁ b₂ b₃ : UInt8) (rest : List UInt8) (i : Nat) :
    (b₀ :: b₁ :: b₂ :: b₃ :: rest).drop (4 * (i + 1)) = rest.drop (4 * i) := by
  rw [show 4 * (i + 1) = 4 * i + 1 + 1 + 1 + 1 by omega]
  rfl

/-- **The words of a byte string are its complete four-byte words**, those that start at a
multiple of four; an incomplete tail holds none. -/
theorem mem_words (o : ByteOrder) (raw : List UInt8) (v : Nat) :
    v ∈ o.words raw ↔ ∃ i b₀ b₁ b₂ b₃, (raw.drop (4 * i)).take 4 = [b₀, b₁, b₂, b₃] ∧
      v = o.word b₀ b₁ b₂ b₃ := by
  fun_induction o.words raw with
  | case1 b₀ b₁ b₂ b₃ rest ih =>
    rw [List.mem_cons, ih]
    constructor
    · rintro (rfl | ⟨i, c₀, c₁, c₂, c₃, hi, rfl⟩)
      · exact ⟨0, b₀, b₁, b₂, b₃, rfl, rfl⟩
      · exact ⟨i + 1, c₀, c₁, c₂, c₃, by rwa [drop_four_mul_succ], rfl⟩
    · rintro ⟨_ | i, c₀, c₁, c₂, c₃, hi, rfl⟩
      · -- the word at the start is the head
        simp only [Nat.mul_zero, List.drop_zero, List.take_succ_cons, List.take_zero,
          List.cons.injEq, and_true] at hi
        obtain ⟨rfl, rfl, rfl, rfl⟩ := hi
        exact .inl rfl
      · exact .inr ⟨i, c₀, c₁, c₂, c₃, by rwa [drop_four_mul_succ] at hi, rfl⟩
  | case2 raw hshort =>
    -- a string that is no four bytes and a rest has fewer than four
    have hlen : raw.length < 4 := by
      rcases raw with _ | ⟨b₀, _ | ⟨b₁, _ | ⟨b₂, _ | ⟨b₃, rest⟩⟩⟩⟩
      iterate 4 simp
      exact (hshort b₀ b₁ b₂ b₃ rest rfl).elim
    simp only [List.not_mem_nil, false_iff, not_exists, not_and]
    intro i b₀ b₁ b₂ b₃ h
    exact absurd h (take_four_drop_ne hlen _ b₀ b₁ b₂ b₃)

/-- The four bytes of a 32-bit word hold it. -/
theorem word_bytes (o : ByteOrder) {v : Nat} (h : v < 4294967296) :
    ∃ b₀ b₁ b₂ b₃, o.bytes v = [b₀, b₁, b₂, b₃] ∧ o.word b₀ b₁ b₂ b₃ = v := by
  have hv : v % 256 + 256 * (v / 256 % 256) + 65536 * (v / 65536 % 256) +
      16777216 * (v / 16777216 % 256) = v := by omega
  -- in either order the bytes are the four base-256 digits of the word
  cases o <;>
    exact ⟨_, _, _, _, rfl, by simpa only [word, Nat.toUInt8, UInt8.toNat_ofNat'] using hv⟩

/-- **Words sent as an array are read back as sent.** -/
theorem words_array (o : ByteOrder) {vs : List Nat} (h : ∀ v ∈ vs, v < 4294967296) :
    o.words (o.array vs) = vs := by
  induction vs with
  | nil => rfl
  | cons v vs ih =>
    obtain ⟨b₀, b₁, b₂, b₃, hb, hw⟩ := o.word_bytes (h v List.mem_cons_self)
    have hrest : ∀ x ∈ vs, x < 4294967296 := fun x hx => h x (List.mem_cons_of_mem v hx)
    rw [array, List.flatMap_cons, hb, ← array]
    rw [show [b₀, b₁, b₂, b₃] ++ o.array vs = b₀ :: b₁ :: b₂ :: b₃ :: o.array vs from rfl,
      words, hw, ih hrest]

end ByteOrder

/-! ### Handling a reported state -/

namespace Registry

variable {η : Type} [DecidableEq η]

/-- An update of a tracked window changes the window under its key and no other. -/
theorem get?_modify?_of_tracked {r : Registry η} {id : η} {k : WindowKey} {w : Tracked η}
    (hk : r.keyOf? id = some k) (hw : r.get? k = some w) (f : Tracked η → Tracked η) :
    ∃ r', r.modify? id f = some r' ∧
      ∀ k', r'.get? k' = if k' = k then some (f w) else r.get? k' := by
  have hw' : r.windows.get? k = some w := hw
  obtain ⟨m, hm⟩ : ∃ m, r.windows.modify? k f = some m :=
    Option.isSome_iff_exists.mp (by rw [SlotMap.isSome_modify?, hw']; rfl)
  refine ⟨{ r with windows := m }, by rw [modify?_of_tracked hk, hm, Option.map_some], ?_⟩
  intro k'
  show m.get? k' = _
  rw [SlotMap.get?_of_modify? hm]
  split
  · rw [hw', Option.map_some]
  · rfl

end Registry

namespace Panel

variable {η : Type} [DecidableEq η]

/-- **Handling the state of a tracked window sets its active flag from the state** and changes
nothing else of it or of any other window; the panel then renders. -/
theorem handle_state_get? (p : Panel η) {id : η} {k : WindowKey} {w : Tracked η}
    (hk : p.windows.keyOf? id = some k) (hw : p.windows.get? k = some w) (s : WindowState) :
    (∀ k', (p.handle (.state id s)).1.windows.get? k' =
      if k' = k then some { w with active := s.active } else p.windows.get? k') ∧
    (p.handle (.state id s)).2.1 = .render := by
  obtain ⟨r', hr', hget⟩ :=
    Registry.get?_modify?_of_tracked hk hw fun w => { w with active := s.active }
  have hhandle : p.handle (.state id s) = ({ p with windows := r' }, .render, []) := by
    simp only [handle, show p.windows.setState id s = some r' from hr', onWindow]
  rw [hhandle]
  exact ⟨hget, rfl⟩

end Panel

/-! ### The state a window reports -/

namespace Client

/-- The state a window reports is the state of the words of its array. -/
theorem parseStates_eq (o : ByteOrder) (raw : List UInt8) :
    parseStates o raw = WindowState.ofRaw (o.words raw) := rfl

/-- **A window's state sent by the compositor reaches the panel as sent.** -/
theorem parseStates_array (o : ByteOrder) {vs : List Nat} (h : ∀ v ∈ vs, v < 4294967296) :
    parseStates o (o.array vs) = WindowState.ofRaw vs := by
  rw [parseStates_eq, o.words_array h]

example : parseStates .little (ByteOrder.little.array [2, 3]) =
    WindowState.ofFlags [.activated, .fullscreen] := by
  decide

variable {η : Type} [DecidableEq η]

/-- **Window activity is recomputed from the reported state.** The words read from a byte
string, in either byte order, are its complete four-byte words; the state read is the set of
flags, taken in bit order, that some word names by its place among the flags; and handling it
for a tracked window makes the window active exactly when some word is 2, whatever it was
before, keeping its title, application id and every other window. -/
theorem reported_state_sets_active (o : ByteOrder) (raw : List UInt8) :
    (∀ v, v ∈ o.words raw ↔ ∃ i b₀ b₁ b₂ b₃, (raw.drop (4 * i)).take 4 = [b₀, b₁, b₂, b₃] ∧
      v = o.word b₀ b₁ b₂ b₃) ∧
    parseStates o raw = WindowState.ofFlags (WindowFlag.all.filter fun f =>
      ∃ v ∈ o.words raw, WindowFlag.all[v]? = some f) ∧
    ∀ (p : Panel η) (id : η) (k : WindowKey) (w : Tracked η),
      p.windows.keyOf? id = some k → p.windows.get? k = some w →
      ∀ k', (p.handle (.state id (parseStates o raw))).1.windows.get? k' =
        if k' = k then some { w with active := decide (2 ∈ o.words raw) }
        else p.windows.get? k' := by
  refine ⟨o.mem_words raw, WindowState.ofRaw_eq_ofFlags _, ?_⟩
  intro p id k w hk hw
  rw [← WindowState.active_ofRaw, ← parseStates_eq]
  exact (p.handle_state_get? hk hw _).1

/-- A tracked window whose array holds an unknown word, then the word 2, then a stray byte,
becomes active. -/
theorem reported_state_activates_tracked :
    ((Panel.ofState (PanelState.ofSettings {}) : Panel Nat).handle (.appeared 7)).1.windows.keyOf?
        7 = some ⟨0⟩ ∧
      ((Panel.ofState (PanelState.ofSettings {}) : Panel Nat).handle (.appeared 7)).1.windows.get?
        ⟨0⟩ = some { id := 7 } ∧
      (((Panel.ofState (PanelState.ofSettings {}) : Panel Nat).handle (.appeared 7)).1.handle
        (.state 7 (parseStates .little [42, 0, 0, 0, 2, 0, 0, 0, 9]))).1.windows.get? ⟨0⟩ =
        some { id := 7, active := true } :=
  ⟨rfl, rfl, ((reported_state_sets_active .little [42, 0, 0, 0, 2, 0, 0, 0, 9]).2.2 _ 7 ⟨0⟩
    { id := 7 } rfl rfl ⟨0⟩).trans rfl⟩

end Client

end DeskPanel
