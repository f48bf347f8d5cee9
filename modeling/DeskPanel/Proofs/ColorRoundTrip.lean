import Mathlib
import DeskPanel.Proofs.ColorText

/-!
# A color's text reads back

The text of a color is `#` and the eight hexadecimal digits of its word, most significant first
and in lowercase. Reading undoes writing: every color reads back from its text. The other way
round, a text that reads as a color differs from that color's text only in what reading forgets:
which of the three prefixes it had, the case of its letters, and the alpha `ff` that six digits
leave implicit.

Both directions rest on one fact about runs of digits. Reading the `n` low digits of a value
gives the value modulo `16 ^ n` (`hexNumber_hexDigits`), and writing the `n` low digits of the
value of a run of `n` digits gives the run back in lowercase (`hexDigits_hexNumber`).

## Main definitions

* `Color.hexDigits` — the `n` low hexadecimal digits of a value.

## Main results

* `Color.parse_hex` — every color reads back from its text.
* `Color.hex_of_parse_eq_ok` — the text of a color read from a text.
* `Color.parse_inverts_hex` — both together.
-/

namespace DeskPanel

namespace Color

/-! ### One digit -/

theorem hexValue_hexDigit {n : Nat} (h : n < 16) : hexValue (hexDigit n) = n := by
  interval_cases n <;> decide

theorem isHexDigit_hexDigit {n : Nat} (h : n < 16) : isHexDigit (hexDigit n) = true := by
  interval_cases n <;> decide

/-- A capital is made small 32 code points on. -/
theorem toNat_toLower_of_upper {c : Char} (h : 65 ≤ c.toNat ∧ c.toNat ≤ 90) :
    c.toLower.toNat = c.toNat + 32 := by
  have hupper : c.val ≥ 'A'.val ∧ c.val ≤ 'Z'.val := by
    simp only [ge_iff_le, UInt32.le_iff_toNat_le]
    exact h
  unfold Char.toLower
  rw [dif_pos hupper]
  show (c.val + ('a'.val - 'A'.val)).toNat = c.val.toNat + 32
  rw [UInt32.toNat_add, show ('a'.val - 'A'.val).toNat = 32 by decide]
  have hval : c.val.toNat = c.toNat := rfl
  omega

theorem toLower_of_not_upper {c : Char} (h : ¬ (65 ≤ c.toNat ∧ c.toNat ≤ 90)) : c.toLower = c := by
  have hupper : ¬ (c.val ≥ 'A'.val ∧ c.val ≤ 'Z'.val) := by
    simp only [ge_iff_le, UInt32.le_iff_toNat_le]
    exact h
  unfold Char.toLower
  rw [dif_neg hupper]

/-- Writing the value of a digit gives the digit back, in lowercase. -/
theorem hexDigit_hexValue {c : Char} (h : isHexDigit c = true) : hexDigit (hexValue c) = c.toLower := by
  -- each case names the code point of the digit written, which is that of the lowercase digit
  have hcode : ∀ k, c.toLower.toNat = k → Char.ofNat k = c.toLower :=
    fun k hk => hk ▸ Char.ofNat_toNat c.toLower
  unfold hexDigit
  rcases hexValue_eq h with ⟨h₁, h₂, hv⟩ | ⟨h₁, h₂, hv⟩ | ⟨h₁, h₂, hv⟩
  · rw [hv, if_pos (by omega)]
    apply hcode
    rw [toLower_of_not_upper (by omega)]
    simp only [Char.reduceToNat]
    omega
  · rw [hv, if_neg (by omega)]
    apply hcode
    rw [toLower_of_not_upper (by omega)]
    simp only [Char.reduceToNat]
    omega
  · rw [hv, if_neg (by omega)]
    apply hcode
    rw [toNat_toLower_of_upper (by omega)]
    simp only [Char.reduceToNat]
    omega

/-! ### Low digits of a value -/

/-- The `n` low hexadecimal digits of a value, most significant first. -/
def hexDigits : Nat → Nat → List Char
  | 0, _ => []
  | n + 1, v => hexDigit (v / 16 ^ n % 16) :: hexDigits n v

@[simp] theorem length_hexDigits (n v : Nat) : (hexDigits n v).length = n := by
  induction n with
  | zero => rfl
  | succ n ih => simp [hexDigits, ih]

theorem isHexDigit_of_mem_hexDigits {n v : Nat} {c : Char} (hc : c ∈ hexDigits n v) :
    isHexDigit c = true := by
  induction n with
  | zero => cases hc
  | succ n ih =>
    rcases List.mem_cons.mp hc with rfl | hc
    · exact isHexDigit_hexDigit (Nat.mod_lt _ (by norm_num))
    · exact ih hc

/-- The text of a color is its eight low digits. -/
theorem hex8_eq_hexDigits (v : Nat) : hex8 v = hexDigits 8 v := by
  have hall : ∀ n, ((List.range n).reverse.map fun i => hexDigit (v / 16 ^ i % 16)) = hexDigits n v := by
    intro n
    induction n with
    | zero => rfl
    | succ n ih => rw [List.range_succ, List.reverse_append, List.map_append, ih]; rfl
  exact hall 8

theorem toList_hex (c : Color) : c.hex.toList = '#' :: hexDigits 8 c.rgba.toNat := by
  rw [hex, String.toList_ofList, hex8_eq_hexDigits]

example : hex ⟨0x4A4A4AFF⟩ = "#4a4a4aff" := by decide

/-- Reading the `n` low digits of a value gives the value modulo `16 ^ n`. -/
theorem hexNumber_hexDigits (n v : Nat) : hexNumber (hexDigits n v) = v % 16 ^ n := by
  induction n with
  | zero => simp [hexDigits, hexNumber_nil, Nat.mod_one]
  | succ n ih =>
    rw [hexDigits, hexNumber_cons, length_hexDigits, ih,
      hexValue_hexDigit (Nat.mod_lt _ (by norm_num)), Nat.mod_pow_succ]
    ring

/-- The low digits of a value do not see what lies above them. -/
theorem hexDigits_mul_add (n a b : Nat) : hexDigits n (a * 16 ^ n + b) = hexDigits n b := by
  induction n generalizing a with
  | zero => rfl
  | succ n ih =>
    have hhead : (a * 16 ^ (n + 1) + b) / 16 ^ n % 16 = b / 16 ^ n % 16 := by
      rw [show a * 16 ^ (n + 1) = 16 ^ n * (16 * a) by ring,
        Nat.mul_add_div (Nat.pow_pos (by norm_num)), Nat.mul_add_mod]
    rw [hexDigits, hexDigits, hhead, show a * 16 ^ (n + 1) = a * 16 * 16 ^ n by ring, ih]

/-- Writing the value of a run of digits as many digits gives the run back, in lowercase. -/
theorem hexDigits_hexNumber {D : List Char} (hall : ∀ c ∈ D, isHexDigit c = true) :
    hexDigits D.length (hexNumber D) = D.map Char.toLower := by
  induction D with
  | nil => rfl
  | cons c ds ih =>
    have hc : isHexDigit c = true := hall c List.mem_cons_self
    have hds : ∀ x ∈ ds, isHexDigit x = true := fun x hx => hall x (List.mem_cons_of_mem c hx)
    have hlt : hexNumber ds < 16 ^ ds.length := hexNumber_lt_pow hds
    -- the lead digit is the quotient by the place of the rest
    have hhead : hexNumber (c :: ds) / 16 ^ ds.length % 16 = hexValue c := by
      rw [hexNumber_cons, Nat.mul_comm, Nat.mul_add_div (Nat.pow_pos (by norm_num)),
        Nat.div_eq_of_lt hlt, Nat.add_zero, Nat.mod_eq_of_lt (hexValue_lt hc)]
    rw [List.length_cons, hexDigits, hhead, hexDigit_hexValue hc, hexNumber_cons,
      hexDigits_mul_add, ih hds, List.map_cons]

/-- Reading a run of digits after another shifts the first past the second. -/
theorem hexNumber_append (D E : List Char) :
    hexNumber (D ++ E) = hexNumber D * 16 ^ E.length + hexNumber E := by
  rw [hexNumber, List.foldl_append, foldl_hexStep]
  rfl

/-! ### Reading and writing -/

/-- **Every color reads back from its text.** -/
theorem parse_hex (c : Color) : parse c.hex = .ok c := by
  have hpre : Prefixed c.hex (hexDigits 8 c.rgba.toNat) := .inl (toList_hex c)
  have hall : ∀ ch ∈ hexDigits 8 c.rgba.toNat, isHexDigit ch = true :=
    fun _ hch => isHexDigit_of_mem_hexDigits hch
  have hlen : (hexDigits 8 c.rgba.toNat).length = 8 := length_hexDigits 8 _
  have hvalue : hexNumber (hexDigits 8 c.rgba.toNat) = c.rgba.toNat := by
    rw [hexNumber_hexDigits, Nat.mod_eq_of_lt]
    exact c.rgba.toNat_lt_size
  rw [parse_of_prefixed hpre, if_neg (not_bad_of_length hall (.inr hlen)), if_neg (by omega),
    if_pos hlen, hvalue, Nat.toUInt32_eq, UInt32.ofNat_toNat]

/-- **The text of a color read from a text** is `#` and the text's digits in lowercase, followed
by `ff` when there were six of them. -/
theorem hex_of_parse_eq_ok {s : String} {c : Color} (h : parse s = .ok c) :
    ∃ D, Prefixed s D ∧
      c.hex = String.ofList ('#' :: D.map Char.toLower ++ if D.length = 6 then ['f', 'f'] else []) := by
  obtain ⟨D, hD, hall, h6 | h8⟩ := (parse_eq_ok_iff s c).mp h
  · -- six digits are the first six of eight, the last two `ff`
    obtain ⟨hlen, hv⟩ := h6
    have hall' : ∀ ch ∈ D ++ ['f', 'f'], isHexDigit ch = true := by
      intro ch hch
      rcases List.mem_append.mp hch with hch | hch
      · exact hall ch hch
      · simp only [List.mem_cons, List.not_mem_nil, or_false] at hch
        rcases hch with rfl | rfl <;> rfl
    have hvalue : c.rgba.toNat = hexNumber (D ++ ['f', 'f']) := by
      rw [hexNumber_append, hv, ← hexNumber_eq_ofDigits]
      rfl
    have hlen' : (D ++ ['f', 'f']).length = 8 := by simp [hlen]
    refine ⟨D, hD, ?_⟩
    rw [hex, hex8_eq_hexDigits, hvalue, ← hlen', hexDigits_hexNumber hall', if_pos hlen,
      List.map_append]
    rfl
  · obtain ⟨hlen, hv⟩ := h8
    have hvalue : c.rgba.toNat = hexNumber D := by rw [hv, hexNumber_eq_ofDigits]
    refine ⟨D, hD, ?_⟩
    rw [hex, hex8_eq_hexDigits, hvalue, ← hlen, hexDigits_hexNumber hall, if_neg (by omega),
      List.append_nil]

/-- **Writing and reading colors are inverse on the written form.** Every color reads back from
its text; and a text that reads as a color is, up to its prefix, the case of its letters and the
alpha `ff` that six digits leave implicit, the text of that color. -/
theorem parse_inverts_hex :
    (∀ c : Color, parse c.hex = .ok c) ∧
    ∀ (s : String) (c : Color), parse s = .ok c → ∃ D, Prefixed s D ∧
      c.hex = String.ofList ('#' :: D.map Char.toLower ++ if D.length = 6 then ['f', 'f'] else []) :=
  ⟨parse_hex, fun _ _ h => hex_of_parse_eq_ok h⟩

end Color

end DeskPanel
