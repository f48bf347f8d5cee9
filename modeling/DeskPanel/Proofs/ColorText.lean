import Mathlib
import DeskPanel.Color

/-!
# Reading a color

A color is written as a prefix, `#`, `0x` or `0X`, and hexadecimal digits. Reading checks three
things in turn: that there is a prefix, that every character after it is a hexadecimal digit,
and that the digits' value fits in 32 bits. Only then does it count the digits. The outcome of
every text follows:

* no prefix: `missingPrefix`;
* a character that is no hexadecimal digit, no digit at all, or more than eight significant
  digits (the digits after the leading zeros): `badDigit`;
* otherwise six digits are an opaque color, eight digits a color with its alpha, and any other
  count is `badLength`.

So of two runs of nine digits one can be a `badDigit` and the other a `badLength`, by their
values alone: `#100000000` and `#000000000`.

## Main results

* `Color.hexNumber_lt_iff` — a run of digits has a 32-bit value exactly when it has at most
  eight significant digits.
* `Color.parse_eq_error_iff`, `Color.parse_eq_ok_iff` — what reading gives, for every text.
* `Color.parse_classifies` — both together.
-/

namespace DeskPanel

/-! ### Characters by code point -/

/-- Characters are ordered by their code points. -/
theorem Char.le_iff_toNat_le {c d : Char} : c ≤ d ↔ c.toNat ≤ d.toNat := Iff.rfl

/-- The decimal digits are the code points 48 to 57. -/
theorem Char.isDigit_iff (c : Char) : c.isDigit = true ↔ 48 ≤ c.toNat ∧ c.toNat ≤ 57 := by
  simp only [Char.isDigit, Bool.and_eq_true, decide_eq_true_eq, ge_iff_le, UInt32.le_iff_toNat_le]
  rfl

namespace Color

/-! ### Digits and their value -/

/-- A hexadecimal digit by its code point: `0`–`9`, `a`–`f` or `A`–`F`. -/
theorem isHexDigit_iff (c : Char) :
    isHexDigit c = true ↔ 48 ≤ c.toNat ∧ c.toNat ≤ 57 ∨ 97 ≤ c.toNat ∧ c.toNat ≤ 102 ∨
      65 ≤ c.toNat ∧ c.toNat ≤ 70 := by
  simp only [isHexDigit, Char.isDigit_iff, Bool.or_eq_true, Bool.and_eq_true, decide_eq_true_eq,
    Char.le_iff_toNat_le, Char.reduceToNat, or_assoc]

/-- The value of a hexadecimal digit by its code point: one of three ranges, each counted from
its first digit. -/
theorem hexValue_eq {c : Char} (h : isHexDigit c = true) :
    (48 ≤ c.toNat ∧ c.toNat ≤ 57 ∧ hexValue c = c.toNat - 48) ∨
      (97 ≤ c.toNat ∧ c.toNat ≤ 102 ∧ hexValue c = c.toNat - 87) ∨
      (65 ≤ c.toNat ∧ c.toNat ≤ 70 ∧ hexValue c = c.toNat - 55) := by
  have hlower : ('a' ≤ c && c ≤ 'f') = true ↔ 97 ≤ c.toNat ∧ c.toNat ≤ 102 := by
    simp only [Bool.and_eq_true, decide_eq_true_eq, Char.le_iff_toNat_le, Char.reduceToNat]
  unfold hexValue
  rcases (isHexDigit_iff c).mp h with hd | hl | hu
  · have hdigit : c.isDigit = true := (Char.isDigit_iff c).mpr hd
    refine Or.inl ⟨hd.1, hd.2, ?_⟩
    simp only [if_pos hdigit, Char.reduceToNat]
  · have hdigit : c.isDigit = false := by
      rw [← Bool.not_eq_true, Char.isDigit_iff]
      omega
    refine Or.inr (Or.inl ⟨hl.1, hl.2, ?_⟩)
    simp only [hdigit, Bool.false_eq_true, if_false, if_pos (hlower.mpr hl), Char.reduceToNat]
    omega
  · have hdigit : c.isDigit = false := by
      rw [← Bool.not_eq_true, Char.isDigit_iff]
      omega
    have hnot : ¬ ('a' ≤ c && c ≤ 'f') = true := by
      rw [hlower]
      omega
    refine Or.inr (Or.inr ⟨hu.1, hu.2, ?_⟩)
    simp only [hdigit, Bool.false_eq_true, if_false, if_neg hnot, Char.reduceToNat]
    omega

theorem hexValue_lt {c : Char} (h : isHexDigit c = true) : hexValue c < 16 := by
  rcases hexValue_eq h with ⟨h₁, h₂, hv⟩ | ⟨h₁, h₂, hv⟩ | ⟨h₁, h₂, hv⟩ <;> omega

/-- Of the hexadecimal digits only `0` is worth nothing. -/
theorem hexValue_eq_zero_iff {c : Char} (h : isHexDigit c = true) : hexValue c = 0 ↔ c = '0' := by
  constructor
  · intro h0
    have hzero : c.toNat = 48 := by
      rcases hexValue_eq h with ⟨h₁, h₂, hv⟩ | ⟨h₁, h₂, hv⟩ | ⟨h₁, h₂, hv⟩ <;> omega
    exact Char.ext (UInt32.toNat_inj.mp hzero)
  · rintro rfl
    rfl

/-- Reading digits after a value `a` shifts `a` past them. -/
theorem foldl_hexStep (a : Nat) (ds : List Char) :
    ds.foldl (fun acc ch => acc * 16 + hexValue ch) a = a * 16 ^ ds.length + hexNumber ds := by
  induction ds generalizing a with
  | nil => simp [hexNumber]
  | cons c ds ih =>
    rw [List.foldl_cons, ih]
    conv_rhs => rw [hexNumber, List.foldl_cons, ih]
    rw [List.length_cons, Nat.pow_succ]
    ring

theorem hexNumber_nil : hexNumber [] = 0 := rfl

theorem hexNumber_cons (c : Char) (ds : List Char) :
    hexNumber (c :: ds) = hexValue c * 16 ^ ds.length + hexNumber ds := by
  rw [hexNumber, List.foldl_cons, foldl_hexStep, Nat.zero_mul, Nat.zero_add]

/-- The value of a run of digits is their positional value in base 16. -/
theorem hexNumber_eq_ofDigits (ds : List Char) :
    hexNumber ds = Nat.ofDigits 16 (ds.map hexValue).reverse := by
  induction ds with
  | nil => rfl
  | cons c ds ih =>
    rw [hexNumber_cons, List.map_cons, List.reverse_cons, Nat.ofDigits_append, ← ih,
      List.length_reverse, List.length_map, Nat.ofDigits_singleton]
    ring

/-- Leading zeros add nothing to the value. -/
theorem hexNumber_dropWhile_zero (ds : List Char) :
    hexNumber (ds.dropWhile (· = '0')) = hexNumber ds := by
  induction ds with
  | nil => rfl
  | cons c ds ih =>
    by_cases hc : c = '0'
    · subst hc
      have hzero : hexValue '0' = 0 := by decide
      rw [List.dropWhile_cons_of_pos (by simp), ih, hexNumber_cons, hzero, Nat.zero_mul,
        Nat.zero_add]
    · rw [List.dropWhile_cons_of_neg (by simpa using hc)]

theorem hexNumber_lt_pow {ds : List Char} (h : ∀ c ∈ ds, isHexDigit c = true) :
    hexNumber ds < 16 ^ ds.length := by
  induction ds with
  | nil => simp [hexNumber_nil]
  | cons c ds ih =>
    have hc : hexValue c < 16 := hexValue_lt (h c List.mem_cons_self)
    have hds : hexNumber ds < 16 ^ ds.length := ih fun x hx => h x (List.mem_cons_of_mem c hx)
    rw [hexNumber_cons, List.length_cons, Nat.pow_succ]
    calc hexValue c * 16 ^ ds.length + hexNumber ds
        < hexValue c * 16 ^ ds.length + 16 ^ ds.length := by omega
      _ = (hexValue c + 1) * 16 ^ ds.length := by ring
      _ ≤ 16 * 16 ^ ds.length := Nat.mul_le_mul_right _ hc
      _ = 16 ^ ds.length * 16 := Nat.mul_comm _ _

/-- A run of digits led by a nonzero one is worth at least the place of its lead. -/
theorem pow_le_hexNumber {c : Char} {ds : List Char} (h : isHexDigit c = true) (hc : c ≠ '0') :
    16 ^ ds.length ≤ hexNumber (c :: ds) := by
  have hpos : 0 < hexValue c := Nat.pos_of_ne_zero fun h0 => hc ((hexValue_eq_zero_iff h).mp h0)
  rw [hexNumber_cons]
  calc 16 ^ ds.length ≤ hexValue c * 16 ^ ds.length := Nat.le_mul_of_pos_left _ hpos
    _ ≤ hexValue c * 16 ^ ds.length + hexNumber ds := Nat.le_add_right _ _

/-- **A run of hexadecimal digits has a 32-bit value exactly when it has at most eight
significant digits.** -/
theorem hexNumber_lt_iff {ds : List Char} (h : ∀ c ∈ ds, isHexDigit c = true) :
    hexNumber ds < 2 ^ 32 ↔ (ds.dropWhile (· = '0')).length ≤ 8 := by
  rw [← hexNumber_dropWhile_zero, show (2 : Nat) ^ 32 = 16 ^ 8 by norm_num]
  have hsub : ∀ c ∈ ds.dropWhile (· = '0'), isHexDigit c = true :=
    fun c hc => h c ((List.dropWhile_sublist _).subset hc)
  cases hd : ds.dropWhile (· = '0') with
  | nil => simp [hexNumber_nil]
  | cons c r =>
    rw [hd] at hsub
    have hlead : c ≠ '0' := by
      have := @List.head_dropWhile_not _ (· = '0') ds (by simp [hd])
      simpa [hd] using this
    have hlo : 16 ^ r.length ≤ hexNumber (c :: r) := pow_le_hexNumber (hsub c List.mem_cons_self) hlead
    have hhi := hexNumber_lt_pow hsub
    rw [List.length_cons] at hhi ⊢
    constructor
    · intro hlt
      by_contra hlen
      have : 16 ^ 8 ≤ 16 ^ r.length := Nat.pow_le_pow_right (by norm_num) (by omega)
      omega
    · intro hlen
      calc hexNumber (c :: r) < 16 ^ (r.length + 1) := hhi
        _ ≤ 16 ^ 8 := Nat.pow_le_pow_right (by norm_num) hlen

/-! ### Prefixes -/

/-- The text is a prefix, `#`, `0x` or `0X`, followed by the digits `D`. -/
def Prefixed (s : String) (D : List Char) : Prop :=
  s.toList = '#' :: D ∨ s.toList = '0' :: 'x' :: D ∨ s.toList = '0' :: 'X' :: D

/-- The prefixes are told apart by their first characters, so the digits are what
`digitsOf?` gives. -/
theorem prefixed_iff {s : String} {D : List Char} : Prefixed s D ↔ digitsOf? s.toList = some D := by
  unfold Prefixed
  constructor
  · rintro (h | h | h) <;> rw [h] <;> rfl
  · intro h
    unfold digitsOf? at h
    split at h <;> simp_all

theorem not_prefixed_iff {s : String} : (∀ D, ¬ Prefixed s D) ↔ digitsOf? s.toList = none := by
  simp only [prefixed_iff]
  cases digitsOf? s.toList <;> simp

/-! ### The outcome of every text -/

/-- Digits that read as no 32-bit value: a character that is no hexadecimal digit, no digit at
all, or more than eight significant digits. -/
def BadDigits (D : List Char) : Prop :=
  (∃ c ∈ D, isHexDigit c = false) ∨ D = [] ∨ 8 < (D.dropWhile (· = '0')).length

instance (D : List Char) : Decidable (BadDigits D) :=
  inferInstanceAs (Decidable (_ ∨ _ ∨ _))

/-- The test `parse` makes on the digits, in the terms of `BadDigits`. -/
theorem badDigits_iff (D : List Char) :
    (!D.all isHexDigit || D.isEmpty || decide (2 ^ 32 ≤ hexNumber D)) = true ↔ BadDigits D := by
  unfold BadDigits
  by_cases hall : ∀ c ∈ D, isHexDigit c = true
  · have hfits := hexNumber_lt_iff hall
    have hnone : ¬ ∃ c ∈ D, isHexDigit c = false := fun ⟨c, hc, hf⟩ => by simp [hall c hc] at hf
    simp only [List.all_eq_true.mpr hall, Bool.not_true, Bool.false_or, Bool.or_eq_true,
      List.isEmpty_iff, decide_eq_true_eq, hnone, false_or]
    rw [← Nat.not_lt, hfits, Nat.not_le]
  · have hbad : ∃ c ∈ D, isHexDigit c = false := by simpa using hall
    have hnot : D.all isHexDigit = false := by simpa [List.all_eq_true] using hall
    simp [hnot, hbad]

/-- Reading a prefixed text, case by case on its digits. -/
theorem parse_of_prefixed {s : String} {D : List Char} (h : Prefixed s D) :
    parse s =
      if BadDigits D then .error (.badDigit s)
      else if D.length = 6 then .ok ⟨(hexNumber D * 256 + 255).toUInt32⟩
      else if D.length = 8 then .ok ⟨(hexNumber D).toUInt32⟩
      else .error (.badLength s) := by
  rw [parse, prefixed_iff.mp h]
  simp only [← badDigits_iff D]

/-- Digits that read as a value have no character other than hexadecimal digits. -/
theorem all_hex_of_not_bad {D : List Char} (h : ¬ BadDigits D) : ∀ c ∈ D, isHexDigit c = true := by
  intro c hc
  cases hx : isHexDigit c
  · exact absurd (Or.inl ⟨c, hc, hx⟩) h
  · rfl

/-- Six or eight hexadecimal digits always read as a value. -/
theorem not_bad_of_length {D : List Char} (hall : ∀ c ∈ D, isHexDigit c = true)
    (hlen : D.length = 6 ∨ D.length = 8) : ¬ BadDigits D := by
  rintro (⟨c, hc, hf⟩ | hnil | hlong)
  · simp [hall c hc] at hf
  · subst hnil
    simp at hlen
  · have := (@List.dropWhile_sublist _ D (· = '0')).length_le
    omega

/-- **Every fault of reading, and when it occurs.** Each fault keeps the whole text. -/
theorem parse_eq_error_iff (s : String) (e : ColorError) :
    parse s = .error e ↔
      (e = .missingPrefix s ∧ ∀ D, ¬ Prefixed s D) ∨
      (e = .badDigit s ∧ ∃ D, Prefixed s D ∧ BadDigits D) ∨
      (e = .badLength s ∧ ∃ D, Prefixed s D ∧ ¬ BadDigits D ∧ D.length ≠ 6 ∧ D.length ≠ 8) := by
  cases hd : digitsOf? s.toList with
  | none =>
    have hnone : ∀ D, ¬ Prefixed s D := not_prefixed_iff.mpr hd
    have hparse : parse s = .error (.missingPrefix s) := by rw [parse, hd]
    rw [hparse]
    constructor
    · intro he
      cases he
      exact Or.inl ⟨rfl, hnone⟩
    · rintro (⟨rfl, -⟩ | ⟨-, D, hD, -⟩ | ⟨-, D, hD, -⟩)
      · rfl
      · exact absurd hD (hnone D)
      · exact absurd hD (hnone D)
  | some D =>
    have hD : Prefixed s D := prefixed_iff.mpr hd
    -- the digits of a text are unique, so every case speaks of `D`
    have huniq : ∀ D', Prefixed s D' → D' = D := fun D' h' =>
      Option.some.inj ((prefixed_iff.mp h').symm.trans hd)
    rw [parse_of_prefixed hD]
    by_cases hbad : BadDigits D
    · simp only [hbad, if_true, Except.error.injEq]
      constructor
      · rintro rfl
        exact Or.inr (Or.inl ⟨rfl, D, hD, hbad⟩)
      · rintro (⟨-, hno⟩ | ⟨he, -⟩ | ⟨-, D', hD', hok, -⟩)
        · exact absurd hD (hno D)
        · exact he.symm
        · exact absurd (huniq D' hD' ▸ hbad) hok
    · simp only [hbad, if_false]
      split_ifs with h6 h8
      · simp only [false_iff]
        rintro (⟨-, hno⟩ | ⟨-, D', hD', hb⟩ | ⟨-, D', hD', -, h6', -⟩)
        · exact hno D hD
        · exact hbad (huniq D' hD' ▸ hb)
        · exact h6' (huniq D' hD' ▸ h6)
      · simp only [false_iff]
        rintro (⟨-, hno⟩ | ⟨-, D', hD', hb⟩ | ⟨-, D', hD', -, -, h8'⟩)
        · exact hno D hD
        · exact hbad (huniq D' hD' ▸ hb)
        · exact h8' (huniq D' hD' ▸ h8)
      · simp only [Except.error.injEq]
        constructor
        · rintro rfl
          exact Or.inr (Or.inr ⟨rfl, D, hD, hbad, h6, h8⟩)
        · rintro (⟨-, hno⟩ | ⟨-, D', hD', hb⟩ | ⟨he, -⟩)
          · exact absurd hD (hno D)
          · exact absurd (huniq D' hD' ▸ hb) hbad
          · exact he.symm

/-- **Every color read, and from which texts.** Six digits give the opaque color of their
value, eight digits the color whose value they are. -/
theorem parse_eq_ok_iff (s : String) (c : Color) :
    parse s = .ok c ↔ ∃ D, Prefixed s D ∧ (∀ ch ∈ D, isHexDigit ch = true) ∧
      (D.length = 6 ∧ c.rgba.toNat = Nat.ofDigits 16 (D.map hexValue).reverse * 256 + 255 ∨
        D.length = 8 ∧ c.rgba.toNat = Nat.ofDigits 16 (D.map hexValue).reverse) := by
  cases hd : digitsOf? s.toList with
  | none =>
    have hnone : ∀ D, ¬ Prefixed s D := not_prefixed_iff.mpr hd
    have hparse : parse s = .error (.missingPrefix s) := by rw [parse, hd]
    rw [hparse]
    simp only [reduceCtorEq, false_iff, not_exists, not_and]
    exact fun D hD => absurd hD (hnone D)
  | some D =>
    have hD : Prefixed s D := prefixed_iff.mpr hd
    have huniq : ∀ D', Prefixed s D' → D' = D := fun D' h' =>
      Option.some.inj ((prefixed_iff.mp h').symm.trans hd)
    have hvalue := hexNumber_eq_ofDigits D
    rw [parse_of_prefixed hD]
    constructor
    · intro h
      split_ifs at h with hbad h6 h8
      · have hall := all_hex_of_not_bad hbad
        have hfit : hexNumber D < 16 ^ 6 := h6 ▸ hexNumber_lt_pow hall
        cases h
        refine ⟨D, hD, hall, Or.inl ⟨h6, ?_⟩⟩
        rw [← hvalue]
        exact UInt32.toNat_ofNat_of_lt' (by rw [UInt32.size]; omega)
      · have hall := all_hex_of_not_bad hbad
        have hfit : hexNumber D < 16 ^ 8 := h8 ▸ hexNumber_lt_pow hall
        cases h
        refine ⟨D, hD, hall, Or.inr ⟨h8, ?_⟩⟩
        rw [← hvalue]
        exact UInt32.toNat_ofNat_of_lt' (by rw [UInt32.size]; omega)
    · rintro ⟨D', hD', hall, hc⟩
      obtain rfl := huniq D' hD'
      have hok : ¬ BadDigits D' :=
        not_bad_of_length hall (hc.imp (fun h => h.1) (fun h => h.1))
      rw [if_neg hok]
      rcases hc with ⟨h6, hc⟩ | ⟨h8, hc⟩
      · have hfit : hexNumber D' < 16 ^ 6 := h6 ▸ hexNumber_lt_pow hall
        rw [if_pos h6]
        congr
        apply UInt32.toNat_inj.mp
        rw [hc, ← hvalue]
        exact UInt32.toNat_ofNat_of_lt' (by rw [UInt32.size]; omega)
      · have hfit : hexNumber D' < 16 ^ 8 := h8 ▸ hexNumber_lt_pow hall
        rw [if_neg (by omega), if_pos h8]
        congr
        apply UInt32.toNat_inj.mp
        rw [hc, ← hvalue]
        exact UInt32.toNat_ofNat_of_lt' (by rw [UInt32.size]; omega)

example : (parse "#323232").toOption = some ⟨0x323232FF⟩ := by decide

/-- **How every text reads as a color.** A text without a prefix is a `missingPrefix`; digits
with a character that is no hexadecimal digit, no digits, and more than eight significant digits
are a `badDigit`; six digits give an opaque color and eight a color with its alpha; every other
count of digits is a `badLength`. -/
theorem parse_classifies (s : String) :
    (∀ e, parse s = .error e ↔
      (e = .missingPrefix s ∧ ∀ D, ¬ Prefixed s D) ∨
      (e = .badDigit s ∧ ∃ D, Prefixed s D ∧ BadDigits D) ∨
      (e = .badLength s ∧ ∃ D, Prefixed s D ∧ ¬ BadDigits D ∧ D.length ≠ 6 ∧ D.length ≠ 8)) ∧
    (∀ c, parse s = .ok c ↔ ∃ D, Prefixed s D ∧ (∀ ch ∈ D, isHexDigit ch = true) ∧
      (D.length = 6 ∧ c.rgba.toNat = Nat.ofDigits 16 (D.map hexValue).reverse * 256 + 255 ∨
        D.length = 8 ∧ c.rgba.toNat = Nat.ofDigits 16 (D.map hexValue).reverse)) :=
  ⟨parse_eq_error_iff s, parse_eq_ok_iff s⟩

/-- No digits at all, and nine digits worth `2 ^ 32`, are bad digits and not a bad length. -/
theorem parse_empty_and_overlong_digits :
    parse "#" = .error (.badDigit "#") ∧ parse "#100000000" = .error (.badDigit "#100000000") := by
  decide

end Color

end DeskPanel
