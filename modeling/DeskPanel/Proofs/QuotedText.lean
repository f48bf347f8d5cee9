import DeskPanel.Text.Quote

/-!
# What quoted text shows as is

Quoting writes each character either as itself or as an escape that starts with a backslash. A
character stands as itself exactly when it is shown (`Text.isShown`) and is neither a backslash
nor a double quote. Printable ASCII is shown, the ASCII and Latin-1 controls are not, and no
white space is shown but the plain space; so a text of printable characters other than the two
specials is quoted by wrapping it in double quotes, while a tab or a no-break space in it is
escaped.

## Main results

* `inRanges_iff` — membership in a table of closed ranges.
* `isShown_of_printable`, `isShown_of_control` — printable ASCII is shown, the controls are not.
* `isShown_of_white` — white space other than the plain space is escaped.
* `escapeChar_of_shown`, `escapeChar_of_escaped` — each character is itself or a backslash escape.
* `quote_of_shown` — a text of shown characters without a backslash or a double quote is quoted
  as it is.
-/

namespace DeskPanel.Text

/-! ### The character classes -/

theorem inRanges_iff {n : Nat} {rs : List (Nat × Nat)} :
    inRanges n rs = true ↔ ∃ r ∈ rs, r.1 ≤ n ∧ n ≤ r.2 := by
  induction rs with
  | nil => simp [inRanges]
  | cons r rs ih =>
    obtain ⟨a, b⟩ := r
    simp [inRanges, ih]

/-- Printable ASCII is shown as is. -/
theorem isShown_of_printable {c : Char} (hlo : 32 ≤ c.toNat) (hhi : c.toNat < 127) :
    isShown c = true := by
  -- no escaped range meets the printable ASCII block
  have hclear : ∀ n, n < 127 → 32 ≤ n → inRanges n escapedRanges = false := by decide +kernel
  simp [isShown, hclear c.toNat hhi hlo]

/-- The ASCII controls, delete and the Latin-1 controls are escaped. -/
theorem isShown_of_control {c : Char} (h : c.toNat < 32 ∨ 127 ≤ c.toNat ∧ c.toNat < 160) :
    isShown c = false := by
  have hC0 : (0x0, 0x1F) ∈ escapedRanges := by decide
  have hC1 : (0x7F, 0xA0) ∈ escapedRanges := by decide
  have hin : inRanges c.toNat escapedRanges = true := by
    rcases h with h | ⟨hlo, hhi⟩
    · exact inRanges_iff.mpr ⟨_, hC0, Nat.zero_le _, by omega⟩
    · exact inRanges_iff.mpr ⟨_, hC1, hlo, by omega⟩
  simp [isShown, hin]

/-- Every white space but the plain space is written as an escape. -/
theorem isShown_of_white {c : Char} (hw : isWhite c = true) (hc : c ≠ ' ') :
    isShown c = false := by
  obtain ⟨r, hr, hlo, hhi⟩ := inRanges_iff.mp hw
  -- each white range but the plain space's lies inside an escaped range
  have hcover : ∀ r ∈ whiteRanges, r ≠ (0x20, 0x20) →
      ∃ e ∈ escapedRanges, e.1 ≤ r.1 ∧ r.2 ≤ e.2 := by decide +kernel
  have hr' : r ≠ (0x20, 0x20) := by
    rintro rfl
    apply hc
    have h32 : c.toNat = 32 := by simp at hlo hhi; omega
    rw [← Char.ofNat_toNat c, h32]
  obtain ⟨e, he, helo, hehi⟩ := hcover r hr hr'
  have hin : inRanges c.toNat escapedRanges = true := inRanges_iff.mpr ⟨e, he, by omega, by omega⟩
  simp [isShown, hin]

example : isWhite '　' = true ∧ isShown '　' = false := by decide +kernel

/-! ### Quoting -/

/-- A shown character other than a backslash and a double quote is written as itself. -/
theorem escapeChar_of_shown {c : Char} (hs : isShown c = true) (hb : c ≠ '\\') (hq : c ≠ '"') :
    escapeChar c = String.singleton c := by
  -- the other two-character escapes are of controls, which are not shown
  have hcontrol : ∀ d, d = '\t' ∨ d = '\n' ∨ d = '\r' ∨ d = '\x00' → c ≠ d := by
    rintro d hd rfl
    rw [isShown_of_control (by rcases hd with rfl | rfl | rfl | rfl <;> decide)] at hs
    cases hs
  simp [escapeChar, hb, hq, hs, hcontrol '\t' (by simp), hcontrol '\n' (by simp),
    hcontrol '\r' (by simp), hcontrol '\x00' (by simp)]

/-- Every other character is written as an escape that starts with a backslash. -/
theorem escapeChar_of_escaped {c : Char} (h : isShown c = false ∨ c = '\\' ∨ c = '"') :
    (escapeChar c).toList.head? = some '\\' := by
  unfold escapeChar
  by_cases hb : c = '\\'
  · rw [if_pos hb]
    rfl
  by_cases hq : c = '"'
  · rw [if_neg hb, if_pos hq]
    rfl
  have hs : isShown c = false := by simpa [hb, hq] using h
  simp only [hb, hq, hs, if_false, Bool.false_eq_true]
  -- the controls' two-character escapes, then the code point escape
  split
  · rfl
  split
  · rfl
  split
  · rfl
  split
  · rfl
  · simp [String.toList_append]

theorem join_map_escapeChar {l : List Char}
    (h : ∀ c ∈ l, isShown c = true ∧ c ≠ '\\' ∧ c ≠ '"') :
    String.join (l.map escapeChar) = String.ofList l := by
  apply String.ext
  rw [String.toList_join, String.toList_ofList]
  induction l with
  | nil => rfl
  | cons c l ih =>
    obtain ⟨hs, hb, hq⟩ := h c List.mem_cons_self
    have hl := ih fun d hd => h d (List.mem_cons_of_mem c hd)
    simp [escapeChar_of_shown hs hb hq, hl]

/-- **Plain text is quoted as it is**: between double quotes, unchanged. -/
theorem quote_of_shown {s : String} (h : ∀ c ∈ s.toList, isShown c = true ∧ c ≠ '\\' ∧ c ≠ '"') :
    quote s = "\"" ++ s ++ "\"" := by
  rw [quote, join_map_escapeChar h, String.ofList_toList]

example : quote "it's" = "\"it's\"" := by decide +kernel

example : quote "a\tb" = "\"a\\tb\"" := by decide +kernel

end DeskPanel.Text
