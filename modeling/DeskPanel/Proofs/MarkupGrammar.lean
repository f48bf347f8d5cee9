import DeskPanel.Markup
import DeskPanel.Proofs.ColorText

/-!
# The grammar of label markup

Markup is read as a sequence of items, left to right, with a stack of the tags still open:

* a character other than `<` and `&` stands for itself;
* an entity `&name;` stands for one character: `amp`, `lt`, `gt`, `quot` and `apos` for
  `&`, `<`, `>`, `"` and `'`, and `#` with a decimal numeral, or `#x` or `#X` with a hexadecimal
  one, for the character with that code point. A numeral is read the way unsigned 32-bit
  parsers read one: an optional `+`, digits of the radix, and a value below `2 ^ 32`;
* an opening tag `<body>` whose name (the first white-space separated word of the body once its
  trailing `/` are dropped) is a style tag; it opens that tag unless the body ends in `/`;
* a closing tag `</body>` whose body, trimmed of white space, names the innermost open tag.

At the end no tag may be open. `Reads open cs t` is that grammar: with the tags `open` open,
the characters `cs` read to the text `t`. It is written without the scanner: the items are
told apart by their first character, and an entity name runs to the first `;`, a tag to the
first `>`.

The scanner `Markup.scan` goes by runs of plain characters instead of single items, and finds
each item's end with `breakOff`. `scan_eq_step` states one step of it without dependent
matches; the item rules follow from it, and `scan_eq_ok_iff` is an induction on the length of
what is left. The scanner is defined by well-founded recursion on that length, so it ends on
every input.

## Main definitions

* `Markup.IsDigit`, `Markup.Numeral`, `Markup.Entity` — digits, numerals and entity names.
* `Markup.tagName`, `Markup.OpenTag` — the name of an opening tag and what makes one.
* `Markup.Reads` — the grammar.

## Main results

* `Markup.readWord?_eq_some_iff`, `Markup.entity?_eq_some_iff` — the numeral and entity readers
  read exactly the numerals and entity names.
* `Markup.applyTag_eq_ok_iff` — what a tag does to the open tags.
* `Markup.scan_eq_ok_iff` — the scanner reads exactly the grammar.
* `Markup.text_eq_ok_iff_reads` — a label's text is what the grammar reads; every other label
  is a fault.
-/

namespace DeskPanel

/-- A list split at an element that neither first part holds is split in one way. -/
theorem List.eq_of_append_cons_eq {α : Type} {a : α} :
    ∀ {l₁ l₂ r₁ r₂ : List α}, l₁ ++ a :: r₁ = l₂ ++ a :: r₂ → a ∉ l₁ → a ∉ l₂ →
      l₁ = l₂ ∧ r₁ = r₂
  | [], [], _, _, h, _, _ => ⟨rfl, by simpa using h⟩
  | [], b :: l₂, _, _, h, _, h₂ => by
    simp only [List.nil_append, List.cons_append, List.cons.injEq] at h
    exact absurd (h.1 ▸ List.mem_cons_self) h₂
  | b :: l₁, [], _, _, h, h₁, _ => by
    simp only [List.nil_append, List.cons_append, List.cons.injEq] at h
    exact absurd (h.1 ▸ List.mem_cons_self) h₁
  | b :: l₁, c :: l₂, _, _, h, h₁, h₂ => by
    simp only [List.cons_append, List.cons.injEq] at h
    obtain ⟨rfl, h⟩ := h
    obtain ⟨rfl, rfl⟩ := List.eq_of_append_cons_eq h (fun hm => h₁ (List.mem_cons_of_mem _ hm))
      (fun hm => h₂ (List.mem_cons_of_mem _ hm))
    exact ⟨rfl, rfl⟩

namespace Markup

/-! ### Finding the first character of a kind -/

section BreakOff

variable {p : Char → Bool}

theorem breakOff_of_forall : ∀ {cs : List Char}, (∀ x ∈ cs, p x = false) → breakOff p cs = (cs, none)
  | [], _ => rfl
  | c :: cs, h => by
    have hc : p c = false := h c List.mem_cons_self
    rw [breakOff, if_neg (by simp [hc]), breakOff_of_forall fun x hx => h x (List.mem_cons_of_mem c hx)]

theorem breakOff_append {c : Char} (hc : p c = true) (rest : List Char) :
    ∀ {pre : List Char}, (∀ x ∈ pre, p x = false) → breakOff p (pre ++ c :: rest) = (pre, some (c, rest))
  | [], _ => by simp [breakOff, hc]
  | d :: pre, h => by
    have hd : p d = false := h d List.mem_cons_self
    rw [List.cons_append, breakOff, if_neg (by simp [hd]),
      breakOff_append hc rest fun x hx => h x (List.mem_cons_of_mem d hx)]

/-- Either no character is of the kind, or the list splits at the first one that is. -/
theorem breakOff_cases (p : Char → Bool) (cs : List Char) :
    ((∀ x ∈ cs, p x = false) ∧ breakOff p cs = (cs, none)) ∨
      ∃ pre c rest, cs = pre ++ c :: rest ∧ (∀ x ∈ pre, p x = false) ∧ p c = true ∧
        breakOff p cs = (pre, some (c, rest)) := by
  induction cs with
  | nil => exact Or.inl ⟨by simp, rfl⟩
  | cons c cs ih =>
    cases hc : p c
    · rcases ih with ⟨hall, -⟩ | ⟨pre, d, rest, rfl, hpre, hd, -⟩
      · have hall' : ∀ x ∈ c :: cs, p x = false := by
          intro x hx
          rcases List.mem_cons.mp hx with rfl | hx
          · exact hc
          · exact hall x hx
        exact Or.inl ⟨hall', breakOff_of_forall hall'⟩
      · have hpre' : ∀ x ∈ c :: pre, p x = false := by
          intro x hx
          rcases List.mem_cons.mp hx with rfl | hx
          · exact hc
          · exact hpre x hx
        exact Or.inr ⟨c :: pre, d, rest, rfl, hpre', hd, breakOff_append hd rest hpre'⟩
    · have hnil : ∀ x ∈ ([] : List Char), p x = false := fun x hx => absurd hx List.not_mem_nil
      exact Or.inr ⟨[], c, cs, rfl, hnil, hc, breakOff_append hc cs hnil⟩

end BreakOff

/-- A character that starts no item is one other than `<` and `&`. -/
theorem isSpecial_eq_false_iff (c : Char) : isSpecial c = false ↔ c ≠ '<' ∧ c ≠ '&' := by
  simp [isSpecial]

/-! ### Numerals -/

/-- `c` is the character of digit `d` in radix `radix`: `0`–`9` for the first ten, then
`a`–`z` or `A`–`Z`. -/
def IsDigit (radix : Nat) (c : Char) (d : Nat) : Prop :=
  d < radix ∧ (d < 10 ∧ c.toNat = 48 + d ∨ 10 ≤ d ∧ (c.toNat = 87 + d ∨ c.toNat = 55 + d))

theorem digitValue?_eq_some_iff {radix : Nat} (hr : radix ≤ 36) (c : Char) (d : Nat) :
    digitValue? radix c = some d ↔ IsDigit radix c d := by
  have hdigit := Char.isDigit_iff c
  have hlower : ('a' ≤ c && c ≤ 'z') = true ↔ 97 ≤ c.toNat ∧ c.toNat ≤ 122 := by
    simp only [Bool.and_eq_true, decide_eq_true_eq, Char.le_iff_toNat_le, Char.reduceToNat]
  have hupper : ('A' ≤ c && c ≤ 'Z') = true ↔ 65 ≤ c.toNat ∧ c.toNat ≤ 90 := by
    simp only [Bool.and_eq_true, decide_eq_true_eq, Char.le_iff_toNat_le, Char.reduceToNat]
  unfold digitValue? IsDigit
  simp only [Char.reduceToNat, hdigit, hlower, hupper]
  split_ifs with h₁ h₂ h₃ <;> simp only [Option.bind_some, Option.bind_none, reduceCtorEq,
    false_iff, Option.ite_none_right_eq_some, Option.some.injEq] <;> omega

/-- A numeral of a radix as unsigned 32-bit parsers read one: an optional `+`, one or more
digits, and a value below `2 ^ 32`. -/
def Numeral (radix : Nat) (cs : List Char) (v : Nat) : Prop :=
  ∃ sign ds vs, cs = sign ++ ds ∧ (sign = [] ∨ sign = ['+']) ∧ ds ≠ [] ∧
    List.Forall₂ (IsDigit radix) ds vs ∧ v = Nat.ofDigits radix vs.reverse ∧ v < 2 ^ 32

/-- Reading digits after a value `a` shifts `a` past them. -/
theorem foldlM_digits_eq_some_iff {radix : Nat} (hr : radix ≤ 36) :
    ∀ (ds : List Char) (a v : Nat),
      ds.foldlM (fun acc c => (digitValue? radix c).map fun d => acc * radix + d) a = some v ↔
        ∃ vs, List.Forall₂ (IsDigit radix) ds vs ∧
          v = a * radix ^ ds.length + Nat.ofDigits radix vs.reverse
  | [], a, v => by
    simp only [List.foldlM_nil, List.length_nil, Nat.pow_zero, Nat.mul_one, List.forall₂_nil_left_iff,
      exists_eq_left, List.reverse_nil, Nat.ofDigits_nil, Nat.add_zero]
    exact ⟨fun h => (Option.some.inj h).symm, fun h => h ▸ rfl⟩
  | c :: ds, a, v => by
    rw [List.foldlM_cons]
    simp only [Option.bind_eq_bind, Option.bind_eq_some_iff, Option.map_eq_some_iff,
      digitValue?_eq_some_iff hr]
    constructor
    · rintro ⟨_, ⟨d, hd, rfl⟩, h⟩
      obtain ⟨vs, hvs, rfl⟩ := (foldlM_digits_eq_some_iff hr ds _ v).mp h
      refine ⟨d :: vs, List.Forall₂.cons hd hvs, ?_⟩
      rw [List.reverse_cons, Nat.ofDigits_append, List.length_reverse, ← hvs.length_eq,
        Nat.ofDigits_singleton, List.length_cons, Nat.pow_succ]
      ring
    · rintro ⟨_ | ⟨d, vs⟩, hvs, rfl⟩
      · cases hvs
      · obtain ⟨hd, hvs⟩ := List.forall₂_cons.mp hvs
        refine ⟨a * radix + d, ⟨d, hd, rfl⟩, (foldlM_digits_eq_some_iff hr ds _ _).mpr ⟨vs, hvs, ?_⟩⟩
        rw [List.reverse_cons, Nat.ofDigits_append, List.length_reverse, ← hvs.length_eq,
          Nat.ofDigits_singleton, List.length_cons, Nat.pow_succ]
        ring

/-- `+` is no digit. -/
theorem not_isDigit_plus (radix d : Nat) : ¬ IsDigit radix '+' d := by
  unfold IsDigit
  simp only [Char.reduceToNat]
  omega

/-- The digits after the sign: one or more, worth less than `2 ^ 32`. -/
theorem readDigits_eq_some_iff {radix : Nat} (hr : radix ≤ 36) (ds : List Char) (v : Nat) :
    (if ds.isEmpty then none
      else (ds.foldlM (fun acc c => (digitValue? radix c).map fun d => acc * radix + d) 0).bind
        fun v => if v < 2 ^ 32 then some v else none) = some v ↔
      ds ≠ [] ∧ ∃ vs, List.Forall₂ (IsDigit radix) ds vs ∧ v = Nat.ofDigits radix vs.reverse ∧
        v < 2 ^ 32 := by
  by_cases hds : ds = []
  · subst hds
    simp
  · simp only [List.isEmpty_iff, hds, if_false, Option.bind_eq_some_iff,
      foldlM_digits_eq_some_iff hr, Nat.zero_mul, Nat.zero_add, Option.ite_none_right_eq_some,
      Option.some.injEq, ne_eq, not_false_eq_true, true_and]
    constructor
    · rintro ⟨w, ⟨vs, hvs, rfl⟩, hlt, rfl⟩
      exact ⟨vs, hvs, rfl, hlt⟩
    · rintro ⟨vs, hvs, rfl, hlt⟩
      exact ⟨_, ⟨vs, hvs, rfl⟩, hlt, rfl⟩

/-- **The 32-bit reader reads exactly the numerals.** -/
theorem readWord?_eq_some_iff {radix : Nat} (hr : radix ≤ 36) (cs : List Char) (v : Nat) :
    readWord? radix cs = some v ↔ Numeral radix cs v := by
  unfold readWord? Numeral
  split
  · -- a `+` first: it is the sign, since no digit is a `+`
    rename_i r
    rw [readDigits_eq_some_iff hr]
    constructor
    · rintro ⟨hr, vs, hvs, rfl, hlt⟩
      exact ⟨['+'], r, vs, rfl, Or.inr rfl, hr, hvs, rfl, hlt⟩
    · rintro ⟨sign, ds, vs, hcs, rfl | rfl, hds, hvs, rfl, hlt⟩
      · subst hcs
        cases hvs with
        | cons hd _ => exact absurd hd (not_isDigit_plus radix _)
      · cases hcs
        exact ⟨hds, vs, hvs, rfl, hlt⟩
  · -- no sign
    rename_i hplus
    rw [readDigits_eq_some_iff hr]
    constructor
    · rintro ⟨hcs, vs, hvs, rfl, hlt⟩
      exact ⟨[], cs, vs, rfl, Or.inl rfl, hcs, hvs, rfl, hlt⟩
    · rintro ⟨sign, ds, vs, rfl, rfl | rfl, hds, hvs, rfl, hlt⟩
      · exact ⟨hds, vs, hvs, rfl, hlt⟩
      · exact absurd rfl (hplus ds)

/-! ### Entities -/

/-- A character's code point read back: the code point of `Char.ofNat n` is `n` when `n` is a
Unicode scalar value. -/
theorem toNat_ofNat_of_valid {n : Nat} (h : n.isValidChar) : (Char.ofNat n).toNat = n := by
  simp only [Char.ofNat, h, dif_pos]
  simp [Char.ofNatAux, Char.toNat]

/-- A code point is read as a character exactly when it is that character's. -/
theorem scalar?_eq_some_iff (n : Nat) (ch : Char) : scalar? n = some ch ↔ ch.toNat = n := by
  unfold scalar?
  constructor
  · intro h
    split_ifs at h with hv
    cases h
    apply toNat_ofNat_of_valid
    simp only [Bool.or_eq_true, decide_eq_true_eq, Bool.and_eq_true] at hv
    unfold Nat.isValidChar
    omega
  · rintro rfl
    have hvalid : ch.toNat.isValidChar := ch.valid
    unfold Nat.isValidChar at hvalid
    rw [if_pos (by simp only [Bool.or_eq_true, decide_eq_true_eq, Bool.and_eq_true]; omega),
      Char.ofNat_toNat]

/-- The character an entity name stands for: one of five names, or `#` and a decimal numeral,
or `#x` or `#X` and a hexadecimal one, of the character's code point. -/
inductive Entity : List Char → Char → Prop
  | amp : Entity ['a', 'm', 'p'] '&'
  | lt : Entity ['l', 't'] '<'
  | gt : Entity ['g', 't'] '>'
  | quot : Entity ['q', 'u', 'o', 't'] '"'
  | apos : Entity ['a', 'p', 'o', 's'] '\''
  | decimal {ds : List Char} {ch : Char} : Numeral 10 ds ch.toNat → Entity ('#' :: ds) ch
  | hexadecimal {x : Char} {ds : List Char} {ch : Char} :
      x = 'x' ∨ x = 'X' → Numeral 16 ds ch.toNat → Entity ('#' :: x :: ds) ch

/-- A decimal numeral starts with a `+` or a decimal digit, never with an `x`. -/
theorem Numeral.head_ne_x {ds : List Char} {v : Nat} (h : Numeral 10 ds v) :
    ds.head? ≠ some 'x' ∧ ds.head? ≠ some 'X' := by
  obtain ⟨sign, ds', vs, rfl, rfl | rfl, hne, hvs, -⟩ := h
  · obtain ⟨c, cs, rfl⟩ := List.exists_cons_of_ne_nil hne
    cases hvs with
    | cons hd _ =>
      unfold IsDigit at hd
      simp only [List.nil_append, List.head?_cons, ne_eq, Option.some.injEq]
      constructor <;> rintro rfl <;> simp only [Char.reduceToNat] at hd <;> omega
  · simp

/-- After `#`, anything but an `x` or an `X` is read as a decimal numeral. -/
theorem entity?_hash {ds : List Char} (hx : ds.head? ≠ some 'x') (hX : ds.head? ≠ some 'X') :
    entity? ('#' :: ds) = (readWord? 10 ds).bind scalar? := by
  unfold entity?
  split <;> simp_all

/-- **The entity reader reads exactly the entity names.** -/
theorem entity?_eq_some_iff (name : List Char) (ch : Char) :
    entity? name = some ch ↔ Entity name ch := by
  constructor
  · intro h
    unfold entity? at h
    split at h
    · cases h
      exact .amp
    · cases h
      exact .lt
    · cases h
      exact .gt
    · cases h
      exact .quot
    · cases h
      exact .apos
    · obtain ⟨v, hv, hs⟩ := Option.bind_eq_some_iff.mp h
      rw [← (scalar?_eq_some_iff v ch).mp hs] at hv
      exact .hexadecimal (Or.inl rfl) ((readWord?_eq_some_iff (by norm_num) _ _).mp hv)
    · obtain ⟨v, hv, hs⟩ := Option.bind_eq_some_iff.mp h
      rw [← (scalar?_eq_some_iff v ch).mp hs] at hv
      exact .hexadecimal (Or.inr rfl) ((readWord?_eq_some_iff (by norm_num) _ _).mp hv)
    · obtain ⟨v, hv, hs⟩ := Option.bind_eq_some_iff.mp h
      rw [← (scalar?_eq_some_iff v ch).mp hs] at hv
      exact .decimal ((readWord?_eq_some_iff (by norm_num) _ _).mp hv)
    · cases h
  · intro h
    cases h with
    | amp | lt | gt | quot | apos => rfl
    | decimal hn =>
      obtain ⟨hx, hX⟩ := hn.head_ne_x
      rw [entity?_hash hx hX, (readWord?_eq_some_iff (by norm_num) _ _).mpr hn, Option.bind_some,
        (scalar?_eq_some_iff _ _).mpr rfl]
    | hexadecimal hx hn =>
      rcases hx with rfl | rfl <;>
        rw [entity?, (readWord?_eq_some_iff (by norm_num) _ _).mpr hn, Option.bind_some,
          (scalar?_eq_some_iff _ _).mpr rfl]

/-! ### Tags -/

/-- The name of an opening tag's body: the first of the white-space separated words of the body
once its trailing `/` are dropped, or nothing when there is none. -/
def tagName (body : List Char) : List Char :=
  (((body.rdropWhile (· = '/')).splitOnP Text.isWhite).filter (· ≠ [])).headD []

/-- The first piece of a split is what comes before the first separator. -/
theorem splitOnP_eq_takeWhile_cons (p : Char → Bool) :
    ∀ cs : List Char, ∃ rest, cs.splitOnP p = cs.takeWhile (fun c => !p c) :: rest
  | [] => ⟨[], by simp⟩
  | c :: cs => by
    obtain ⟨rest, h⟩ := splitOnP_eq_takeWhile_cons p cs
    by_cases hc : p c = true
    · exact ⟨cs.splitOnP p, by simp [List.splitOnP_cons_eq_if_modifyHead, hc]⟩
    · exact ⟨rest, by simp [List.splitOnP_cons_eq_if_modifyHead, hc, h]⟩

/-- The first word is the first piece between white space that is not empty. -/
theorem firstWord_eq_headD (cs : List Char) :
    firstWord cs = ((cs.splitOnP Text.isWhite).filter (· ≠ [])).headD [] := by
  induction cs with
  | nil => rfl
  | cons c cs ih =>
    by_cases hc : Text.isWhite c = true
    · rw [List.splitOnP_cons_eq_if_modifyHead, if_pos hc, List.filter_cons_of_neg (by simp), ← ih]
      simp [firstWord, hc]
    · obtain ⟨rest, hsplit⟩ := splitOnP_eq_takeWhile_cons Text.isWhite cs
      rw [List.splitOnP_cons_eq_if_modifyHead, if_neg hc, hsplit, List.modifyHead_cons,
        List.filter_cons_of_pos (by simp), List.headD_cons]
      simp [firstWord, hc]

theorem tagName_eq_firstWord (body : List Char) :
    tagName body = firstWord (dropTrailingSlashes body) := by
  rw [tagName, firstWord_eq_headD]
  rfl

/-- The body of an opening tag `<body>`: no `>` in it, not starting with `/`, and named by a
style tag. -/
structure OpenTag (body : List Char) (name : String) : Prop where
  no_gt : '>' ∉ body
  not_closing : body.head? ≠ some '/'
  name_eq : name = String.ofList (tagName body)
  styled : name ∈ styleTags

/-- **What a tag does to the open tags.** A closing tag `/body` closes the innermost one, which
its trimmed body must name; an opening tag named by a style tag opens it, unless it closes
itself. -/
theorem applyTag_eq_ok_iff (tag : List Char) (stk stk' : List String) :
    applyTag tag stk = .ok stk' ↔
      (∃ body, tag = '/' :: body ∧ stk = String.ofList (Text.trimWhite body) :: stk') ∨
      (tag.head? ≠ some '/' ∧ String.ofList (tagName tag) ∈ styleTags ∧
        stk' = if tag.getLast? = some '/' then stk
          else String.ofList (tagName tag) :: stk) := by
  unfold applyTag
  split
  · rename_i body
    simp only [List.head?_cons, ne_eq, not_true_eq_false, false_and, or_false, List.cons.injEq,
      true_and, exists_eq_left']
    split
    · rename_i top below
      split_ifs with htop
      · subst htop
        simp [eq_comm]
      · simp only [false_iff, List.cons.injEq, not_and]
        exact fun h => absurd h htop
    · simp
  · rename_i hnot
    have hhead : tag.head? ≠ some '/' := by
      cases tag with
      | nil => simp
      | cons c cs =>
        simp only [List.head?_cons, ne_eq, Option.some.injEq]
        rintro rfl
        exact hnot cs rfl
    have hnclose :
        ¬ ∃ body, tag = '/' :: body ∧ stk = String.ofList (Text.trimWhite body) :: stk' := by
      rintro ⟨body, h, -⟩
      exact hnot body h
    simp only [hhead, hnclose, ← tagName_eq_firstWord, ne_eq, not_false_eq_true, true_and, false_or,
      beq_iff_eq]
    by_cases hstyled : String.ofList (tagName tag) ∈ styleTags
    · have hc : styleTags.contains (String.ofList (tagName tag)) = true := List.elem_iff.mpr hstyled
      simp only [hc, Bool.not_true, Bool.false_eq_true, if_false, hstyled, true_and]
      split_ifs <;> simp [eq_comm]
    · simp [hstyled]

/-! ### The grammar -/

/-- `Reads open cs t`: with the tags `open` open, innermost first, the characters `cs` are
markup that closes them all, and its text is `t`. -/
inductive Reads : List String → List Char → List Char → Prop
  /-- Nothing is left and no tag is open. -/
  | done : Reads [] [] []
  /-- A character other than `<` and `&` stands for itself. -/
  | char {stk : List String} {cs t : List Char} {c : Char} :
      c ≠ '<' → c ≠ '&' → Reads stk cs t → Reads stk (c :: cs) (c :: t)
  /-- An entity stands for its character; its name runs to the first `;`. -/
  | entity {stk : List String} {cs t name : List Char} {ch : Char} :
      ';' ∉ name → Entity name ch → Reads stk cs t → Reads stk ('&' :: (name ++ ';' :: cs)) (ch :: t)
  /-- An opening tag opens its name, unless its body ends in `/`. -/
  | openTag {stk : List String} {cs t body : List Char} {name : String} :
      OpenTag body name → Reads (if body.getLast? = some '/' then stk else name :: stk) cs t →
      Reads stk ('<' :: (body ++ '>' :: cs)) t
  /-- A closing tag closes the innermost open tag, which its trimmed body names. -/
  | closeTag {stk : List String} {cs t body : List Char} {name : String} :
      '>' ∉ body → String.ofList (Text.trimWhite body) = name → Reads stk cs t →
      Reads (name :: stk) ('<' :: '/' :: (body ++ '>' :: cs)) t

theorem reads_nil_iff {stk : List String} {t : List Char} : Reads stk [] t ↔ stk = [] ∧ t = [] := by
  constructor
  · intro h
    cases h
    exact ⟨rfl, rfl⟩
  · rintro ⟨rfl, rfl⟩
    exact .done

/-- What markup starting with a character can be: the items are told apart by their first
character. -/
theorem reads_cons_iff {stk : List String} {c : Char} {s t : List Char} :
    Reads stk (c :: s) t ↔
      (c ≠ '<' ∧ c ≠ '&' ∧ ∃ t', t = c :: t' ∧ Reads stk s t') ∨
      (c = '&' ∧ ∃ name rest ch t', s = name ++ ';' :: rest ∧ ';' ∉ name ∧ Entity name ch ∧
        t = ch :: t' ∧ Reads stk rest t') ∨
      (c = '<' ∧ ∃ body rest name, s = body ++ '>' :: rest ∧ OpenTag body name ∧
        Reads (if body.getLast? = some '/' then stk else name :: stk) rest t) ∨
      (c = '<' ∧ ∃ body rest stk', s = '/' :: (body ++ '>' :: rest) ∧ '>' ∉ body ∧
        stk = String.ofList (Text.trimWhite body) :: stk' ∧ Reads stk' rest t) := by
  constructor
  · intro h
    cases h with
    | char hlt hamp h => exact Or.inl ⟨hlt, hamp, _, rfl, h⟩
    | entity hname he h => exact Or.inr (Or.inl ⟨rfl, _, _, _, _, rfl, hname, he, rfl, h⟩)
    | openTag ho h => exact Or.inr (Or.inr (Or.inl ⟨rfl, _, _, _, rfl, ho, h⟩))
    | closeTag hb hname h =>
      subst hname
      exact Or.inr (Or.inr (Or.inr ⟨rfl, _, _, _, rfl, hb, rfl, h⟩))
  · rintro (⟨hlt, hamp, t', rfl, h⟩ | ⟨rfl, name, rest, ch, t', rfl, hname, he, rfl, h⟩ |
      ⟨rfl, body, rest, name, rfl, ho, h⟩ | ⟨rfl, body, rest, stk', rfl, hb, rfl, h⟩)
    · exact .char hlt hamp h
    · exact .entity hname he h
    · exact .openTag ho h
    · exact .closeTag hb rfl h

/-- Plain characters stand for themselves. -/
theorem reads_append_plain {stk : List String} {s : List Char} :
    ∀ {pre : List Char}, (∀ x ∈ pre, isSpecial x = false) → ∀ {t : List Char},
      (Reads stk (pre ++ s) t ↔ ∃ t', t = pre ++ t' ∧ Reads stk s t')
  | [], _, _ => by simp
  | c :: pre, h, t => by
    have hc := (isSpecial_eq_false_iff c).mp (h c List.mem_cons_self)
    have ih := @reads_append_plain stk s pre fun x hx => h x (List.mem_cons_of_mem c hx)
    rw [List.cons_append, reads_cons_iff]
    simp only [hc.1, hc.2, ne_eq, not_false_eq_true, true_and, false_and, or_false]
    constructor
    · rintro ⟨t', rfl, h'⟩
      obtain ⟨t'', rfl, h''⟩ := ih.mp h'
      exact ⟨t'', rfl, h''⟩
    · rintro ⟨t', rfl, h'⟩
      exact ⟨pre ++ t', rfl, ih.mpr ⟨t', rfl, h'⟩⟩

/-- Markup without items reads as itself, and only with no tag open. -/
theorem reads_plain_iff {stk : List String} {cs t : List Char} (h : ∀ x ∈ cs, isSpecial x = false) :
    Reads stk cs t ↔ stk = [] ∧ t = cs := by
  have := @reads_append_plain stk [] cs h t
  rw [List.append_nil] at this
  rw [this]
  simp only [reads_nil_iff]
  constructor
  · rintro ⟨t', rfl, rfl, rfl⟩
    simp
  · rintro ⟨rfl, rfl⟩
    exact ⟨[], by simp, rfl, rfl⟩

/-- An entity whose name runs to the first `;` stands for the character of that name. -/
theorem reads_amp_iff {stk : List String} {name s t : List Char} (hname : ';' ∉ name) :
    Reads stk ('&' :: (name ++ ';' :: s)) t ↔
      ∃ ch t', Entity name ch ∧ t = ch :: t' ∧ Reads stk s t' := by
  rw [reads_cons_iff]
  simp only [ne_eq, not_true_eq_false, false_and, and_false, false_or, true_and, Char.reduceEq,
    or_false, false_and]
  constructor
  · rintro ⟨name', rest, ch, t', heq, hname', he, rfl, h⟩
    obtain ⟨rfl, rfl⟩ := List.eq_of_append_cons_eq heq hname hname'
    exact ⟨ch, t', he, rfl, h⟩
  · rintro ⟨ch, t', he, rfl, h⟩
    exact ⟨name, s, ch, t', rfl, hname, he, rfl, h⟩

/-- An `&` with no `;` after it reads as nothing. -/
theorem not_reads_amp {stk : List String} {rest t : List Char} (h : ';' ∉ rest) :
    ¬ Reads stk ('&' :: rest) t := by
  rw [reads_cons_iff]
  simp only [ne_eq, not_true_eq_false, false_and, and_false, false_or, true_and, Char.reduceEq,
    or_false]
  rintro ⟨name, rest', ch, t', rfl, -, -, -, -⟩
  exact h (List.mem_append_right _ List.mem_cons_self)

/-- A tag whose body runs to the first `>` opens or closes a tag. -/
theorem reads_lt_iff {stk : List String} {body s t : List Char} (hbody : '>' ∉ body) :
    Reads stk ('<' :: (body ++ '>' :: s)) t ↔
      (∃ name, OpenTag body name ∧
        Reads (if body.getLast? = some '/' then stk else name :: stk) s t) ∨
      (∃ body' stk', body = '/' :: body' ∧ stk = String.ofList (Text.trimWhite body') :: stk' ∧
        Reads stk' s t) := by
  rw [reads_cons_iff]
  simp only [ne_eq, not_true_eq_false, false_and, false_or, true_and, Char.reduceEq]
  constructor
  · rintro (⟨body', rest, name, heq, ho, h⟩ | ⟨body', rest, stk', heq, hb, rfl, h⟩)
    · obtain ⟨rfl, rfl⟩ := List.eq_of_append_cons_eq heq hbody ho.no_gt
      exact Or.inl ⟨name, ho, h⟩
    · have hb' : '>' ∉ '/' :: body' := by simpa using hb
      obtain ⟨rfl, rfl⟩ := List.eq_of_append_cons_eq heq hbody hb'
      exact Or.inr ⟨body', stk', rfl, rfl, h⟩
  · rintro (⟨name, ho, h⟩ | ⟨body', stk', rfl, rfl, h⟩)
    · exact Or.inl ⟨body, s, name, rfl, ho, h⟩
    · exact Or.inr ⟨body', s, stk', rfl, fun hm => hbody (List.mem_cons_of_mem _ hm), rfl, h⟩

/-- A `<` with no `>` after it reads as nothing. -/
theorem not_reads_lt {stk : List String} {rest t : List Char} (h : '>' ∉ rest) :
    ¬ Reads stk ('<' :: rest) t := by
  rw [reads_cons_iff]
  simp only [ne_eq, not_true_eq_false, false_and, false_or, true_and, Char.reduceEq]
  rintro (⟨body, rest', name, rfl, -, -⟩ | ⟨body, rest', stk', rfl, -, -, -⟩)
  · exact h (List.mem_append_right _ List.mem_cons_self)
  · exact h (List.mem_cons_of_mem _ (List.mem_append_right _ List.mem_cons_self))

/-- A tag reads as the change `applyTag` makes to the open tags. -/
theorem reads_tag_iff {stk : List String} {body s t : List Char} (hbody : '>' ∉ body) :
    Reads stk ('<' :: (body ++ '>' :: s)) t ↔
      ∃ stk', applyTag body stk = .ok stk' ∧ Reads stk' s t := by
  rw [reads_lt_iff hbody]
  simp only [applyTag_eq_ok_iff]
  constructor
  · rintro (⟨name, ho, h⟩ | ⟨body', stk', rfl, rfl, h⟩)
    · refine ⟨_, Or.inr ⟨ho.not_closing, ho.name_eq ▸ ho.styled, rfl⟩, ?_⟩
      rwa [← ho.name_eq]
    · exact ⟨stk', Or.inl ⟨body', rfl, rfl⟩, h⟩
  · rintro ⟨stk', ⟨body', rfl, rfl⟩ | ⟨hhead, hstyled, rfl⟩, h⟩
    · exact Or.inr ⟨body', stk', rfl, rfl, h⟩
    · exact Or.inl ⟨_, ⟨hbody, hhead, rfl, hstyled⟩, h⟩

/-! ### The scanner, item by item -/

/-- One step of the scanner: the run of text up to the first `<` or `&`, then the entity or tag
that starts there. -/
theorem scan_eq_step (cs : List Char) (stk : List String) (out : List Char) :
    scan cs stk out =
      match breakOff isSpecial cs with
      | (_, none) =>
        match stk with
        | top :: _ => .error (.unclosed top)
        | [] => .ok (out.reverse ++ cs)
      | (pre, some (c, rest)) =>
        if c = '&' then
          match breakOff (· = ';') rest with
          | (name, some (_, after)) =>
            match entity? name with
            | some ch => scan after stk (ch :: (pre.reverse ++ out))
            | none => .error (.badEntity (String.ofList name))
          | (_, none) => .error (.badEntity (String.ofList rest))
        else
          match breakOff (· = '>') rest with
          | (body, some (_, after)) =>
            (applyTag body stk).bind fun stk' => scan after stk' (pre.reverse ++ out)
          | (_, none) => .error .unterminatedTag := by
  -- the definition matches on the parts of `breakOff` with dependent matches (they carry the
  -- termination proofs); each is split and its pair put back together
  rw [scan.eq_def]
  split
  · rename_i hnone
    have hb : breakOff isSpecial cs = ((breakOff isSpecial cs).1, none) := Prod.ext rfl hnone
    exact hb ▸ rfl
  · rename_i c rest hsome
    conv_rhs => rw [show breakOff isSpecial cs = ((breakOff isSpecial cs).1, some (c, rest)) from
      Prod.ext rfl hsome]
    dsimp only
    split_ifs
    · split
      · rename_i semi after hb
        have hb' : breakOff (· = ';') rest = ((breakOff (· = ';') rest).1, some (semi, after)) :=
          Prod.ext rfl hb
        exact hb' ▸ rfl
      · rename_i hb
        conv_rhs => rw [show breakOff (· = ';') rest = ((breakOff (· = ';') rest).1, none) from
          Prod.ext rfl hb]
    · split
      · rename_i gt after hb
        conv_rhs => rw [show breakOff (· = '>') rest =
          ((breakOff (· = '>') rest).1, some (gt, after)) from Prod.ext rfl hb]
        dsimp only
        split <;> rename_i heq <;> rw [heq] <;> rfl
      · rename_i hb
        conv_rhs => rw [show breakOff (· = '>') rest = ((breakOff (· = '>') rest).1, none) from
          Prod.ext rfl hb]

/-- The characters before the first of a kind are not of it. -/
theorem not_found_of_not_mem {c : Char} {cs : List Char} (h : c ∉ cs) :
    ∀ x ∈ cs, decide (x = c) = false := by
  intro x hx
  exact decide_eq_false fun hxc => h (hxc ▸ hx)

/-- With no item left, the rest is text, and every tag must be closed. -/
theorem scan_of_plain {cs : List Char} (h : ∀ x ∈ cs, isSpecial x = false) (stk : List String)
    (out : List Char) :
    scan cs stk out =
      match stk with
      | top :: _ => .error (.unclosed top)
      | [] => .ok (out.reverse ++ cs) := by
  rw [scan_eq_step, breakOff_of_forall h]

theorem scan_amp {pre name s : List Char} (hpre : ∀ x ∈ pre, isSpecial x = false)
    (hname : ';' ∉ name) (stk : List String) (out : List Char) :
    scan (pre ++ '&' :: (name ++ ';' :: s)) stk out =
      match entity? name with
      | some ch => scan s stk (ch :: (pre.reverse ++ out))
      | none => .error (.badEntity (String.ofList name)) := by
  rw [scan_eq_step, breakOff_append rfl _ hpre]
  dsimp only
  rw [if_pos rfl, breakOff_append (by decide) _ (not_found_of_not_mem hname)]

theorem scan_amp_unterminated {pre rest : List Char} (hpre : ∀ x ∈ pre, isSpecial x = false)
    (hrest : ';' ∉ rest) (stk : List String) (out : List Char) :
    scan (pre ++ '&' :: rest) stk out = .error (.badEntity (String.ofList rest)) := by
  rw [scan_eq_step, breakOff_append rfl _ hpre]
  dsimp only
  rw [if_pos rfl, breakOff_of_forall (not_found_of_not_mem hrest)]

theorem scan_lt {pre body s : List Char} (hpre : ∀ x ∈ pre, isSpecial x = false)
    (hbody : '>' ∉ body) (stk : List String) (out : List Char) :
    scan (pre ++ '<' :: (body ++ '>' :: s)) stk out =
      (applyTag body stk).bind fun stk' => scan s stk' (pre.reverse ++ out) := by
  rw [scan_eq_step, breakOff_append rfl _ hpre]
  dsimp only
  rw [if_neg (by decide), breakOff_append (by decide) _ (not_found_of_not_mem hbody)]

theorem scan_lt_unterminated {pre rest : List Char} (hpre : ∀ x ∈ pre, isSpecial x = false)
    (hrest : '>' ∉ rest) (stk : List String) (out : List Char) :
    scan (pre ++ '<' :: rest) stk out = .error .unterminatedTag := by
  rw [scan_eq_step, breakOff_append rfl _ hpre]
  dsimp only
  rw [if_neg (by decide), breakOff_of_forall (not_found_of_not_mem hrest)]

/-! ### The scanner reads exactly the grammar -/

/-- An entity as the scanner finds it: the name up to the first `;`, read by `entity?`. -/
theorem reads_entity_iff {stk : List String} {name s t : List Char} (hname : ';' ∉ name) :
    Reads stk ('&' :: (name ++ ';' :: s)) t ↔
      ∃ ch t', entity? name = some ch ∧ t = ch :: t' ∧ Reads stk s t' := by
  simp only [reads_amp_iff hname, entity?_eq_some_iff]

/-- **The scanner reads exactly the grammar.** From any open tags and text so far, it succeeds
exactly on markup that `Reads` accepts, and appends that markup's text. -/
theorem scan_eq_ok_iff (cs : List Char) (stk : List String) (out r : List Char) :
    scan cs stk out = .ok r ↔ ∃ t, Reads stk cs t ∧ r = out.reverse ++ t := by
  -- strong induction on what is left: each step reads one run of text and one item
  induction hn : cs.length using Nat.strong_induction_on generalizing cs stk out r with
  | _ n ih =>
  rcases breakOff_cases isSpecial cs with ⟨hplain, -⟩ | ⟨pre, c, rest, rfl, hpre, hc, -⟩
  · -- only text is left: it reads as itself when no tag is open
    rw [scan_of_plain hplain]
    simp only [reads_plain_iff hplain]
    cases stk with
    | nil => simp [eq_comm]
    | cons top below => simp
  · simp only [reads_append_plain hpre]
    have hlen : ∀ {after : List Char}, after.length < rest.length →
        after.length < (pre ++ c :: rest).length := by
      intro after h
      simp only [List.length_append, List.length_cons]
      omega
    rcases (show c = '<' ∨ c = '&' by simpa [isSpecial] using hc) with rfl | rfl
    · -- a tag: it runs to the first `>`
      rcases breakOff_cases (· = '>') rest with ⟨hno, -⟩ | ⟨body, g, after, rfl, hbody, hg, -⟩
      · have hrest : '>' ∉ rest := fun hm => by simpa using hno _ hm
        rw [scan_lt_unterminated hpre hrest]
        simp only [reduceCtorEq, false_iff, not_exists, not_and]
        rintro t ⟨t', -, h⟩ -
        exact not_reads_lt hrest h
      · obtain rfl : g = '>' := by simpa using hg
        have hbody' : '>' ∉ body := fun hm => by simpa using hbody _ hm
        rw [scan_lt hpre hbody']
        simp only [reads_tag_iff hbody']
        cases happ : applyTag body stk with
        | error e =>
          simp only [Except.bind, reduceCtorEq, false_iff, not_exists, not_and]
          rintro t ⟨t', -, stk', hok, -⟩ -
          cases hok
        | ok stk' =>
          simp only [Except.bind, Except.ok.injEq, exists_eq_left']
          rw [ih after.length (hn ▸ hlen (by simp only [List.length_append, List.length_cons]; omega)) after stk' _ r rfl]
          constructor
          · rintro ⟨t, h, rfl⟩
            exact ⟨pre ++ t, ⟨t, rfl, h⟩, by simp⟩
          · rintro ⟨_, ⟨t, rfl, h⟩, rfl⟩
            exact ⟨t, h, by simp⟩
    · -- an entity: its name runs to the first `;`
      rcases breakOff_cases (· = ';') rest with ⟨hno, -⟩ | ⟨name, g, after, rfl, hname, hg, -⟩
      · have hrest : ';' ∉ rest := fun hm => by simpa using hno _ hm
        rw [scan_amp_unterminated hpre hrest]
        simp only [reduceCtorEq, false_iff, not_exists, not_and]
        rintro t ⟨t', -, h⟩ -
        exact not_reads_amp hrest h
      · obtain rfl : g = ';' := by simpa using hg
        have hname' : ';' ∉ name := fun hm => by simpa using hname _ hm
        rw [scan_amp hpre hname']
        simp only [reads_entity_iff hname']
        cases hent : entity? name with
        | none =>
          simp only [reduceCtorEq, false_iff, not_exists, not_and]
          rintro t ⟨t', -, ch, t'', hch, -⟩ -
          cases hch
        | some ch =>
          simp only [Option.some.injEq]
          rw [ih after.length (hn ▸ hlen (by simp only [List.length_append, List.length_cons]; omega)) after stk _ r rfl]
          constructor
          · rintro ⟨t, h, rfl⟩
            exact ⟨pre ++ ch :: t, ⟨ch :: t, rfl, ch, t, rfl, rfl, h⟩, by simp⟩
          · rintro ⟨_, ⟨_, rfl, _, t, rfl, rfl, h⟩, rfl⟩
            exact ⟨t, h, by simp⟩

/-- **A label is valid markup exactly when the grammar reads it, and its text is what the
grammar reads.** Every other label is a fault. -/
theorem text_eq_ok_iff_reads (s : String) :
    (∀ t : String, text s = .ok t ↔ Reads [] s.toList t.toList) ∧
      ((∃ e, text s = .error e) ↔ ∀ t, ¬ Reads [] s.toList t) := by
  have hscan : ∀ r, scan s.toList [] [] = .ok r ↔ Reads [] s.toList r := by
    intro r
    rw [scan_eq_ok_iff]
    simp
  unfold text
  cases h : scan s.toList [] [] with
  | error e =>
    have hno : ∀ t, ¬ Reads [] s.toList t := by
      intro t ht
      have hok := (hscan t).mpr ht
      rw [h] at hok
      cases hok
    refine ⟨fun t => ⟨fun hok => (by cases hok), fun ht => absurd ht (hno _)⟩, ?_⟩
    exact ⟨fun _ => hno, fun _ => ⟨e, rfl⟩⟩
  | ok r =>
    have hr : Reads [] s.toList r := (hscan r).mp h
    -- the scanner is a function, so the grammar gives one text
    have huniq : ∀ t, Reads [] s.toList t → t = r := by
      intro t ht
      have hok := (hscan t).mpr ht
      rw [h] at hok
      cases hok
      rfl
    refine ⟨fun t => ?_, ?_⟩
    · constructor
      · intro hok
        cases hok
        simpa using hr
      · intro ht
        have := huniq _ ht
        show Except.ok (String.ofList r) = Except.ok t
        rw [← this, String.ofList_toList]
    · constructor
      · rintro ⟨e, he⟩
        cases he
      · intro hno
        exact absurd hr (hno r)

end Markup

end DeskPanel
