import DeskPanel.Toml.Written
import DeskPanel.Toml.Moment
import DeskPanel.Binary.Decimal

/-!
# Decoding TOML pieces

The third step of reading a TOML document: a key segment becomes its name and a scalar its
value. Each decoder checks its piece from left to right and stops at the first fault.

* Strings must start and end with their quotes, and hold only the characters their kind
  allows. A basic string's escapes are one of `\b \e \f \n \r \t \" \\`, or `\x`, `\u` and `\U`
  with two, four or eight hexadecimal digits naming a Unicode scalar value. A block string
  drops the line break right after its opening quotes, a carriage return in it must start a
  line break, and in a basic block a backslash followed by blanks and a line break removes
  the blanks and line breaks that follow it.
* A key without quotes is a non-empty run of ASCII letters, digits, `-` and `_`; its fault
  covers the first run of bytes it may not hold. A block string is no key.
* A scalar without quotes holds a blank only as a date and a time. One that is no value and
  ends with quotes misses its opening quotes; any other should have been quoted.
* A scalar without quotes is read by its first character: a sign, then digits, a dot or `_`
  make a number or a date, `t`, `f`, `i` and `n` in either case name `true`, `false`, `inf`
  and `nan`, which must then be spelled exactly. After a leading `0`, `x`, `o` and `b` choose
  hexadecimal, octal and binary digits; such integers take no sign, before or after the
  prefix. Digits followed by `-` or `:` make a date or a time (`Toml.Moment`); a fraction or
  an exponent makes a float. Each part of a number needs a digit, a part of two or more
  digits starts with another digit than `0` (fractions and exponents excepted), and `_`
  stands only between two digits. An integer outside `[-2^127, 2^128)`, one with a radix and
  no digits, one with underscores whose text holds anything but digits, and a float beyond
  the finite ones decode to numbers that overflow, which only reading their value refuses.

## Main definitions

* `decodeString` — the text of a quoted piece.
* `decodeKey` — the name of a key segment.
* `decodeBare` — the value of a scalar written without quotes.
* `decodeScalar` — the value of any scalar piece.
-/

namespace DeskPanel.Toml

/-- The text of a byte range of the document. -/
def textOf (src : ByteArray) (s : Span) : String :=
  (String.fromUTF8? (src.extract s.start s.stop)).getD ""

/-- A fault whose message names what was expected; nothing is expected when the list is
empty. -/
def faultAt (s : Span) (description : String) (expected : List String) : Fault :=
  let wanted := if expected.isEmpty then "nothing" else ", ".intercalate expected
  ⟨s, description ++ ", expected " ++ wanted⟩

/-! ### Strings -/

/-- The value of a hexadecimal digit. -/
def hexValue? (c : Char) : Option Nat :=
  if '0' ≤ c ∧ c ≤ '9' then some (c.toNat - '0'.toNat)
  else if 'a' ≤ c ∧ c ≤ 'f' then some (c.toNat - 'a'.toNat + 10)
  else if 'A' ≤ c ∧ c ≤ 'F' then some (c.toNat - 'A'.toNat + 10)
  else none

/-- The byte that a one-letter escape stands for. -/
def simpleEscape? : Char → Option UInt8
  | 'b' => some 0x08
  | 't' => some 0x09
  | 'n' => some 0x0A
  | 'f' => some 0x0C
  | 'r' => some 0x0D
  | 'e' => some 0x1B
  | '"' => some 0x22
  | '\\' => some 0x5C
  | _ => none

/-- The number of hexadecimal digits after a code escape letter. -/
def codeWidth? : Char → Option Nat
  | 'x' => some 2
  | 'u' => some 4
  | 'U' => some 8
  | _ => none

/-- The escapes a basic string knows, as the fault of an unknown one lists them. -/
def escapeLetters : List String :=
  ["`b`", "`e`", "`f`", "`n`", "`r`", "`\\`", "`\"`", "`x`", "`u`", "`U`"]

/-- The character of a byte. -/
def charOfByte (b : UInt8) : Char := Char.ofNat b.toNat

/-- Blanks inside a line. -/
def isBlankByte (b : UInt8) : Bool := b == 0x20 || b == 0x09

/-- Blanks and line breaks. -/
def isBlankOrBreakByte (b : UInt8) : Bool := isBlankByte b || b == 0x0A || b == 0x0D

/-- The fault of a carriage return at byte position `pos` that no line feed follows. -/
def loneReturn (pos : Nat) : Fault :=
  ⟨Span.at (pos + 1), "carriage return must be followed by newline, expected newline"⟩

/-- The first index of a carriage return in the first `n` bytes that no line feed follows. -/
def loneReturnIn (bs : List UInt8) (n : Nat) : Option Nat :=
  (List.range n).find? fun j => bs[j]? == some 0x0D && bs[j + 1]? != some 0x0A

/-- Checks the bytes `bs` after a backslash that ends a line of a block, from byte position
`pos`, where `n` bytes of blanks and line breaks follow it: after the blanks must come a line
break, and every carriage return among them must start one. -/
def lineEndFault? (pos : Nat) (bs : List UInt8) (n : Nat) : Option Fault :=
  let blanks := (bs.takeWhile isBlankByte).length
  match bs[blanks]? with
  | some 0x0A | some 0x0D =>
    (loneReturnIn bs n).map fun j => loneReturn (pos + j)
  | _ => some ⟨Span.at (pos + blanks), "invalid multi-line basic string, expected newline"⟩

/-- The kind of a string body: the bytes it allows without escape, whether it is a block, and
the words of its faults. -/
structure BodyRule where
  allowed : UInt8 → Bool
  block : Bool
  escapes : Bool
  invalid : String
  expected : List String

/-- Whether a byte may stand in a body of a kind: one the kind allows, a line break in a block,
or a backslash where escapes are known. In a body with escapes a fault covers the run of bytes
that may not, in a literal body only the first of them. -/
def BodyRule.passes (r : BodyRule) (b : UInt8) : Bool :=
  r.allowed b || (r.block && (b == 0x0A || b == 0x0D)) || (r.escapes && b == 0x5C)

/-- The first index at which a hexadecimal escape's digits fall short, if they do: a byte
that is no digit, or the end of the text. -/
def shortDigits (ds : List UInt8) (w : Nat) : Option Nat :=
  match (ds.take w).findIdx? fun b => (hexValue? (charOfByte b)).isNone with
  | some k => some k
  | none => if ds.length < w then some ds.length else none

/-- Dropping a prefix never lengthens a list. -/
theorem length_dropWhile_bytes (p : UInt8 → Bool) (bs : List UInt8) :
    (bs.dropWhile p).length ≤ bs.length := by
  induction bs with
  | nil => simp
  | cons c r ih =>
    rw [List.dropWhile_cons]
    split
    · exact Nat.le_succ_of_le ih
    · exact Nat.le_refl _

/-- Decodes a string body from byte position `pos`: its bytes with escapes replaced, or the
first fault. -/
def decodeBody (r : BodyRule) (pos : Nat) : List UInt8 → Except Fault (List UInt8)
  | [] => .ok []
  | b :: rest =>
    if r.escapes && b == 0x5C then
      match hr : rest with
      | [] => .error (faultAt (.at (pos + 1)) "missing escaped value" escapeLetters)
      | e :: more =>
        let c := charOfByte e
        match simpleEscape? c, codeWidth? c with
        | some v, _ => (v :: ·) <$> decodeBody r (pos + 2) more
        | none, some w =>
          match shortDigits more w with
          | some k =>
            .error (faultAt (.at (pos + 2 + k)) "too few unicode value digits"
              ["unicode hexadecimal value"])
          | none =>
            let v := (more.take w).foldl
              (fun acc d => acc * 16 + (hexValue? (charOfByte d)).getD 0) 0
            if v < 0x110000 ∧ (v < 0xD800 ∨ 0xDFFF < v) then
              ((String.singleton (Char.ofNat v)).toUTF8.toList ++ ·) <$>
                decodeBody r (pos + 2 + w) (more.drop w)
            else
              .error (faultAt (.at (pos + 2)) "invalid value" ["unicode hexadecimal value"])
        | none, none =>
          if r.block && isBlankOrBreakByte e then
            let kept := (e :: more).dropWhile isBlankOrBreakByte
            let n := more.length + 1 - kept.length
            match lineEndFault? (pos + 1) (e :: more) n with
            | some f => .error f
            | none => decodeBody r (pos + 1 + n) kept
          else .error (faultAt (.at (pos + 1)) "missing escaped value" escapeLetters)
    else if r.block && b == 0x0D && rest.head? != some 0x0A then .error (loneReturn pos)
    else if r.passes b then (b :: ·) <$> decodeBody r (pos + 1) rest
    else
      let run := if r.escapes then ((b :: rest).takeWhile fun c => !r.passes c).length else 1
      .error (faultAt ⟨pos, pos + run⟩ r.invalid r.expected)
termination_by bs => bs.length
decreasing_by
  all_goals simp_wf
  all_goals
    first
    | omega
    | (have hlen := length_dropWhile_bytes isBlankOrBreakByte (e :: more)
       simp only [List.length_cons] at hlen
       omega)

/-- Bytes a basic string holds as they are: blanks and visible characters but `"` and `\`. -/
def basicByte (b : UInt8) : Bool :=
  b == 0x09 || b == 0x20 || b == 0x21 || (0x23 ≤ b && b ≤ 0x5B) || (0x5D ≤ b && b ≤ 0x7E) ||
    0x80 ≤ b

/-- Bytes a literal string holds: a tab and visible characters but `'`. -/
def literalByte (b : UInt8) : Bool :=
  b == 0x09 || (0x20 ≤ b && b ≤ 0x26) || (0x28 ≤ b && b ≤ 0x7E) || 0x80 ≤ b

/-- The rule of a string body of a spelling, with its delimiter. -/
def bodyRule : Spelling → BodyRule × List UInt8
  | .literal =>
    (⟨literalByte, false, false, "invalid literal string",
      ["non-single-quote visible characters"]⟩, [0x27])
  | .basicBlock =>
    (⟨fun b => basicByte b || b == 0x22, true, true, "invalid multi-line basic string",
      ["`\\`", "characters"]⟩, [0x22, 0x22, 0x22])
  | .literalBlock =>
    (⟨fun b => literalByte b || b == 0x27, true, false, "invalid multi-line literal string",
      ["non-single-quote characters"]⟩, [0x27, 0x27, 0x27])
  | _ =>
    (⟨basicByte, false, true, "invalid basic string",
      ["non-double-quote visible characters", "`\\`"]⟩, [0x22])

/-- The text of a quoted piece: its delimiters checked and stripped, a block's first line
break dropped, and its body decoded. -/
def decodeString (src : ByteArray) (p : Piece) : Except Fault String := do
  let raw := (src.extract p.span.start p.span.stop).toList
  let (rule, delim) := bodyRule p.spelling
  let shown := "`" ++ String.ofList (delim.map charOfByte) ++ "`"
  unless raw.take delim.length == delim do
    throw (faultAt (.at p.span.start) rule.invalid [shown])
  let inner := raw.drop delim.length
  unless inner.length ≥ delim.length ∧ inner.drop (inner.length - delim.length) == delim do
    throw (faultAt (.at p.span.stop) rule.invalid
      ["`" ++ String.ofList ((delim.take 1).map charOfByte) ++ "`"])
  let body := inner.take (inner.length - delim.length)
  let (body, skip) := if rule.block then
      match body with
      | 0x0A :: r => (r, 1)
      | 0x0D :: 0x0A :: r => (r, 2)
      | _ => (body, 0)
    else (body, 0)
  let out ← decodeBody rule (p.span.start + delim.length + skip) body
  return (String.fromUTF8? ⟨out.toArray⟩).getD ""

/-! ### Keys -/

/-- Bytes of a key written without quotes. -/
def isBareKeyByte (b : UInt8) : Bool := (charOfByte b).isAlphanum || b == 0x2D || b == 0x5F

/-- What a key without quotes may hold, as its faults list it. -/
def bareKeyChars : List String := ["letters", "numbers", "`-`", "`_`"]

/-- The quoted spellings a key may take, as the fault of a block string key lists them. -/
def quotedKinds : List String := ["basic string", "literal string"]

/-- The name of a key segment: a key without quotes is named by its text, and its first run of
bytes it may not hold is its fault. -/
def decodeKey (src : ByteArray) (p : Piece) : Except Fault String :=
  match p.spelling with
  | .bare =>
    let raw := (src.extract p.span.start p.span.stop).toList
    if raw.isEmpty then .error (faultAt p.span "unquoted keys cannot be empty" bareKeyChars)
    else
      match raw.findIdx? (!isBareKeyByte ·) with
      | some k =>
        let run := ((raw.drop k).takeWhile (!isBareKeyByte ·)).length
        .error (faultAt ⟨p.span.start + k, p.span.start + k + run⟩ "invalid unquoted key"
          bareKeyChars)
      | none => .ok (textOf src p.span)
  | .basic | .literal => decodeString src p
  | .basicBlock =>
    .error (faultAt p.span "keys cannot be multi-line basic strings" quotedKinds)
  | .literalBlock =>
    .error (faultAt p.span "keys cannot be multi-line literal strings" quotedKinds)

/-! ### Numbers -/

/-- A scalar written without quotes: the byte position of its first byte and its bytes, one
character each. -/
structure Bare where
  base : Nat
  text : List Char

namespace Bare

/-- The span of the whole scalar. -/
def span (r : Bare) : Span := ⟨r.base, r.base + r.text.length⟩

/-- The span from offset `k` to the end. -/
def spanFrom (r : Bare) (k : Nat) : Span := ⟨r.base + k, r.base + r.text.length⟩

/-- The one-byte span at offset `k`. -/
def byteAt (r : Bare) (k : Nat) : Span := ⟨r.base + k, r.base + k + 1⟩

/-- The quotes that may close a string, longest first. -/
def closingQuotes : List String := ["'''", "\"\"\"", "'", "\""]

/-- The fault of a scalar that is none of the known kinds: one that ends with quotes misses
its opening ones, and any other should have been quoted. -/
def unquoted (r : Bare) : Fault :=
  match closingQuotes.find? fun q => r.text.drop (r.text.length - q.length) == q.toList with
  | some q => faultAt (.at r.base) "missing opening quote" ["`" ++ q ++ "`"]
  | none => faultAt r.span "string values must be quoted" ["literal string"]

end Bare

/-- The radixes of integers. -/
inductive Radix where
  | hex
  | octal
  | binary
  | decimal
  deriving DecidableEq, Repr

namespace Radix

/-- The base of a radix. -/
def base : Radix → Nat
  | .hex => 16
  | .octal => 8
  | .binary => 2
  | .decimal => 10

/-- Whether a character is a digit of a radix. -/
def isDigit (r : Radix) (c : Char) : Bool :=
  match hexValue? c with
  | some v => v < r.base
  | none => false

/-- The fault word of a bad digit. -/
def invalid : Radix → String
  | .hex => "invalid hexadecimal number"
  | .octal => "invalid octal number"
  | .binary => "invalid binary number"
  | .decimal => "invalid integer"

end Radix

/-- The value of digits of a radix, underscores skipped; none for no digits or a character
that is no digit of the radix. -/
def digitValue? (radix : Radix) (cs : List Char) : Option Nat :=
  let ds := cs.filter (· != '_')
  if ds.isEmpty then none
  else ds.foldlM (fun acc c =>
    if radix.isDigit c then (hexValue? c).map (acc * radix.base + ·) else none) 0

/-- Checks the underscores of a number's text from offset `k`: none may start or end it, and
each must stand between two characters that `isDigit` accepts. -/
def checkUnderscores (r : Bare) (isDigit : Char → Bool) (k : Nat) : Except Fault Unit := do
  let cs := r.text.drop k
  let bad (i : Nat) : Fault := faultAt (r.byteAt (k + i)) "`_` may only go between digits" []
  if cs.head? == some '_' then throw (bad 0)
  if cs.length > 1 && cs.getLast? == some '_' then throw (bad (cs.length - 1))
  let digit (c : Option Char) : Bool := match c with
    | some c => isDigit c
    | none => false
  match (List.range cs.length).find? fun i =>
      cs[i]? == some '_' && (i == 0 || !digit (cs[i - 1]?) || !digit (cs[i + 1]?)) with
  | some i => throw (bad i)
  | none => pure ()

/-- Checks a run of decimal digits and underscores at offset `k`, the part named `what`: it
needs a digit, and, unless `zeroOk`, two or more digits may not start with `0`. Returns the
offset after the run. -/
def checkDigits (r : Bare) (k : Nat) (zeroOk : Bool) (what : String) : Except Fault Nat := do
  let run := (r.text.drop k).takeWhile fun c => c.isDigit || c == '_'
  let count := (run.filter Char.isDigit).length
  if count == 0 then throw (faultAt (.at (r.base + k)) what ["digits"])
  if count ≥ 2 && run.head? == some '0' && !zeroOk then
    throw (faultAt (r.byteAt k) "unexpected leading zero" [])
  return k + run.length

/-- Checks the shape of a float from offset `k`: a whole part, then a fraction, an exponent
or both, and nothing after. -/
def checkFloat (r : Bare) (k : Nat) : Except Fault Unit := do
  let k ← checkDigits r k false "invalid mantissa"
  let k ← if r.text[k]? == some '.' then checkDigits r (k + 1) true "invalid fraction" else pure k
  let k ← if r.text[k]? == some 'e' || r.text[k]? == some 'E' then
      let k := if r.text[k + 1]? == some '+' || r.text[k + 1]? == some '-' then k + 2 else k + 1
      checkDigits r k true "invalid exponent"
    else pure k
  if k < r.text.length then throw (faultAt (r.spanFrom k) "invalid float" [])

/-- Whether an integer lies in the range integers are read into. -/
def integerFits (v : Int) : Bool := -(2 ^ (127 : Nat) : Int) ≤ v && v < (2 ^ (128 : Nat) : Int)

/-- The value of a decimal integer whose shape was checked, from its sign and digits; an
integer that overflows when they give no value in range. -/
def decimalValue (r : Bare) : Except Fault Scalar :=
  let (neg, ds) := match r.text with
    | '-' :: ds => (true, ds)
    | '+' :: ds => (false, ds)
    | ds => (false, ds)
  match digitValue? .decimal ds with
  | some v =>
    let v : Int := if neg then -(v : Int) else v
    if integerFits v then .ok (.integer v) else .ok .integerOverflow
  | none => .ok .integerOverflow

/-- The value of a float whose shape was checked; a float that overflows when it is beyond
the finite ones. -/
def floatValue (r : Bare) : Except Fault Scalar :=
  let (neg, ds) := match r.text with
    | '-' :: ds => (true, ds)
    | '+' :: ds => (false, ds)
    | ds => (false, ds)
  let ds := ds.filter (· != '_')
  let whole := ds.takeWhile Char.isDigit
  let rest := ds.drop whole.length
  let frac := match rest with
    | '.' :: r => r.takeWhile Char.isDigit
    | _ => []
  let rest := match rest with
    | '.' :: r => r.drop frac.length
    | r => r
  let expo : Int := match rest with
    | _ :: '-' :: es => -((digitValue? .decimal es).getD 0 : Int)
    | _ :: '+' :: es => (digitValue? .decimal es).getD 0
    | _ :: es => (digitValue? .decimal es).getD 0
    | [] => 0
  let digits := (digitValue? .decimal (whole ++ frac)).getD 0
  let x : Binary64 := Binary.Datum.ofDecimal neg digits (expo - frac.length)
  if x.isFinite then .ok (.float x) else .ok .floatOverflow

/-- A float from offset `k` on: its shape, its underscores, then its value. -/
def floatFrom (r : Bare) (k : Nat) : Except Fault Scalar := do
  checkFloat r k
  checkUnderscores r Char.isDigit 0
  floatValue r

/-- A decimal integer with underscores from offset `k` on: no `0` may lead it, its underscores
stand between digits of any radix, and anything but decimal digits around them leaves it without
a value. -/
def integerFrom (r : Bare) (k : Nat) : Except Fault Scalar := do
  let value := r.text.drop k
  if value.head? == some '0' && value.length > 1 then
    throw (faultAt (r.byteAt k) "unexpected leading zero" [])
  checkUnderscores r Radix.hex.isDigit 0
  decimalValue r

/-- A number or a date from offset `k` on, where a digit or `_` stands: all digits make an
integer, digits then `-` or `:` a date or time, a fraction or an exponent a float, and an
underscore an integer with underscores. -/
def numberFrom (r : Bare) (k : Nat) : Except Fault Scalar :=
  let value := r.text.drop k
  let digits := value.takeWhile Char.isDigit
  match value.drop digits.length with
  | [] => do
    if digits.length > 1 && digits.head? == some '0' then
      throw (faultAt (r.byteAt k) "unexpected leading zero" [])
    decimalValue r
  | c :: rest =>
    if c == '-' || c == ':' then
      let text := String.ofList r.text
      match Moment.fault? text with
      | some m => .error ⟨r.span, m⟩
      | none => .ok (.datetime text)
    else if (c :: rest).contains ' ' then .error r.unquoted
    else if (c :: rest).any (fun c => c == '.' || c == 'e' || c == 'E') then floatFrom r k
    else if c == '_' then integerFrom r k
    else .error r.unquoted

/-- An integer with a radix prefix, its digits from offset `k` on, which no sign may start. -/
def radixFrom (r : Bare) (k : Nat) (radix : Radix) : Except Fault Scalar := do
  let cs := r.text.drop k
  if cs.head? == some '+' || cs.head? == some '-' then
    throw (faultAt (r.byteAt k) "unexpected sign" [])
  match cs.findIdx? fun c => !radix.isDigit c && c != '_' with
  | some i => throw ⟨Span.at (r.base + k + i), radix.invalid⟩
  | none => pure ()
  checkUnderscores r Radix.hex.isDigit k
  match digitValue? radix cs with
  | some v => if v < 2 ^ (128 : Nat) then return .integer v else return .integerOverflow
  | none => return .integerOverflow

/-- A number after a leading `0` at offset `k`, signed or not. A radix prefix may not follow a
sign, and `0d` is refused as a prefix that says nothing. -/
def zeroFrom (r : Bare) (k : Nat) (signed : Bool) : Except Fault Scalar :=
  match r.text.drop k with
  | '0' :: x :: _ =>
    let radix? := match x with
      | 'x' | 'X' => some (Radix.hex, "`0x`")
      | 'o' | 'O' => some (.octal, "`0o`")
      | 'b' | 'B' => some (.binary, "`0b`")
      | _ => none
    let lead : Span := ⟨r.base + k, r.base + k + 2⟩
    match radix? with
    | some (radix, prefixText) => do
      if signed then throw (faultAt (r.byteAt 0) "integers with a radix cannot be signed" [])
      if x.isUpper then throw (faultAt lead "radix must be lowercase" [prefixText])
      radixFrom r (k + 2) radix
    | none =>
      if x == 'd' || x == 'D' then
        if signed then .error (faultAt (r.byteAt 0) "integers with a radix cannot be signed" [])
        else .error (faultAt lead "redundant integer number prefix" [])
      else numberFrom r k
  | _ => numberFrom r k

/-- A word that must be spelled exactly. -/
def symbolOf (r : Bare) (word description : String) (v : Scalar) : Except Fault Scalar :=
  if r.text == word.toList then .ok v
  else .error (faultAt r.span description ["`" ++ word ++ "`"])

/-- A signed special float, spelled from offset `k`. -/
def signedSymbol (r : Bare) (k : Nat) (word : String) (v : Binary64) : Except Fault Scalar :=
  if r.text.drop k == word.toList then .ok (.float v)
  else .error (faultAt (r.spanFrom k) "invalid float" ["`" ++ word ++ "`"])

/-- A scalar after a sign, from offset `k`. After a sign a dot starts a float whose mantissa is
read from the sign on, so that it has no digits. -/
def signedFrom (r : Bare) (neg : Bool) (k : Nat) : Except Fault Scalar :=
  match r.text.drop k with
  | [] => .error r.unquoted
  | c :: _ =>
    if c == '+' || c == '-' then .error (faultAt (r.byteAt k) "redundant numeric sign" [])
    else if c == '0' then zeroFrom r k true
    else if c.isDigit || c == '_' then numberFrom r k
    else if c == '.' then .error (faultAt (Span.at r.base) "invalid mantissa" ["digits"])
    else if c == 'i' || c == 'I' then signedSymbol r k "inf" (Binary.Datum.infinity neg)
    else if c == 'n' || c == 'N' then
      signedSymbol r k "nan" (if neg then Binary.Datum.nan.neg else Binary.Datum.nan)
    else .error r.unquoted

/-- Whether a scalar's text may hold a blank: only a date followed by a time, which starts
with digits and then `-` or `:`. -/
def blankAllowed (text : List Char) : Bool :=
  let digits := text.takeWhile Char.isDigit
  !digits.isEmpty && (text[digits.length]? == some '-' || text[digits.length]? == some ':')

/-- The value of a scalar written without quotes. -/
def decodeBare (src : ByteArray) (s : Span) : Except Fault Scalar :=
  let r : Bare := ⟨s.start, (src.extract s.start s.stop).toList.map charOfByte⟩
  match r.text with
  | [] => .error r.unquoted
  | c :: _ =>
    if r.text.contains ' ' && !blankAllowed r.text then .error r.unquoted
    else if c == '+' || c == '-' then signedFrom r (c == '-') 1
    else if c == '0' then zeroFrom r 0 false
    else if c.isDigit || c == '_' then numberFrom r 0
    else if c == '.' then floatFrom r 0
    else if c == 't' || c == 'T' then symbolOf r "true" "invalid boolean" (.boolean true)
    else if c == 'f' || c == 'F' then symbolOf r "false" "invalid boolean" (.boolean false)
    else if c == 'i' || c == 'I' then
      symbolOf r "inf" "invalid float" (.float (Binary.Datum.infinity false))
    else if c == 'n' || c == 'N' then symbolOf r "nan" "invalid float" (.float Binary.Datum.nan)
    else .error r.unquoted

/-- The value of a scalar piece. -/
def decodeScalar (src : ByteArray) (p : Piece) : Except Fault Scalar :=
  match p.spelling with
  | .bare => decodeBare src p.span
  | _ => Scalar.string <$> decodeString src p

end DeskPanel.Toml
