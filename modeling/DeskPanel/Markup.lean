import DeskPanel.Text.Classes
import DeskPanel.Word

/-!
# Label markup

Window labels may carry a small markup language: the style tags `b`, `big`, `i`, `s`, `small`,
`span`, `sub`, `sup`, `tt`, `u` (with attributes, possibly self-closing) and entities. Only the
text is drawn: tags are checked for nesting and dropped, entities are decoded.

Reading goes left to right. At `&` the entity runs to the next `;`; its name is one of `amp`,
`lt`, `gt`, `quot`, `apos`, or `#` and a decimal number, or `#x`/`#X` and a hexadecimal number,
of a Unicode scalar value (a `+` sign is allowed). At `<` the tag runs to the next `>`. A closing
tag `</name>` must close the innermost open tag (its name is trimmed of white space). An opening
tag is named by its first word, after trailing `/` are dropped; a tag ending in `/` closes
itself. At the end no tag may be open.

## Main definitions

* `MarkupError` and its messages.
* `Markup.text` — the plain text of a label, or the first fault.
* `Markup.displayText` — what is drawn: the plain text, or the label itself when it is not valid
  markup or markup is off.
-/

namespace DeskPanel

/-- The first fault of a label read as markup. -/
inductive MarkupError where
  | unknownTag (name : String)
  | unexpectedClose (name : String)
  | unclosed (name : String)
  | unterminatedTag
  | badEntity (name : String)
  deriving DecidableEq, Repr

/-- The name of the kind of a markup fault. -/
def MarkupError.kind : MarkupError → String
  | .unknownTag _ => "UnknownTag"
  | .unexpectedClose _ => "UnexpectedClose"
  | .unclosed _ => "Unclosed"
  | .unterminatedTag => "UnterminatedTag"
  | .badEntity _ => "BadEntity"

/-- The message of a markup fault. -/
def MarkupError.message : MarkupError → String
  | .unknownTag n => "unknown tag <" ++ n ++ ">"
  | .unexpectedClose n => "unexpected closing tag </" ++ n ++ ">"
  | .unclosed n => "unclosed tag <" ++ n ++ ">"
  | .unterminatedTag => "unterminated tag"
  | .badEntity n => "invalid entity &" ++ n ++ ";"

namespace Markup

/-- The style tags. -/
def styleTags : List String := ["b", "big", "i", "s", "small", "span", "sub", "sup", "tt", "u"]

/-- The value of a digit in a radix up to 16. -/
def digitValue? (radix : Nat) (c : Char) : Option Nat :=
  let v :=
    if c.isDigit then some (c.toNat - '0'.toNat)
    else if 'a' ≤ c && c ≤ 'z' then some (c.toNat - 'a'.toNat + 10)
    else if 'A' ≤ c && c ≤ 'Z' then some (c.toNat - 'A'.toNat + 10)
    else none
  v.bind fun d => if d < radix then some d else none

/-- Reads an unsigned 32-bit number: an optional `+`, then at least one digit of the radix. -/
def readWord? (radix : Nat) (cs : List Char) : Option Nat :=
  let body := match cs with
    | '+' :: r => r
    | r => r
  if body.isEmpty then none
  else
    let v? := body.foldlM (fun acc c => (digitValue? radix c).map fun d => acc * radix + d) 0
    v?.bind fun v => if v < 2 ^ (32 : Nat) then some v else none

/-- The character of a Unicode scalar value. -/
def scalar? (n : Nat) : Option Char :=
  if n < 0xD800 || (0xE000 ≤ n && n ≤ 0x10FFFF) then some (Char.ofNat n) else none

/-- The character an entity name stands for. -/
def entity? (name : List Char) : Option Char :=
  match name with
  | ['a', 'm', 'p'] => some '&'
  | ['l', 't'] => some '<'
  | ['g', 't'] => some '>'
  | ['q', 'u', 'o', 't'] => some '"'
  | ['a', 'p', 'o', 's'] => some '\''
  | '#' :: 'x' :: hex => (readWord? 16 hex).bind scalar?
  | '#' :: 'X' :: hex => (readWord? 16 hex).bind scalar?
  | '#' :: dec => (readWord? 10 dec).bind scalar?
  | _ => none

/-- The characters with every trailing `/` removed. -/
def dropTrailingSlashes (cs : List Char) : List Char :=
  (cs.reverse.dropWhile (· = '/')).reverse

/-- The first white-space separated word, or nothing. -/
def firstWord (cs : List Char) : List Char :=
  (cs.dropWhile Text.isWhite).takeWhile (fun c => !Text.isWhite c)

/-- Whether a character starts a tag or an entity. -/
def isSpecial (c : Char) : Bool := c = '<' || c = '&'

/-- What one tag does to the stack of open tags, or its fault. -/
def applyTag (tag : List Char) (open_ : List String) : Except MarkupError (List String) :=
  match tag with
  | '/' :: rest =>
    let name := String.ofList (Text.trimWhite rest)
    match open_ with
    | top :: below => if top = name then .ok below else .error (.unexpectedClose name)
    | [] => .error (.unexpectedClose name)
  | _ =>
    let selfClosing := tag.getLast? == some '/'
    let name := String.ofList (firstWord (dropTrailingSlashes tag))
    if !styleTags.contains name then .error (.unknownTag name)
    else if selfClosing then .ok open_ else .ok (name :: open_)

/-- The characters before the first one satisfying `p`, and that one with the rest after it. -/
def breakOff (p : Char → Bool) : List Char → List Char × Option (Char × List Char)
  | [] => ([], none)
  | c :: cs =>
    if p c then ([], some (c, cs))
    else
      let r := breakOff p cs
      (c :: r.1, r.2)

theorem breakOff_rest_length (p : Char → Bool) :
    ∀ (cs : List Char) {c : Char} {rest : List Char},
      (breakOff p cs).2 = some (c, rest) → rest.length < cs.length
  | [], _, _, h => by simp [breakOff] at h
  | d :: ds, c, rest, h => by
    unfold breakOff at h
    split at h
    · simp at h
      simp [h.2]
    · have := breakOff_rest_length p ds h
      simp
      omega

/-- Reads markup from `cs` with the given open tags and the text produced so far (reversed). -/
def scan (cs : List Char) (open_ : List String) (out : List Char) :
    Except MarkupError (List Char) :=
  match h : (breakOff isSpecial cs).2 with
  | none =>
    match open_ with
    | top :: _ => .error (.unclosed top)
    | [] => .ok (out.reverse ++ cs)
  | some (c, rest) =>
    let out := (breakOff isSpecial cs).1.reverse ++ out
    have hlen : rest.length < cs.length := breakOff_rest_length _ cs h
    if c = '&' then
      match hb : (breakOff (· = ';') rest).2 with
      | some (_, after) =>
        let name := (breakOff (· = ';') rest).1
        match entity? name with
        | some ch =>
          have : after.length < cs.length := by
            have := breakOff_rest_length _ rest hb
            omega
          scan after open_ (ch :: out)
        | none => .error (.badEntity (String.ofList name))
      | none => .error (.badEntity (String.ofList rest))
    else
      match hb : (breakOff (· = '>') rest).2 with
      | some (_, after) =>
        match applyTag (breakOff (· = '>') rest).1 open_ with
        | .ok open' =>
          have : after.length < cs.length := by
            have := breakOff_rest_length _ rest hb
            omega
          scan after open' out
        | .error e => .error e
      | none => .error .unterminatedTag
termination_by cs.length

/-- The plain text of a label read as markup, or its first fault. -/
def text (s : String) : Except MarkupError String :=
  (scan s.toList [] []).map String.ofList

/-- The text drawn for a label: with markup on, its plain text, or the label itself when it is
not valid markup; with markup off, the label itself. -/
def displayText (label : String) (markup : Bool) : String :=
  if markup then
    match text label with
    | .ok t => t
    | .error _ => label
  else label

end Markup

end DeskPanel
