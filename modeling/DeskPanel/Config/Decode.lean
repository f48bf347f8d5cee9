import DeskPanel.Config.Settings
import DeskPanel.Toml.Assemble
import DeskPanel.Toml.Report
import DeskPanel.Text.Quote

/-!
# Settings from a TOML document

Each key of the document's root table that names a setting is decoded, in the order of the
keys' names; other keys are read through and then ignored, and a setting without a key keeps
its default. A number that overflows fails as soon as its value is read, even when ignored. A
value of the wrong kind is refused with a message that names what was found and what a setting
wants, at the value's span:

* `invalid type: integer `5`, expected a string`;
* `invalid value: integer `-5`, expected u64` for a number out of range;
* `unknown variant `left`, expected `top` or `bottom`` for a name that is no edge.

The colours may also be given as an array, read in the order background, text, button
background, active button.

## Main definitions

* `Node.found` — what a value is, in the words of these messages.
* `Settings.ofNode` — settings from a root table.
* `Settings.read` — settings from a document's text, or its fault.
-/

namespace DeskPanel.Toml

/-- A float as these messages write it: shortest digits, positional, and with a point. -/
def floatText (x : Binary64) : String :=
  let t := x.plainText
  if x.isFinite && !t.contains '.' then t ++ ".0" else t

/-- An integer as these messages write it; integers beyond 64 bits say how wide they were
read. -/
def integerText (v : Int) : String :=
  let plain := "integer `" ++ toString v ++ "`"
  if -(2 ^ (63 : Nat) : Int) ≤ v ∧ v < 2 ^ (64 : Nat) then plain
  else if -(2 ^ (127 : Nat) : Int) ≤ v ∧ v < 2 ^ (127 : Nat) then plain ++ " as i128"
  else plain ++ " as u128"

/-- What a value is, in the words of type faults. -/
def Node.found : Node → String
  | .scalar (.string s) _ => "string " ++ Text.quote s
  | .scalar (.integer v) _ => integerText v
  | .scalar (.float x) _ => "floating point `" ++ floatText x ++ "`"
  | .scalar (.boolean b) _ => "boolean `" ++ (if b then "true" else "false") ++ "`"
  | .scalar (.datetime _) _ => "map"
  | .scalar .integerOverflow _ => "integer"
  | .scalar .floatOverflow _ => "floating point"
  | .array .. | .tables .. => "sequence"
  | .table .. => "map"

/-- The kind of a value, as a type. -/
def Node.typeName : Node → String
  | .scalar (.string _) _ => "string"
  | .scalar (.integer _) _ => "integer"
  | .scalar (.float _) _ => "float"
  | .scalar (.boolean _) _ => "boolean"
  | .scalar (.datetime _) _ => "datetime"
  | .scalar .integerOverflow _ => "integer"
  | .scalar .floatOverflow _ => "float"
  | .array .. | .tables .. => "array"
  | .table .. => "table"

/-- The fault of reading the value of a number that overflows. -/
def Node.overflowFault? : Node → Option Fault
  | .scalar .integerOverflow s => some ⟨s, "integer number overflowed"⟩
  | .scalar .floatOverflow s => some ⟨s, "floating-point number overflowed"⟩
  | _ => none

/-- A table's entries in the order of their keys, as a sorted map holds them. -/
def sortedEntries (es : List (String × Span × Node)) : List (String × Span × Node) :=
  es.mergeSort fun a b => !decide (b.1 < a.1)

/-- Of two faults found under two keys, the one under the key that comes first. -/
def firstByKey : Option (String × Fault) → Option (String × Fault) → Option (String × Fault)
  | some (k, f), some (k', f') => if k' < k then some (k', f') else some (k, f)
  | some a, none => some a
  | none, b => b

mutual

/-- The first fault met when a value is read through and dropped: a number that overflows,
found in order, the entries of a table in the order of their keys. -/
def Node.skipFault? : Node → Option Fault
  | .scalar .. => none
  | .array items _ => itemsFault? items
  | .tables items _ => itemsFault? items
  | .table es _ _ => (entriesFault? es).map (·.2)

/-- The first fault met when the items of an array are read through. -/
def itemsFault? : List Node → Option Fault
  | [] => none
  | n :: ns =>
    match n.overflowFault? with
    | some f => some f
    | none =>
      match n.skipFault? with
      | some f => some f
      | none => itemsFault? ns

/-- The fault met first when the entries of a table are read through in the order of their
keys, with its key. -/
def entriesFault? : List (String × Span × Node) → Option (String × Fault)
  | [] => none
  | (k, _, n) :: es =>
    let here := match n.overflowFault? with
      | some f => some f
      | none => n.skipFault?
    firstByKey ((here.map fun f => (k, f))) (entriesFault? es)

end

end DeskPanel.Toml

namespace DeskPanel.Config

open Toml

/-- The fault of a value of the wrong kind. -/
def wrongType (n : Node) (expected : String) : Fault :=
  ⟨n.span, "invalid type: " ++ n.found ++ ", expected " ++ expected⟩

/-- The fault of an integer out of a setting's range. -/
def outOfRange (n : Node) (expected : String) : Fault :=
  ⟨n.span, "invalid value: " ++ n.found ++ ", expected " ++ expected⟩

/-- The fault of an integer too wide to be read at all. -/
def tooWide (v : Int) : Bool := v < -(2 ^ (127 : Nat) : Int) ∨ (2 ^ (128 : Nat) : Int) ≤ v

/-- A text setting. -/
def asText : Node → Except Fault String
  | .scalar (.string s) _ => .ok s
  | n => .error (wrongType n "a string")

/-- A yes-or-no setting. -/
def asFlag : Node → Except Fault Bool
  | .scalar (.boolean b) _ => .ok b
  | n => .error (wrongType n "a boolean")

/-- A whole-number setting below `2 ^ bits`, named `name` in messages. An integer that does
not fit 64 bits is of another type altogether. -/
def asWord (bits : Nat) (name : String) : Node → Except Fault Nat
  | n@(.scalar (.integer v) s) =>
    if tooWide v then .error ⟨s, "integer number overflowed"⟩
    else if 0 ≤ v ∧ v < 2 ^ bits then .ok v.toNat
    else if -(2 ^ (63 : Nat) : Int) ≤ v ∧ v < 2 ^ (64 : Nat) then .error (outOfRange n name)
    else .error (wrongType n name)
  | n => .error (wrongType n name)

/-- The list of names a choice expects, as messages write it. -/
def expectedNames (names : List String) : String :=
  let quoted := names.map fun n => "`" ++ n ++ "`"
  match quoted with
  | [] => "no variants"
  | [a] => a
  | [a, b] => a ++ " or " ++ b
  | _ => "one of " ++ ", ".intercalate quoted

/-- A choice among named values, written as its name. A table of one entry names the choice by
its key, with an empty table or array as the entry's value. -/
def asChoice {α : Type} (options : List (String × α)) : Node → Except Fault α
  | .scalar (.string s) sp =>
    match options.lookup s with
    | some a => .ok a
    | none =>
      .error ⟨sp,
        "unknown variant `" ++ s ++ "`, expected " ++ expectedNames (options.map (·.1))⟩
  | .table es _ sp =>
    match es with
    | [] => .error ⟨sp, "wanted exactly 1 element, found 0 elements"⟩
    | [(k, ks, v)] =>
      match options.lookup k with
      | none =>
        .error ⟨ks, "unknown variant `" ++ k ++ "`, expected " ++
          expectedNames (options.map (·.1))⟩
      | some a =>
        match v with
        | .table [] _ _ | .array [] _ | .tables [] _ => .ok a
        | .table .. => .error ⟨v.span, "expected empty table"⟩
        | .array .. | .tables .. => .error ⟨v.span, "expected empty array"⟩
        | _ => .error ⟨v.span, "expected table, found " ++ v.typeName⟩
    | _ => .error ⟨sp, "wanted exactly 1 element, more than 1 element"⟩
  | n => .error ⟨n.span, "wanted string or table"⟩

/-- A colour setting, written as text. -/
def asColor : Node → Except Fault Color
  | .scalar (.string s) sp =>
    match Color.parse s with
    | .ok c => .ok c
    | .error e => .error ⟨sp, e.message⟩
  | n => .error (wrongType n "a string")

end DeskPanel.Config

namespace DeskPanel

open Toml Config

/-- The fields of a palette, in their order. -/
def paletteFields : List String := ["background", "text", "button_background", "button_active"]

/-- A palette with the colour of one field replaced. -/
def Palette.set (p : Palette) (field : String) (c : Color) : Palette :=
  match field with
  | "background" => { p with background := c }
  | "text" => { p with text := c }
  | "button_background" => { p with buttonBackground := c }
  | "button_active" => { p with buttonActive := c }
  | _ => p

/-- Reads a value with `read`, unless it is a number that overflows, whose value cannot be read
whatever is wanted. -/
def readWith {α : Type} (read : Node → Except Fault α) (n : Node) : Except Fault α :=
  match n.overflowFault? with
  | some f => .error f
  | none => read n

/-- Drops a value that names no setting, after reading it through. -/
def skip (n : Node) : Except Fault Unit :=
  match n.overflowFault? <|> n.skipFault? with
  | some f => .error f
  | none => .ok ()

/-- A palette setting: a table of colours, read in the order of their keys, or an array of
them in field order. A date or a time is read as a table whose only key names no colour, so it
leaves every colour as it is. -/
def asPalette : Node → Except Fault Palette
  | .scalar (.datetime _) _ => .ok {}
  | .table es _ _ =>
    (sortedEntries es).foldlM (fun p (k, _, v) =>
      if paletteFields.contains k then p.set k <$> readWith asColor v
      else (fun _ => p) <$> skip v) ({} : Palette)
  | .array items _ | .tables items _ =>
    (paletteFields.zip items).foldlM (fun p (k, v) => p.set k <$> readWith asColor v)
      ({} : Palette)
  | n => .error (wrongType n "struct Colors")

/-- Settings with one key of a document applied; keys that name no setting change nothing,
once their values are read through. A choice is named by text or a table, so its value is not
read as a number. -/
def Settings.apply (s : Settings) (key : String) (v : Node) : Except Fault Settings :=
  match key with
  | "panel_items" => (fun t => { s with items := t }) <$> readWith asText v
  | "font" => (fun t => { s with font := t }) <$> readWith asText v
  | "output" => (fun t => { s with output := some t }) <$> readWith asText v
  | "position" => (fun e => { s with edge := e }) <$> asChoice (Edge.all.map fun e => (e.name, e)) v
  | "layer" => (fun l => { s with layer := l }) <$> asChoice (Layer.all.map fun l => (l.name, l)) v
  | "height" => (fun h => { s with height := h.toUInt32 }) <$> readWith (asWord 32 "u32") v
  | "close_timeout" =>
    (fun t => { s with closeAfter := t.toUInt64 }) <$> readWith (asWord 64 "u64") v
  | "markup" => (fun b => { s with markup := b }) <$> readWith asFlag v
  | "colors" => (fun p => { s with palette := p }) <$> readWith asPalette v
  | _ => (fun _ => s) <$> skip v

/-- Settings from a document's root table, its keys read in their order. -/
def Settings.ofNode : Node → Except Fault Settings
  | .table es _ _ => (sortedEntries es).foldlM (fun s (k, _, v) => s.apply k v) ({} : Settings)
  | _ => .ok {}

/-- Settings from a document's text, or the report of its first fault. -/
def Settings.read (text : String) : Except String Settings :=
  match Node.read text >>= Settings.ofNode with
  | .ok s => .ok s
  | .error f => .error (f.report text)

end DeskPanel
