import DeskPanel.Toml.Token

/-!
# TOML as written

The second step of reading a TOML document finds, in its tokens, the statements (table
headers and key-value pairs) and, inside them, the pieces of text that spell keys and scalars,
without decoding any of them. Only faults of layout are found here: a missing `=`, an unclosed
bracket, a stray comma, text after a value, arrays and inline tables nested more than
`maxDepth` deep. Comments and line breaks are checked as they are
passed. Decoding pieces and assembling tables is the next step (`Toml.Assemble`), so a fault of
layout anywhere in a document is reported before any fault of content.

A scalar written without quotes is a run of atoms and dots, and an atom after one run of
blanks joins it, so that `1.5` and `1979-05-27 07:32:00` stay whole (and `1 b` is one scalar,
which decoding refuses). A key segment that is missing (around a stray dot, or before a
bracket) is read as an empty unquoted segment, and a value missing before the brace that
closes an inline table as an empty literal string; decoding refuses both.

## Main definitions

* `Spelling`, `Piece` — how a key segment or a scalar is written, and where.
* `Written` — a value as written: a scalar piece, an array or an inline table.
* `Statement` — a table header, an array-of-tables header or a key-value pair.
* `Statement.readAll` — the statements of a document, or its first fault of layout.
-/

namespace DeskPanel.Toml

/-- How a key segment or a scalar is spelled. -/
inductive Spelling where
  /-- Without quotes. -/
  | bare
  /-- In double quotes, with escapes. -/
  | basic
  /-- In single quotes, verbatim. -/
  | literal
  /-- In triple double quotes. -/
  | basicBlock
  /-- In triple single quotes. -/
  | literalBlock
  deriving DecidableEq, Repr, Inhabited

/-- A key segment or a scalar as written: its spelling and its bytes, quotes included. -/
structure Piece where
  spelling : Spelling
  span : Span
  deriving Repr, Inhabited

/-- A value as written. -/
inductive Written where
  | scalar (p : Piece)
  | array (items : List Written) (span : Span)
  /-- An inline table: its pairs, each a dotted key and a value. -/
  | inline (pairs : List (List Piece × Written)) (span : Span)
  deriving Repr, Inhabited

/-- A statement of a document. -/
inductive Statement where
  /-- A table header `[key]`, with the span of the whole header. -/
  | table (key : List Piece) (span : Span)
  /-- An array-of-tables header `[[key]]`, with the span of the whole header. -/
  | tables (key : List Piece) (span : Span)
  /-- A key-value line `key = value`. -/
  | pair (key : List Piece) (value : Written)
  deriving Repr, Inhabited

/-- The spelling of a key segment or scalar written as a token of a kind. -/
def TokenKind.spelling : TokenKind → Spelling
  | .literal => .literal
  | .basic => .basic
  | .literalBlock => .literalBlock
  | .basicBlock => .basicBlock
  | _ => .bare

/-- Whether a token may be a key segment: a string or an atom. -/
def TokenKind.isKey (k : TokenKind) : Bool := k.isString || k == .atom

/-! ### Tokens and checks -/

/-- The token at position `i`, or the end-of-text token past the end. -/
def tokenOf (ts : Array Token) (i : Nat) : Token :=
  ts[i]?.getD (ts.back?.getD ⟨.eof, .at 0⟩)

/-- Past the whitespace tokens from `i`. -/
def skipWs (ts : Array Token) (i : Nat) : Nat :=
  if h : i < ts.size then
    if ts[i].kind == .whitespace then skipWs ts (i + 1) else i
  else i
termination_by ts.size - i

/-- Whether a byte may stand in a comment: a tab, a printable ASCII character or a byte of a
multi-byte character. -/
def isCommentByte (b : UInt8) : Bool := b == 0x09 || (0x20 ≤ b && b ≤ 0x7E) || 0x80 ≤ b

/-- Checks a comment token: every byte must be allowed in a comment. -/
def checkComment (src : ByteArray) (t : Token) : Except Fault Unit :=
  match ((List.range (t.span.stop - t.span.start)).map (t.span.start + ·)).find?
      fun k => !isCommentByte (src[k]?.getD 0) with
  | some k => .error ⟨Span.at k, "invalid comment character, expected printable characters"⟩
  | none => .ok ()

/-- Checks a line-break token: a carriage return must be followed by a line feed. -/
def checkNewline (src : ByteArray) (t : Token) : Except Fault Unit :=
  if t.span.stop - t.span.start == 1 && src[t.span.start]? == some 13 then
    .error ⟨Span.at t.span.stop,
      "carriage return must be followed by newline, expected newline"⟩
  else .ok ()

/-- The key segment a token spells. -/
def segmentOf (t : Token) : Piece := ⟨t.kind.spelling, t.span⟩

/-- The empty unquoted segment standing for a missing key segment just before a token. -/
def missingSegment (t : Token) : Piece := ⟨.bare, .at t.span.start⟩

/-! ### Keys -/

mutual

/-- Reads dotted continuations of a key from `i`, blanks allowed around the dots: the segments
after `acc` (last first), the position after them and their blanks, and whether every dot was
followed by a segment. -/
def dotKeys (ts : Array Token) : Nat → Nat → List Piece → List Piece × Nat × Bool
  | 0, i, acc => (acc, i, true)
  | fuel + 1, i, acc =>
    let i := skipWs ts i
    if (tokenOf ts i).kind == .dot then segmentAfter ts fuel (i + 1) acc else (acc, i, true)

/-- Reads the key segment that should stand at `i`, and its continuations. A dot where a
segment should be stands after an empty segment; any other token that is not a segment ends
the key with an empty segment, and is not taken. -/
def segmentAfter (ts : Array Token) : Nat → Nat → List Piece → List Piece × Nat × Bool
  | 0, i, acc => (acc, i, false)
  | fuel + 1, i, acc =>
    let t := tokenOf ts i
    if t.kind == .whitespace then segmentAfter ts fuel (i + 1) acc
    else if t.kind == .dot then segmentAfter ts fuel (i + 1) (missingSegment t :: acc)
    else if t.kind.isKey then dotKeys ts fuel (i + 1) (segmentOf t :: acc)
    else (missingSegment t :: acc, i, false)

end

/-! ### Values -/

/-- The end of a scalar written without quotes whose tokens so far end at byte `stop`, and
the position of the token after it: atoms and dots join directly, and an atom also after one
run of blanks. -/
def scalarEnd (ts : Array Token) (i stop : Nat) : Nat × Nat :=
  if h : i < ts.size then
    let k := ts[i].kind
    if k == .atom || k == .dot then scalarEnd ts (i + 1) ts[i].span.stop
    else if k == .whitespace && (tokenOf ts (i + 1)).kind == .atom then
      scalarEnd ts (i + 2) (tokenOf ts (i + 1)).span.stop
    else (i, stop)
  else (i, stop)
termination_by ts.size - i

/-- What an inline table waits for next. -/
inductive PairStage where
  | key
  | equals
  | value
  | comma
  deriving DecidableEq, Repr

/-- The words for what an inline table waits for. -/
def PairStage.expected : PairStage → String
  | .key => "key"
  | .equals => "`=`"
  | .value => "value"
  | .comma => "`,`"

/-- How many arrays and inline tables may stand inside one another. -/
def maxDepth : Nat := 80

/-- The fault of a bracket or brace that opens an inline table's element where a key or a
separator is due. -/
def missingElementKey (t : Token) (stage : PairStage) : Fault :=
  ⟨Span.at t.span.start, "missing key for inline table element, expected " ++ stage.expected⟩

/-- The fault of an array or inline table opened inside `maxDepth` others. -/
def tooDeep (t : Token) : Fault := ⟨t.span, "cannot recurse further; max recursion depth met"⟩

/-- Whether a token is a blank, a comment or a line break, which a fault of an unclosed value
passes over. -/
def TokenKind.isFiller (k : TokenKind) : Bool :=
  k == .whitespace || k == .comment || k == .newline || k == .eof

/-- The end of the last token before `i` that is no blank, comment or line break. -/
def significantEnd (ts : Array Token) : Nat → Nat
  | 0 => 0
  | i + 1 => if (tokenOf ts i).kind.isFiller then significantEnd ts i else (tokenOf ts i).span.stop

/-- The fault of an array that is not closed, after its last token before `i` that is no blank,
comment or line break. -/
def unclosedArray (ts : Array Token) (i : Nat) : Fault :=
  ⟨Span.at (significantEnd ts i), "unclosed array, expected `]`"⟩

/-- The fault of an inline table that is not closed, placed as for an array. -/
def unclosedInline (ts : Array Token) (i : Nat) : Fault :=
  ⟨Span.at (significantEnd ts i), "unclosed inline table, expected `\x7d`"⟩

mutual

/-- The value that starts at token `i`, inside `depth` open arrays and inline tables, and the
position after it. Where no value starts, the value is an empty unquoted scalar and nothing is
taken. -/
def readValue (src : ByteArray) (ts : Array Token) :
    Nat → Nat → Nat → Except Fault (Written × Nat)
  | 0, _, i => .error (unclosedArray ts i)
  | fuel + 1, depth, i =>
    let t := tokenOf ts i
    match t.kind with
    | .openBracket =>
      if depth ≥ maxDepth then .error (tooDeep t)
      else readItems src ts fuel (depth + 1) (i + 1) t.span true []
    | .openBrace =>
      if depth ≥ maxDepth then .error (tooDeep t)
      else readPairs src ts fuel (depth + 1) (i + 1) t.span .key [] []
    | .closeBracket => .error ⟨Span.at t.span.start, "missing array opening, expected `[`"⟩
    | .closeBrace =>
      .error ⟨Span.at t.span.start, "missing inline table opening, expected `\x7b`"⟩
    | .equals => .error ⟨t.span, "extra `=`, expected nothing"⟩
    | .atom | .dot =>
      let (j, stop) := scalarEnd ts (i + 1) t.span.stop
      .ok (.scalar ⟨.bare, ⟨t.span.start, stop⟩⟩, j)
    | k => if k.isString then .ok (.scalar ⟨k.spelling, t.span⟩, i + 1)
      else .ok (.scalar ⟨.bare, .at t.span.start⟩, i)

/-- The items of an array from token `i`, whose bracket is `opening` and which is the `depth`-th
open array or inline table; `needsValue` holds while an item is due, and `acc` holds the items
read so far, last first. -/
def readItems (src : ByteArray) (ts : Array Token) :
    Nat → Nat → Nat → Span → Bool → List Written → Except Fault (Written × Nat)
  | 0, _, i, _, _, _ => .error (unclosedArray ts i)
  | fuel + 1, depth, i, opening, needsValue, acc =>
    let t := tokenOf ts i
    match t.kind with
    | .whitespace => readItems src ts fuel depth (i + 1) opening needsValue acc
    | .newline => do
      checkNewline src t
      readItems src ts fuel depth (i + 1) opening needsValue acc
    | .comment => do
      checkComment src t
      readItems src ts fuel depth (i + 1) opening needsValue acc
    | .eof => .error (unclosedArray ts i)
    | .equals => .error ⟨t.span, "unexpected `=` in array, expected value, `]`"⟩
    | .comma =>
      if needsValue then .error ⟨t.span, "extra comma in array, expected value"⟩
      else readItems src ts fuel depth (i + 1) opening true acc
    | .closeBracket => .ok (.array acc.reverse ⟨opening.start, t.span.stop⟩, i + 1)
    | _ =>
      if needsValue then do
        let (v, j) ← readValue src ts fuel depth i
        readItems src ts fuel depth j opening false (v :: acc)
      else .error ⟨Span.at t.span.start, "missing comma between array elements, expected `,`"⟩

/-- The pairs of an inline table from token `i`, whose brace is `opening` and which is the
`depth`-th open array or inline table: `stage` says what is due next, `key` holds the segments
of the pair being read (last first) and `acc` the pairs read so far, last first. -/
def readPairs (src : ByteArray) (ts : Array Token) :
    Nat → Nat → Nat → Span → PairStage → List Piece → List (List Piece × Written) →
      Except Fault (Written × Nat)
  | 0, _, i, _, _, _, _ =>
    .error (unclosedInline ts i)
  | fuel + 1, depth, i, opening, stage, key, acc =>
    let t := tokenOf ts i
    match t.kind with
    | .whitespace => readPairs src ts fuel depth (i + 1) opening stage key acc
    | .newline => do
      checkNewline src t
      readPairs src ts fuel depth (i + 1) opening stage key acc
    | .comment => do
      checkComment src t
      readPairs src ts fuel depth (i + 1) opening stage key acc
    | .eof => .error (unclosedInline ts i)
    | .comma =>
      if stage == .comma then readPairs src ts fuel depth (i + 1) opening .key [] acc
      else
        .error ⟨Span.at t.span.start, "extra comma in inline table, expected " ++ stage.expected⟩
    | .closeBrace =>
      let acc := if stage == .equals || stage == .value then
          (key.reverse, Written.scalar ⟨.literal, .at t.span.start⟩) :: acc
        else acc
      .ok (.inline acc.reverse ⟨opening.start, t.span.stop⟩, i + 1)
    | .equals =>
      match stage with
      | .equals => readPairs src ts fuel depth (i + 1) opening .value key acc
      | .key => readPairs src ts fuel depth (i + 1) opening .value [missingSegment t] acc
      | .value | .comma =>
        .error ⟨Span.at t.span.start,
          "extra assignment between key-value pairs, expected " ++ stage.expected⟩
    | .closeBracket =>
      .error ⟨Span.at t.span.start, "invalid inline table element, expected " ++ stage.expected⟩
    | k =>
      match stage with
      | .key =>
        if k.isKey || k == .dot then
          let (segs, j, _) := segmentAfter ts fuel i []
          readPairs src ts fuel depth j opening .equals segs acc
        else .error (missingElementKey t stage)
      | .equals =>
        if k == .openBracket || k == .openBrace then .error (missingElementKey t stage)
        else
          .error ⟨Span.at t.span.start,
            "missing assignment between key-value pairs, expected `=`"⟩
      | .value => do
        let (v, j) ← readValue src ts fuel depth i
        readPairs src ts fuel depth j opening .comma [] ((key.reverse, v) :: acc)
      | .comma =>
        if k == .openBracket || k == .openBrace then .error (missingElementKey t stage)
        else
          .error ⟨Span.at t.span.start, "missing comma between key-value pairs, expected `,`"⟩

end

/-! ### Statements -/

/-- Past the rest of a statement's line from token `i`: blanks, then a comment, a line break
or the end of the text. -/
def lineRest (src : ByteArray) (ts : Array Token) (i : Nat) : Except Fault Nat :=
  let j := skipWs ts i
  let t := tokenOf ts j
  match t.kind with
  | .comment => do checkComment src t; pure (j + 1)
  | .newline => do checkNewline src t; pure (j + 1)
  | .eof => pure j
  | _ => .error ⟨Span.at t.span.start, "unexpected key or value, expected newline, `#`"⟩

/-- Past the tokens up to and including the next line break, whose comments and line break are
still checked. -/
def skipLine (src : ByteArray) (ts : Array Token) (i : Nat) : Except Fault Nat :=
  if h : i < ts.size then
    match ts[i].kind with
    | .newline => do checkNewline src ts[i]; pure (i + 1)
    | .eof => pure i
    | .comment => do checkComment src ts[i]; skipLine src ts (i + 1)
    | _ => skipLine src ts (i + 1)
  else pure i
termination_by ts.size - i

/-- The position after the last token before `i` that is not a blank. -/
def endBefore (ts : Array Token) : Nat → Nat
  | 0 => 0
  | i + 1 => if (tokenOf ts i).kind == .whitespace then endBefore ts i else (tokenOf ts i).span.stop

/-- The header that starts at token `i`, where a bracket stands, and the position after its
line. A header whose key ends without a bracket because a segment is missing is kept, and the
rest of its line is passed over. -/
def readHeader (src : ByteArray) (ts : Array Token) (fuel i : Nat) :
    Except Fault (Statement × Nat) := do
  let start := (tokenOf ts i).span.start
  let double := (tokenOf ts (i + 1)).kind == .openBracket
  let j := skipWs ts (if double then i + 2 else i + 1)
  let (segs, j, valid) := segmentAfter ts fuel j []
  let key := segs.reverse
  let j := skipWs ts j
  let c := tokenOf ts j
  if c.kind == .closeBracket then
    if double then
      let c2 := tokenOf ts (j + 1)
      if c2.kind == .closeBracket then
        let e ← lineRest src ts (j + 2)
        pure (.tables key ⟨start, c2.span.stop⟩, e)
      else throw ⟨Span.at c.span.stop, "unclosed array table, expected `]`"⟩
    else
      let e ← lineRest src ts (j + 1)
      pure (.table key ⟨start, c.span.stop⟩, e)
  else if valid then
    let stop := endBefore ts j
    throw ⟨Span.at stop,
      if double then "unclosed array table, expected `]]`" else "unclosed table, expected `]`"⟩
  else
    let span : Span := ⟨start, c.span.start⟩
    let e ← skipLine src ts j
    pure (if double then .tables key span else .table key span, e)

/-- The pair whose key segments `segs` (last first) end at token `i`; `dotFirst` says that the
statement starts with a dot, which words the fault of a missing `=` otherwise. -/
def readPair (src : ByteArray) (ts : Array Token) (fuel : Nat) (dotFirst : Bool)
    (segs : List Piece) (i : Nat) : Except Fault (Statement × Nat) := do
  let t := tokenOf ts i
  unless t.kind == .equals do
    throw ⟨Span.at t.span.start,
      (if dotFirst then "missing value for key" else "key with no value") ++ ", expected `=`"⟩
  let (v, j) ← readValue src ts fuel 0 (skipWs ts (i + 1))
  let e ← lineRest src ts j
  pure (.pair segs.reverse v, e)

/-- The statement that starts at token `i`, if one starts there, and the position after its
line. -/
def readStatement (src : ByteArray) (ts : Array Token) (fuel i : Nat) :
    Except Fault (Option Statement × Nat) := do
  let t := tokenOf ts i
  match t.kind with
  | .whitespace => pure (none, i + 1)
  | .newline => do checkNewline src t; pure (none, i + 1)
  | .comment => do checkComment src t; pure (none, i + 1)
  | .eof => pure (none, i)
  | .openBracket => do
    let (st, e) ← readHeader src ts fuel i
    pure (some st, e)
  | .closeBracket => throw ⟨Span.at t.span.start, "missing table open, expected `[`"⟩
  | .equals => do
    let (st, e) ← readPair src ts fuel false [missingSegment t] i
    pure (some st, e)
  | .comma | .openBrace | .closeBrace =>
    throw ⟨Span.at t.span.start, "invalid key-value pair, expected key"⟩
  | k => do
    let (segs, j, _) := segmentAfter ts fuel i []
    let (st, e) ← readPair src ts fuel (k == .dot) segs j
    pure (some st, e)

/-- The statements from token `i` on, after `acc` (last first). -/
def readFrom (src : ByteArray) (ts : Array Token) (fuel : Nat) :
    Nat → Nat → List Statement → Except Fault (List Statement)
  | 0, _, acc => .ok acc.reverse
  | n + 1, i, acc => do
    if (tokenOf ts i).kind == .eof then return acc.reverse
    let (st, j) ← readStatement src ts fuel i
    let acc := match st with
      | some s => s :: acc
      | none => acc
    if j ≤ i then return acc.reverse
    readFrom src ts fuel n j acc

/-- The position where a document's text starts: past a byte order mark. -/
def textStart (src : ByteArray) : Nat :=
  if src[0]? == some 0xEF && src[1]? == some 0xBB && src[2]? == some 0xBF then 3 else 0

/-- The statements of a document, or its first fault of layout. -/
def Statement.readAll (src : ByteArray) : Except Fault (List Statement) :=
  let ts := Token.lex src (textStart src)
  readFrom src ts (2 * ts.size + 2) (ts.size + 1) 0 []

end DeskPanel.Toml
