import DeskPanel.Toml.Scalar

/-!
# Assembling TOML tables

The last step of reading a document. Its statements are read in sections: the pairs before the
first header, then each header with the pairs after it. A section's pairs are placed in a table
of its own, and that table is placed in the document when the section ends, at the next header
or at the end of the text. Within a statement the key is decoded first, then the value, then
the pair is placed.

A walk down a key passes a table, creating those that are missing, and passes an array of
tables by entering its last table. It cannot pass any other value, nor an inline table, and
says of which type it is. A dotted key cannot pass a table that a header named. A pair is
placed in a table made by a dotted key when its key is dotted, in the section's own table when
not, and only under a key that is new there. A `[header]` takes over a table that was created on
the way to an earlier header when its section starts, and names no other table that is there.
A `[[header]]` adds a table to an array of tables when its section ends. Every refusal but the
type of a value a walk cannot pass is a `duplicate key`; all stand at the key segment concerned.
A key of more than `maxSegments` segments is refused as a whole.

## Main definitions

* `Step` — a decoded key segment.
* `descend` — walks a path of steps, then changes the table at its end.
* `Assembly` — a document being assembled, section by section.
* `Node.ofStatements` — the root table of a document.
* `Node.read` — both readings of a document's text.
-/

namespace DeskPanel.Toml

/-- A decoded key segment: its name and where it is written. -/
structure Step where
  key : String
  span : Span
  deriving Repr, Inhabited

/-- The most segments a key may have. -/
def maxSegments : Nat := 80

/-- The fault of a definition that is not the first. -/
def duplicate (s : Span) : Fault := ⟨s, "duplicate key"⟩

/-- The node a table holds under a key. -/
def lookup (es : List (String × Span × Node)) (k : String) : Option Node :=
  (es.find? (·.1 == k)).map (·.2.2)

/-- A table's entries with the node under `k` replaced, or added last when `k` is new. -/
def setEntry (es : List (String × Span × Node)) (k : String) (ks : Span) (n : Node) :
    List (String × Span × Node) :=
  if es.any (·.1 == k) then es.map fun e => if e.1 == k then (k, e.2.1, n) else e
  else es ++ [(k, ks, n)]

/-- A table's entries without the one under `k`. -/
def dropEntry (es : List (String × Span × Node)) (k : String) : List (String × Span × Node) :=
  es.filter (·.1 != k)

/-- Applies `f` to a table, or to the last table of an array of tables. -/
def intoTable {β : Type} (n : Node) (f : Node → Except Fault (Node × β)) :
    Except Fault (Node × β) :=
  match n with
  | .tables items s =>
    match items.getLast? with
    | some last => do
      let (l, b) ← f last
      pure (.tables (items.dropLast ++ [l]) s, b)
    | none => f n
  | _ => f n

/-- The type of a value, as the fault of a walk that cannot pass it names it. -/
def Node.kindName : Node → String
  | .scalar (.string _) _ => "string"
  | .scalar (.integer _) _ | .scalar .integerOverflow _ => "integer"
  | .scalar (.float _) _ | .scalar .floatOverflow _ => "float"
  | .scalar (.boolean _) _ => "boolean"
  | .scalar (.datetime _) _ => "datetime"
  | .array .. | .tables .. => "array"
  | .table _ .inline _ => "inline table"
  | .table .. => "table"

/-- The fault of a walk that cannot pass a value. -/
def cannotExtend (s : Span) (n : Node) : Fault :=
  ⟨s, "cannot extend value of type " ++ n.kindName ++ " with a dotted key"⟩

/-- The node a walk enters at a step, for a dotted key when `dotted`: a new table when the key
is new, else the node there if the walk may pass it. -/
def pass (dotted : Bool) (st : Step) : Option Node → Except Fault Node
  | none => .ok (.table [] (if dotted then .dotted else .implicit) st.span)
  | some n@(.table _ o _) =>
    if o == .inline then .error (cannotExtend st.span n)
    else if dotted && o == .header then .error (duplicate st.span)
    else .ok n
  | some n@(.tables _ _) => .ok n
  | some n => .error (cannotExtend st.span n)

/-- Walks `steps` down from the table `n`, for a dotted key when `dotted`, and changes the table
at the end of the walk with `f`; returns the changed table and what `f` returned. -/
def descend {β : Type} (dotted : Bool) (f : Node → Except Fault (Node × β)) :
    List Step → Node → Except Fault (Node × β)
  | [], n => f n
  | st :: rest, n =>
    match n with
    | .table es o s => do
      let child ← pass dotted st (lookup es st.key)
      let (c, b) ← intoTable child (descend dotted f rest)
      pure (.table (setEntry es st.key st.span c) o s, b)
    | _ => .error (duplicate st.span)

/-- Places the value `v` under the key `path` then `key` in the table `t`: the table at the end
of the path must be made by a dotted key exactly when the path is not empty, and the key must be
new there. -/
def placePair (path : List Step) (key : Step) (v : Node) (t : Node) : Except Fault Node :=
  Prod.fst <$> descend true (fun parent =>
    match parent with
    | .table es o s =>
      if (o == .dotted) == path.isEmpty then .error (duplicate key.span)
      else if (lookup es key.key).isSome then .error (duplicate key.span)
      else .ok (.table (es ++ [(key.key, key.span, v)]) o s, ())
    | _ => .error (duplicate key.span)) path t

/-- The decoded segments of a key, unless they are more than `maxSegments`. -/
def stepsOf (src : ByteArray) (key : List Piece) : Except Fault (List Step) := do
  let steps ← key.mapM fun p => do
    let k ← decodeKey src p
    pure (⟨k, p.span⟩ : Step)
  if steps.length > maxSegments then throw ⟨none, "recursion limit"⟩
  pure steps

/-- A key split into the path before its last segment and that segment. -/
def splitLast (steps : List Step) : List Step × Step :=
  (steps.dropLast, steps.getLastD default)

mutual

/-- The node of a written value. -/
def decodeValue (src : ByteArray) : Written → Except Fault Node
  | .scalar p => (Node.scalar · p.span) <$> decodeScalar src p
  | .array items s => (Node.array · s) <$> decodeItems src items
  | .inline pairs s => decodePairs src pairs (.table [] .inline s)

/-- The nodes of the items of an array. -/
def decodeItems (src : ByteArray) : List Written → Except Fault (List Node)
  | [] => .ok []
  | w :: ws => do
    let n ← decodeValue src w
    let ns ← decodeItems src ws
    pure (n :: ns)

/-- Places the pairs of an inline table into the table `t`. -/
def decodePairs (src : ByteArray) : List (List Piece × Written) → Node → Except Fault Node
  | [], t => .ok t
  | (key, w) :: rest, t => do
    let steps ← stepsOf src key
    let v ← decodeValue src w
    let (path, last) := splitLast steps
    let t ← placePair path last v t
    decodePairs src rest t

end

/-- The header that opened a section: its decoded key, its span, and whether it names an array
of tables. -/
structure Header where
  steps : List Step
  span : Span
  array : Bool
  deriving Repr, Inhabited

/-- A document being assembled: its root table, the table of the section being read, and the
header that opened that section, if one did. -/
structure Assembly where
  root : Node
  current : Node
  header : Option Header

/-- A new table named by a header. -/
def headerTable (h : Header) : Node := .table [] .header h.span

/-- The table of a section, named by its header. -/
def named (h : Header) : Node → Node
  | .table es _ _ => .table es .header h.span
  | n => n

/-- The root table once the section being read ends: the section's table is placed where its
header says, or becomes the root when no header opened it. -/
def Assembly.finish (a : Assembly) : Except Fault Node :=
  match a.header with
  | none => .ok a.current
  | some h =>
    let (path, key) := splitLast h.steps
    let t := named h a.current
    Prod.fst <$> descend false (fun parent =>
      match parent with
      | .table es o s =>
        if h.array then
          match lookup es key.key with
          | none => .ok (.table (es ++ [(key.key, key.span, .tables [t] h.span)]) o s, ())
          | some (.tables items ts) =>
            .ok (.table (setEntry es key.key key.span (.tables (items ++ [t]) ts)) o s, ())
          | some _ => .error (duplicate key.span)
        else .ok (.table (setEntry es key.key key.span t) o s, ())
      | _ => .error (duplicate key.span)) path a.root

/-- Starts the section of a header on the root table `root`. A `[header]` takes its table out of
the root when a longer header created it, and refuses any other value there; a `[[header]]`
starts a new table. -/
def Assembly.start (root : Node) (h : Header) : Except Fault Assembly :=
  if h.array then .ok ⟨root, headerTable h, some h⟩
  else do
    let (path, key) := splitLast h.steps
    let (root, current) ← descend false (fun parent =>
      match parent with
      | .table es o s =>
        match lookup es key.key with
        | none => .ok (parent, headerTable h)
        | some (.table ces .implicit _) =>
          .ok (.table (dropEntry es key.key) o s, .table ces .header h.span)
        | some _ => .error (duplicate key.span)
      | _ => .error (duplicate key.span)) path root
    pure ⟨root, current, some h⟩

/-- Adds one statement to a document. A header ends the section before it, then its key is
decoded and its section starts. -/
def Assembly.add (src : ByteArray) (a : Assembly) : Statement → Except Fault Assembly
  | .table key hs => do
    let root ← a.finish
    let steps ← stepsOf src key
    Assembly.start root ⟨steps, hs, false⟩
  | .tables key hs => do
    let root ← a.finish
    let steps ← stepsOf src key
    Assembly.start root ⟨steps, hs, true⟩
  | .pair key w => do
    let steps ← stepsOf src key
    let v ← decodeValue src w
    let (path, last) := splitLast steps
    let current ← placePair path last v a.current
    pure { a with current }

/-- The root table of a document's statements. -/
def Node.ofStatements (src : ByteArray) (sts : List Statement) : Except Fault Node := do
  let a ← sts.foldlM (Assembly.add src) ⟨Node.root, Node.root, none⟩
  a.finish

/-- The root table of a document, or its first fault. -/
def Node.read (text : String) : Except Fault Node := do
  let src := text.toUTF8
  let sts ← Statement.readAll src
  Node.ofStatements src sts

end DeskPanel.Toml
