/-!
# TOML dates and times

A scalar that starts with digits followed by a dash or a colon is a date, a time, or a date
and a time, as RFC 3339 writes them: `1979-05-27`, `07:32:00.5`, `1979-05-27T07:32:00Z`,
`1979-05-27 07:32:00-07:00`. Seconds may be left out of a time.

The text is cut into parts (runs of digits and single marks) and checked part by part. The
first part out of place, or the first field out of its range, is the fault, named by what was
being read (a date, a time, a date-time or an offset) and what was expected there. Widths are
checked after a whole date or time has been read, ranges after the widths.

## Main definitions

* `Moment.Part` — a part of the text.
* `Moment.fault?` — why a text is no date or time, if it is none.
-/

namespace DeskPanel.Toml.Moment

/-- A part of a date or time: a run of digits or one mark. -/
inductive Part where
  | digits (text : List Char)
  | dash
  | colon
  | dot
  | dateTimeMark
  | zulu
  | plus
  | space
  | other
  deriving DecidableEq, Repr

/-- Dropping a prefix never lengthens a list. -/
theorem length_dropWhile_le (p : Char → Bool) (cs : List Char) :
    (cs.dropWhile p).length ≤ cs.length := by
  induction cs with
  | nil => simp
  | cons c r ih =>
    rw [List.dropWhile_cons]
    split
    · exact Nat.le_succ_of_le ih
    · exact Nat.le_refl _

/-- The parts of a text. -/
def parts : List Char → List Part
  | [] => []
  | c :: cs =>
    if c.isDigit then
      .digits (c :: cs.takeWhile Char.isDigit) :: parts (cs.dropWhile Char.isDigit)
    else
      let p := match c with
        | '-' => Part.dash
        | ':' => .colon
        | '.' => .dot
        | 'T' | 't' => .dateTimeMark
        | 'Z' | 'z' => .zulu
        | '+' => .plus
        | ' ' => .space
        | _ => .other
      p :: parts cs
termination_by cs => cs.length
decreasing_by
  all_goals simp_wf
  all_goals
    first
    | omega
    | (have hlen := length_dropWhile_le Char.isDigit cs; omega)

/-- A fault: what was being read, if anything in particular, and what was expected. -/
structure Fault where
  what : Option String := none
  expected : Option String := none
  deriving DecidableEq, Repr

/-- The message of a fault. -/
def Fault.message (f : Fault) : String :=
  "invalid " ++ f.what.getD "datetime" ++
    (match f.expected with
     | some e => ", expected " ++ e
     | none => "")

/-- The number a run of digits spells. -/
def value (ds : List Char) : Nat := ds.foldl (fun n c => n * 10 + (c.toNat - '0'.toNat)) 0

/-- Takes a run of digits from the parts, or fails with `f`. -/
def takeDigits (f : Fault) : List Part → Except Fault (List Char × List Part)
  | .digits ds :: rest => .ok (ds, rest)
  | _ => .error f

/-- Takes one mark from the parts, or fails with `f`. -/
def takeMark (m : Part) (f : Fault) : List Part → Except Fault (List Part)
  | p :: rest => if p = m then .ok rest else .error f
  | [] => .error f

/-- Checks a width, failing with `f`. -/
def width (ds : List Char) (n : Nat) (f : Fault) : Except Fault Unit :=
  if ds.length = n then .ok () else .error f

/-- The days of a month of a year, with the words of the range. -/
def monthDays (year month : Nat) : Nat × String :=
  let leap := year % 4 == 0 && (year % 100 != 0 || year % 400 == 0)
  if month == 2 then
    if leap then (29, "day between 01 and 29") else (28, "day between 01 and 28")
  else if month == 4 || month == 6 || month == 9 || month == 11 then
    (30, "day between 01 and 30")
  else (31, "day between 01 and 31")

/-- Reads a date after its year; the parts after the date. -/
def readDate (year : List Char) (ps : List Part) : Except Fault (List Part) := do
  let date (e : String) : Fault := ⟨some "date", some e⟩
  let (month, ps) ← takeDigits (date "month") ps
  let ps ← takeMark .dash (date "`-` (MM-DD)") ps
  let (day, ps) ← takeDigits (date "day") ps
  width year 4 (date "a four-digit year (YYYY)")
  width month 2 (date "a two-digit month (MM)")
  width day 2 (date "a two-digit day (DD)")
  let m := value month
  unless 1 ≤ m ∧ m ≤ 12 do throw (date "month between 01 and 12")
  let (most, words) := monthDays (value year) m
  let d := value day
  unless 1 ≤ d ∧ d ≤ most do throw (date words)
  return ps

/-- Reads a time; the parts after it. -/
def readTime (ps : List Part) : Except Fault (List Part) := do
  let time (e : String) : Fault := ⟨some "time", some e⟩
  let (hour, ps) ← takeDigits (time "hour") ps
  let ps ← takeMark .colon (time "`:` (HH:MM)") ps
  let (minute, ps) ← takeDigits (time "minute") ps
  let (second, ps) ← match ps with
    | .colon :: rest => do
      let (s, rest) ← takeDigits (time "second") rest
      pure (some s, rest)
    | _ => pure (none, ps)
  let ps ← match second, ps with
    | some _, .dot :: rest => do
      let (_, rest) ← takeDigits (time "nanosecond") rest
      pure rest
    | _, _ => pure ps
  width hour 2 (time "a two-digit hour (HH)")
  width minute 2 (time "a two-digit minute (MM)")
  if let some s := second then width s 2 (time "a two-digit second (SS)")
  unless value hour ≤ 23 do throw (time "hour between 00 and 23")
  unless value minute ≤ 59 do throw (time "minute between 00 and 59")
  if let some s := second then
    unless value s ≤ 60 do throw (time "second between 00 and 60")
  return ps

/-- Reads the offset after a date and a time, if there is one; the parts after it. -/
def readOffset (ps : List Part) : Except Fault (List Part) := do
  let offset (e : String) : Fault := ⟨some "offset", some e⟩
  match ps with
  | [] => return []
  | .zulu :: rest => return rest
  | .plus :: rest | .dash :: rest =>
    let (hours, rest) ← takeDigits (offset "hour") rest
    let rest ← takeMark .colon (offset "`:` (HH:MM)") rest
    let (minutes, rest) ← takeDigits (offset "minute") rest
    width hours 2 (offset "a two-digit hour (HH)")
    width minutes 2 (offset "a two-digit minute (MM)")
    unless value hours ≤ 23 do throw (offset "hours between 00 and 23")
    unless value minutes ≤ 59 do throw (offset "minutes between 00 and 59")
    return rest
  | _ => throw (offset "`Z`, +OFFSET, -OFFSET")

/-- Checks a whole text: a date, a time, or both with an optional offset. -/
def check (text : String) : Except Fault Unit := do
  let all := parts text.toList
  let lead : Fault := { expected := some "year or hour" }
  let (first, ps) ← takeDigits lead all
  let (hasDate, ps) ← match ps with
    | .dash :: rest => do
      let rest ← readDate first rest
      pure (true, rest)
    | .colon :: _ => pure (false, all)
    | _ => throw { expected := some "`-` (YYYY-MM) or `:` (HH:MM)" }
  let (hasTime, ps) ← if hasDate then
      match ps with
      | .dateTimeMark :: rest | .space :: rest => do
        let rest ← readTime rest
        pure (true, rest)
      | [] => pure (false, ps)
      | _ => throw ⟨some "date-time", some "`T` between date and time"⟩
    else do
      let rest ← readTime ps
      pure (true, rest)
  let ps ← if hasDate && hasTime then readOffset ps else pure ps
  unless ps.isEmpty do throw {}

/-- Why a text is no date or time, if it is none. -/
def fault? (text : String) : Option String :=
  match check text with
  | .ok () => none
  | .error f => some f.message

example : fault? "1979-05-27T07:32:00Z" = none := by decide +kernel
example : fault? "1979-02-30" = some "invalid date, expected day between 01 and 28" := by
  decide +kernel

end DeskPanel.Toml.Moment
