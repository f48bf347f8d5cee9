import DeskPanel.Word

/-!
# The clock

The clock shows the time of day as `HH:MM` and wakes at the start of every minute. A time of
day has an hour below 24, a minute and a second below 60, and a nanosecond below one second, or
below two seconds in the last second of a minute, which is how a leap second is written.

## Main definitions

* `TimeOfDay`, `TimeOfDay.ofParts?`, `TimeOfDay.text`.
* `nextMinute` — the first whole minute strictly after a time in seconds since the epoch.
-/

namespace DeskPanel

/-- A time of day. -/
structure TimeOfDay where
  hour : Nat
  minute : Nat
  second : Nat
  nano : Nat
  deriving DecidableEq, Repr

/-- A time of day from its parts, when they name one. -/
def TimeOfDay.ofParts? (hour minute second nano : Nat) : Option TimeOfDay :=
  if hour < 24 ∧ minute < 60 ∧ second < 60 ∧ nano < 2000000000 ∧
      (nano < 1000000000 ∨ second = 59) then
    some ⟨hour, minute, second, nano⟩
  else none

/-- A number in two digits at least. -/
def twoDigits (n : Nat) : String := if n < 10 then "0" ++ toString n else toString n

/-- The clock's text: hours and minutes, two digits each. -/
def TimeOfDay.text (t : TimeOfDay) : String := twoDigits t.hour ++ ":" ++ twoDigits t.minute

/-- Seconds between clock ticks. -/
def tickSeconds : Int := 60

/-- The first whole minute strictly after `now`, in 64-bit arithmetic: the start of the current
minute, then one minute on. -/
def nextMinute (now : Int) : Checked Int := do
  let start ← IntRange.i64.sub now (now.emod tickSeconds)
  IntRange.i64.add start tickSeconds

end DeskPanel
