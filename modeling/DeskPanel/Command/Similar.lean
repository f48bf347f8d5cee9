import DeskPanel.Binary.Arith
import DeskPanel.Binary.Decimal

/-!
# Similar words

When a command line names an option that does not exist, the reader suggests the existing
option most like it. Likeness is the Jaro similarity of the two words: characters match when
they are equal and no farther apart than half the longer word, less one; the score averages the
share of matched characters in each word and the share of matches that appear in the same
order. Scores are computed in double precision, and a word is suggested only when its score
exceeds 0.7.

## Main definitions

* `Similar.jaro` — the similarity of two words.
* `Similar.closest?` — the best suggestion among candidates, if one is close enough.
-/

namespace DeskPanel.Similar

/-- Marks the characters of `a` that match a character of `b`: each character of `a`, in
order, takes the first unmatched equal character of `b` within `range` positions. Returns the
marks of `a` and of `b`. -/
def matchMarks (a b : List Char) (range : Nat) : List Bool × List Bool :=
  let step (acc : List Bool × List Bool × Nat) (c : Char) : List Bool × List Bool × Nat :=
    let (marksA, marksB, i) := acc
    let hi := min b.length (i + range + 1)
    let hit := (List.range hi).find? fun j =>
      decide (i - range ≤ j) && b[j]? == some c && marksB[j]? == some false
    match hit with
    | some j => (marksA ++ [true], marksB.set j true, i + 1)
    | none => (marksA ++ [false], marksB, i + 1)
  let (marksA, marksB, _) := a.foldl step ([], List.replicate b.length false, 0)
  (marksA, marksB)

/-- The marked characters of a word, in order. -/
def marked (cs : List Char) (marks : List Bool) : List Char :=
  (cs.zip marks).filterMap fun (c, m) => if m then some c else none

/-- The Jaro similarity of two words, between zero and one. -/
def jaro (a b : String) : Binary64 :=
  let as := a.toList
  let bs := b.toList
  if as.isEmpty && bs.isEmpty then Binary.Datum.ofInt 1
  else if as.isEmpty || bs.isEmpty then Binary.Datum.zero
  else
    let (marksA, marksB) := matchMarks as bs (max as.length bs.length / 2 - 1)
    let inA := marked as marksA
    let inB := marked bs marksB
    let m := inA.length
    if m = 0 then Binary.Datum.zero
    else
      let t := ((inA.zip inB).filter fun (x, y) => x != y).length / 2
      let share (n d : Nat) : Binary64 := (Binary.Datum.ofInt n).div (Binary.Datum.ofInt d)
      ((share m as.length).add (share m bs.length) |>.add (share (m - t) m)).div
        (Binary.Datum.ofInt 3)

/-- The least score a suggestion needs to beat. -/
def threshold : Binary64 := Binary.Datum.ofDecimal false 7 (-1)

/-- The candidate most similar to a word, the later one among equals, if its score beats the
threshold. -/
def closest? (word : String) (candidates : List String) : Option String :=
  let best := candidates.foldl (fun (best : Option (Binary64 × String)) c =>
    let score := jaro word c
    if !threshold.lt score then best
    else
      match best with
      | some (s, _) => if score.lt s then best else some (score, c)
      | none => some (score, c)) none
  best.map (·.2)

end DeskPanel.Similar
