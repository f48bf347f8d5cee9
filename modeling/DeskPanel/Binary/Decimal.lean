import DeskPanel.Binary.Arith

/-!
# Decimal text and binary data

Reading: decimal text in the usual scientific notation (`12`, `-.5`, `1e-7`, `inf`, `NaN`) is
rounded once, correctly, to the nearest datum of the format.

Writing: the *shortest* decimal of a finite datum is the one with fewest significant digits that
lies in the interval of reals rounding to the datum (its ends belong to it when the significand
is even); of two such decimals the nearer one wins, a tie going to the larger. It is then laid
out positionally or with an exponent.

## Main definitions

* `Scientific` — a decimal number `digits × 10 ^ exponent` with a sign, and its reader `readReal?`.
* `Datum.ofScientific` — correct rounding of a decimal.
* `Datum.shortest` — the shortest digits of a finite positive datum.
* `Datum.debugText`, `Datum.plainText` — the two layouts in which the program prints numbers.
-/

namespace DeskPanel.Binary

/-- A signed decimal number `digits × 10 ^ exponent`, or one of the special values. -/
inductive Scientific where
  | number (neg : Bool) (digits : Nat) (exponent : Int)
  | infinity (neg : Bool)
  | nan
  deriving DecidableEq, Repr

namespace Scientific

/-- The value of a run of decimal digits. -/
def digitsValue (ds : List Char) : Nat :=
  ds.foldl (fun acc c => acc * 10 + (c.toNat - '0'.toNat)) 0

/-- Splits off the leading run of decimal digits. -/
def spanDigits (cs : List Char) : List Char × List Char :=
  (cs.takeWhile Char.isDigit, cs.dropWhile Char.isDigit)

/-- Reads an optional exponent part `e[+-]digits`; the rest must be empty. -/
def readExponent? : List Char → Option Int
  | [] => some 0
  | c :: rest =>
    if c = 'e' || c = 'E' then
      let (neg, body) := match rest with
        | '+' :: r => (false, r)
        | '-' :: r => (true, r)
        | r => (false, r)
      let (ds, tail) := spanDigits body
      if ds.isEmpty || !tail.isEmpty then none
      else
        let v : Int := digitsValue ds
        some (if neg then -v else v)
    else none

/-- Reads an unsigned decimal number: digits with an optional point and exponent, at least one
digit before the exponent. -/
def readUnsigned? (neg : Bool) (cs : List Char) : Option Scientific := do
  let (whole, rest) := spanDigits cs
  let (frac, rest) := match rest with
    | '.' :: r => spanDigits r
    | r => ([], r)
  if whole.isEmpty && frac.isEmpty then none
  else
    let e ← readExponent? rest
    pure (.number neg (digitsValue (whole ++ frac)) (e - frac.length))

/-- Reads text in the notation of the program's number parser: an optional sign, then `inf`,
`infinity` or `nan` in any case, or a decimal number. -/
def readReal? (s : String) : Option Scientific :=
  let cs := s.toList
  let (neg, body) := match cs with
    | '+' :: r => (false, r)
    | '-' :: r => (true, r)
    | r => (false, r)
  let low := String.ofList (body.map Char.toLower)
  if low = "inf" || low = "infinity" then some (.infinity neg)
  else if low = "nan" then some .nan
  else readUnsigned? neg body

end Scientific

namespace Datum

variable {f : Format}

/-- Decimal exponents beyond which every format has overflowed or underflowed. -/
def decimalReach : Nat := 400

/-- The datum nearest to `digits × 10 ^ exponent` with the given sign. -/
def ofDecimal (neg : Bool) (digits : Nat) (exponent : Int) : Datum f :=
  if digits = 0 then zero neg
  else
    let size : Int := (Nat.toDigits 10 digits).length
    if (decimalReach : Int) < size + exponent then infinity neg
    else if size + exponent < -(decimalReach : Int) then zero neg
    else if 0 ≤ exponent then ofRatio neg (digits * 10 ^ exponent.toNat * 2 ^ f.unitShift) 1
    else ofRatio neg (digits * 2 ^ f.unitShift) (10 ^ (-exponent).toNat)

/-- The datum nearest to a decimal number. -/
def ofScientific : Scientific → Datum f
  | .number neg d e => ofDecimal neg d e
  | .infinity neg => infinity neg
  | .nan => nan

/-- Reads text as the nearest datum. -/
def read? (s : String) : Option (Datum f) := (Scientific.readReal? s).map ofScientific

/-! ### Shortest digits -/

/-- Compares `m / 2 ^ s` with `j × 10 ^ e`. -/
def cmpDecimal (m s j : Nat) (e : Int) : Ordering :=
  if 0 ≤ e then compare m (j * 10 ^ e.toNat * 2 ^ s)
  else compare (m * 10 ^ (-e).toNat) (j * 2 ^ s)

/-- The largest `e` with `10 ^ e ≤ m / 2 ^ s`, for `m > 0`, searched near a first guess. -/
def decimalExponent (m s : Nat) : Int :=
  let guess : Int := ((Nat.log2 m : Int) - s) * 30103 / 100000
  let below := fun (e : Int) => cmpDecimal m s 1 e != .lt
  let rec up (e : Int) : Nat → Int
    | 0 => e
    | fuel + 1 => if below (e + 1) then up (e + 1) fuel else e
  let rec down (e : Int) : Nat → Int
    | 0 => e
    | fuel + 1 => if below e then e else down (e - 1) fuel
  up (down (guess + 1) 8) 8

/-- The decimals `j × 10 ^ e` nearest below `m / 2 ^ s`, whole part of the quotient. -/
def floorDecimal (m s : Nat) (e : Int) : Nat :=
  if 0 ≤ e then m / (10 ^ e.toNat * 2 ^ s) else m * 10 ^ (-e).toNat / 2 ^ s

/-- The shortest decimal `(digits, exponent)` of a positive finite magnitude of `m` units: fewest
significant digits inside the rounding interval, then nearest, ties to the larger. -/
def shortestOf (m : Nat) : Nat × Int :=
  let s := f.unitShift + 1
  let k := f.spacingExp m
  let high := 2 ^ k
  let low := if 0 < k && m = 2 ^ (f.fractionBits + k) then 2 ^ (k - 1) else 2 ^ k
  let even := (m / 2 ^ k) % 2 == 0
  let v := 2 * m
  let inside := fun (j : Nat) (e : Int) =>
    let lo := cmpDecimal (v - low) s j e
    let hi := cmpDecimal (v + high) s j e
    (lo == .lt || (even && lo == .eq)) && (hi == .gt || (even && hi == .eq))
  let e10 := decimalExponent v s
  let rec search (n : Nat) : Nat → Nat × Int
    | 0 => (floorDecimal v s (e10 - 16), e10 - 16)
    | fuel + 1 =>
      let e := e10 - n + 1
      let j := floorDecimal v s e
      let lowIn := inside j e
      let highIn := inside (j + 1) e
      if lowIn && highIn then
        -- distances from the value: v - j·10^e against (j+1)·10^e - v, doubled
        if cmpDecimal (2 * v) s (2 * j + 1) e == .lt then (j, e) else (j + 1, e)
      else if lowIn then (j, e)
      else if highIn then (j + 1, e)
      else search (n + 1) fuel
  search 1 20

/-- Drops trailing zeros of the digits, raising the exponent. -/
def normalizeDigits (d : Nat) (e : Int) : Nat × Int :=
  let rec go (d : Nat) (e : Int) : Nat → Nat × Int
    | 0 => (d, e)
    | fuel + 1 => if d ≠ 0 && d % 10 = 0 then go (d / 10) (e + 1) fuel else (d, e)
  go d e 40

/-- The shortest digits of a finite non-zero magnitude, as text, and the decimal exponent of
the first digit plus one (the number of digits before the point). -/
def shortest (m : Nat) : String × Int :=
  let (d, e) := shortestOf (f := f) m
  let (d, e) := normalizeDigits d e
  let ds := String.ofList (Nat.toDigits 10 d)
  (ds, e + ds.length)

/-- Lays digits out positionally, with at least `minFrac` digits after the point. -/
def positional (ds : String) (point : Int) (minFrac : Nat) : String :=
  let n : Int := ds.length
  let pad := fun (k : Nat) => String.ofList (List.replicate k '0')
  if point ≤ 0 then
    let body := "0." ++ pad (-point).toNat ++ ds
    let frac := (-point).toNat + ds.length
    body ++ pad (minFrac - frac)
  else if point < n then
    let whole := String.ofList (ds.toList.take point.toNat)
    let frac := String.ofList (ds.toList.drop point.toNat)
    whole ++ "." ++ frac ++ pad (minFrac - frac.length)
  else
    ds ++ pad (point - n).toNat ++ (if minFrac = 0 then "" else "." ++ pad minFrac)

/-- Lays digits out as `d.ddd` followed by `e` and the exponent. -/
def exponential (ds : String) (point : Int) : String :=
  let cs := ds.toList
  let head := String.ofList (cs.take 1)
  let tail := String.ofList (cs.drop 1)
  head ++ (if tail.isEmpty then "" else "." ++ tail) ++ "e" ++ toString (point - 1)

/-- How a number is written: positional text with `minFrac` fraction digits at least inside
the magnitudes `[low, high)` (and for zero), exponent form outside when `low` is given. -/
structure Layout where
  minFrac : Nat
  low : Option Scientific
  high : Option Scientific

/-- The text of a datum under a layout. -/
def textWith (x : Datum f) (layout : Layout) : String :=
  match x.kind with
  | .nan => "NaN"
  | .infinite neg => if neg then "-inf" else "inf"
  | .finite neg m =>
    let sign := if neg then "-" else ""
    if m = 0 then sign ++ positional "0" 1 layout.minFrac
    else
      let (ds, point) := shortest (f := f) m
      let a := x.abs
      let atLeast := match layout.low with
        | some b => (ofScientific b : Datum f).le a
        | none => true
      let under := match layout.high with
        | some b => a.lt (ofScientific b : Datum f)
        | none => true
      if atLeast && under then sign ++ positional ds point layout.minFrac
      else sign ++ exponential ds point

/-- The debugging text of a number: positional with at least one fraction digit from `1e-4`
up to below `1e16`, in exponent form elsewhere. -/
def debugLayout : Layout := ⟨1, some (.number false 1 (-4)), some (.number false 1 16)⟩

/-- The plain text of a number: always positional, no fraction digits unless needed. -/
def plainLayout : Layout := ⟨0, none, none⟩

/-- The debugging text of a datum (`10.0`, `0.13333334`, `1e-45`, `inf`, `NaN`). -/
def debugText (x : Datum f) : String := x.textWith debugLayout

/-- The plain text of a datum (`1000`, `0.5`). -/
def plainText (x : Datum f) : String := x.textWith plainLayout

end Datum

end DeskPanel.Binary
