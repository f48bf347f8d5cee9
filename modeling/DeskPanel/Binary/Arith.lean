import DeskPanel.Binary.Datum

/-!
# Correctly rounded arithmetic

Each operation computes the exact result in rational units and rounds it once with
`Datum.ofRatio`, so every result is the correctly rounded one (round to nearest, ties to even).
The special values follow IEEE 754: invalid operations (`∞ - ∞`, `0 · ∞`, `0 / 0`, `∞ / ∞`) give
the quiet NaN, an exact zero sum is `+0` unless both addends are `-0`.

## Main definitions

* `Datum.add`, `Datum.sub`, `Datum.mul`, `Datum.div`.
* `Datum.compare?` — the order of the values, `none` when a NaN takes part; `lt`, `le`, `beq`.
* `Datum.floor`, `Datum.ceil`, `Datum.trunc`, `Datum.round` — integral values of the format.
* `Datum.toIntSat` — conversion to an integer range that saturates and sends NaN to zero.
* `Datum.convert` — the nearest datum of another format.
-/

namespace DeskPanel.Binary

namespace Datum

variable {f : Format}

/-- The signed exact value of a finite datum, in units. -/
def signedUnits (neg : Bool) (m : Nat) : Int := if neg then -(m : Int) else m

/-- The datum nearest to a signed integer number of units; an exact zero takes sign `z`. -/
def ofUnits (v : Int) (z : Bool) : Datum f :=
  if v = 0 then zero z else ofRatio (decide (v < 0)) v.natAbs 1

/-- Sum. -/
def add (x y : Datum f) : Datum f :=
  match x.kind, y.kind with
  | .nan, _ => nan
  | _, .nan => nan
  | .infinite a, .infinite b => if a = b then infinity a else nan
  | .infinite a, _ => infinity a
  | _, .infinite b => infinity b
  | .finite a m, .finite b n => ofUnits (signedUnits a m + signedUnits b n) (a && b)

/-- Difference. -/
def sub (x y : Datum f) : Datum f := add x y.neg

/-- Product. -/
def mul (x y : Datum f) : Datum f :=
  match x.kind, y.kind with
  | .nan, _ => nan
  | _, .nan => nan
  | .infinite a, .infinite b => infinity (a != b)
  | .infinite a, .finite b n => if n = 0 then nan else infinity (a != b)
  | .finite a m, .infinite b => if m = 0 then nan else infinity (a != b)
  | .finite a m, .finite b n => ofRatio (a != b) (m * n) (2 ^ f.unitShift)

/-- Quotient. -/
def div (x y : Datum f) : Datum f :=
  match x.kind, y.kind with
  | .nan, _ => nan
  | _, .nan => nan
  | .infinite _, .infinite _ => nan
  | .infinite a, .finite b _ => infinity (a != b)
  | .finite a _, .infinite b => zero (a != b)
  | .finite a m, .finite b n =>
    if n = 0 then (if m = 0 then nan else infinity (a != b))
    else ofRatio (a != b) (m * 2 ^ f.unitShift) n

instance : Add (Datum f) := ⟨add⟩
instance : Sub (Datum f) := ⟨sub⟩
instance : Mul (Datum f) := ⟨mul⟩
instance : Div (Datum f) := ⟨div⟩
instance : Neg (Datum f) := ⟨neg⟩

/-- Where a value stands on the extended line: `-∞`, a finite number of units, or `+∞`. -/
inductive Place where
  | below
  | at (v : Int)
  | above
  deriving DecidableEq

/-- The place of a datum that is not a NaN. -/
def place? (x : Datum f) : Option Place :=
  match x.kind with
  | .nan => none
  | .infinite true => some .below
  | .infinite false => some .above
  | .finite a m => some (.at (signedUnits a m))

/-- The order of two places. -/
def Place.cmp : Place → Place → Ordering
  | .below, .below => .eq
  | .below, _ => .lt
  | _, .below => .gt
  | .above, .above => .eq
  | .above, _ => .gt
  | _, .above => .lt
  | .at a, .at b => compare a b

/-- The order of the values; `none` when either is a NaN. -/
def compare? (x y : Datum f) : Option Ordering := do
  let a ← x.place?
  let b ← y.place?
  pure (a.cmp b)

/-- Whether `x < y`; false when a NaN takes part. -/
def lt (x y : Datum f) : Bool := x.compare? y == some .lt

/-- Whether `x ≤ y`; false when a NaN takes part. -/
def le (x y : Datum f) : Bool := x.compare? y == some .lt || x.compare? y == some .eq

/-- Equality of values (`-0 = +0`, a NaN equals nothing). -/
def beq (x y : Datum f) : Bool := x.compare? y == some .eq

/-- The smaller value, the other one when a NaN takes part. -/
def min (x y : Datum f) : Datum f :=
  if x.isNaN then y else if y.isNaN then x else if y.lt x then y else x

/-- The larger value, the other one when a NaN takes part. -/
def max (x y : Datum f) : Datum f :=
  if x.isNaN then y else if y.isNaN then x else if x.lt y then y else x

/-- Integral rounding of a finite datum: `step q r` gives the integral magnitude from the whole
part `q` and the remainder `r` of the magnitude over one. -/
def integral (x : Datum f) (step : Bool → Nat → Nat → Nat) : Datum f :=
  match x.kind with
  | .finite a m =>
    let one := 2 ^ f.unitShift
    let q := step a (m / one) (m % one)
    if q = 0 then zero a else ofRatio a (q * one) 1
  | _ => x

/-- Rounding toward zero. -/
def trunc (x : Datum f) : Datum f := x.integral fun _ q _ => q

/-- Rounding toward `-∞`. -/
def floor (x : Datum f) : Datum f := x.integral fun a q r => if a && r != 0 then q + 1 else q

/-- Rounding toward `+∞`. -/
def ceil (x : Datum f) : Datum f := x.integral fun a q r => if !a && r != 0 then q + 1 else q

/-- Rounding to nearest with halves away from zero. -/
def round (x : Datum f) : Datum f :=
  x.integral fun _ q r => if 2 ^ f.unitShift ≤ 2 * r then q + 1 else q

/-- The whole part toward zero of a finite datum, as an integer. -/
def truncInt (neg : Bool) (m : Nat) : Int :=
  signedUnits neg (m / 2 ^ f.unitShift)

/-- Conversion to an integer range: toward zero, saturating, NaN to zero. -/
def toIntSat (lo hi : Int) (x : Datum f) : Int :=
  match x.kind with
  | .nan => 0
  | .infinite true => lo
  | .infinite false => hi
  | .finite a m => Max.max lo (Min.min hi (truncInt (f := f) a m))

/-- The datum of format `g` nearest to `x`. -/
def convert {g : Format} (x : Datum f) : Datum g :=
  match x.kind with
  | .nan => Datum.nan
  | .infinite a => Datum.infinity a
  | .finite a m =>
    if m = 0 then Datum.zero a
    else Datum.ofRatio a (m * 2 ^ g.unitShift) (2 ^ f.unitShift)

end Datum

end DeskPanel.Binary
