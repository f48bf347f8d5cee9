import DeskPanel.Word

/-!
# Binary floating-point data

An IEEE 754 binary interchange format is fixed by its precision (significand bits, hidden bit
included) and the width of its exponent field. A datum is a bit pattern of the format. Every
finite datum is a whole multiple of the smallest subnormal number, its *unit*, so a finite
magnitude is a natural number of units and all exact arithmetic happens in `Nat`.

Rounding takes an exact non-negative rational number of units to the nearest magnitude with a
`precision`-bit significand, ties to an even significand, and then to infinity when that
magnitude exceeds the largest finite one (round to nearest, IEEE 754 §4.3.1 and §7.4).

## Main definitions

* `Format`, `Format.single`, `Format.double` — formats by precision and exponent width.
* `Datum` — a bit pattern of a format; `Datum.kind` reads it as a finite magnitude, an
  infinity or a NaN.
* `Format.roundUnits` — nearest representable magnitude to a rational number of units.
* `Datum.ofRatio` — the datum nearest to a signed rational number of units.
-/

namespace DeskPanel.Binary

/-- A binary interchange format: significand precision and exponent field width. -/
structure Format where
  precision : Nat
  exponentBits : Nat
  deriving DecidableEq, Repr

namespace Format

/-- The 32-bit format. -/
def single : Format := ⟨24, 8⟩

/-- The 64-bit format. -/
def double : Format := ⟨53, 11⟩

/-- Stored significand bits. -/
def fractionBits (f : Format) : Nat := f.precision - 1

/-- The all-ones exponent field, which marks infinities and NaNs. -/
def topField (f : Format) : Nat := 2 ^ f.exponentBits - 1

/-- The exponent bias. -/
def bias (f : Format) : Nat := 2 ^ (f.exponentBits - 1) - 1

/-- The smallest subnormal number is `2 ^ -unitShift`. -/
def unitShift (f : Format) : Nat := f.bias + f.precision - 2

/-- The largest finite magnitude, in units. -/
def maxFinite (f : Format) : Nat := (2 ^ f.precision - 1) * 2 ^ (f.topField - 2)

/-- Position of the sign bit. -/
def signBit (f : Format) : Nat := f.exponentBits + f.fractionBits

/-- The spacing, as a power of two, of representable magnitudes near `t` units. -/
def spacingExp (f : Format) (t : Nat) : Nat :=
  if t < 2 ^ f.precision then 0 else Nat.log2 t - f.fractionBits

/-- The representable magnitude nearest to `num / den` units, ties to an even significand, with
the exponent unbounded above. -/
def roundUnits (f : Format) (num den : Nat) : Nat :=
  let k := f.spacingExp (num / den)
  let d := den * 2 ^ k
  let q := num / d
  let r := num % d
  let up := decide (d < 2 * r) || (decide (2 * r = d) && q % 2 == 1)
  (if up then q + 1 else q) * 2 ^ k

end Format

/-- A datum of format `f`, by its bit pattern (sign bit highest). -/
structure Datum (f : Format) where
  bits : Nat
  deriving DecidableEq, Repr, Inhabited

/-- What a datum stands for. -/
inductive Kind where
  /-- A finite number: sign and magnitude in units. -/
  | finite (neg : Bool) (mag : Nat)
  /-- An infinity. -/
  | infinite (neg : Bool)
  /-- Not a number. -/
  | nan
  deriving DecidableEq, Repr

namespace Datum

variable {f : Format}

/-- The stored significand bits. -/
def fraction (x : Datum f) : Nat := x.bits % 2 ^ f.fractionBits

/-- The exponent field. -/
def field (x : Datum f) : Nat := x.bits / 2 ^ f.fractionBits % 2 ^ f.exponentBits

/-- Whether the sign bit is set. -/
def negative (x : Datum f) : Bool := x.bits / 2 ^ f.signBit % 2 == 1

/-- The reading of a bit pattern. -/
def kind (x : Datum f) : Kind :=
  if x.field = f.topField then
    if x.fraction = 0 then .infinite x.negative else .nan
  else if x.field = 0 then .finite x.negative x.fraction
  else .finite x.negative ((x.fraction + 2 ^ f.fractionBits) * 2 ^ (x.field - 1))

/-- The sign bit alone. -/
def signPart (neg : Bool) : Nat := if neg then 2 ^ f.signBit else 0

/-- The datum of a representable magnitude. -/
def ofMag (neg : Bool) (m : Nat) : Datum f :=
  if m < 2 ^ f.fractionBits then ⟨signPart (f := f) neg + m⟩
  else
    let k := Nat.log2 m - f.fractionBits
    ⟨signPart (f := f) neg + (k + 1) * 2 ^ f.fractionBits + (m / 2 ^ k - 2 ^ f.fractionBits)⟩

/-- An infinity. -/
def infinity (neg : Bool) : Datum f := ⟨signPart (f := f) neg + f.topField * 2 ^ f.fractionBits⟩

/-- The quiet NaN that invalid operations give. -/
def nan : Datum f := ⟨f.topField * 2 ^ f.fractionBits + 2 ^ (f.fractionBits - 1)⟩

/-- A zero of either sign. -/
def zero (neg : Bool := false) : Datum f := ⟨signPart (f := f) neg⟩

/-- The datum nearest to the signed number `num / den` units. -/
def ofRatio (neg : Bool) (num den : Nat) : Datum f :=
  let m := f.roundUnits num den
  if f.maxFinite < m then infinity neg else ofMag neg m

/-- The datum nearest to an integer. -/
def ofInt (i : Int) : Datum f := ofRatio (decide (i < 0)) (i.natAbs * 2 ^ f.unitShift) 1

/-- Whether the datum is a NaN. -/
def isNaN (x : Datum f) : Bool := x.kind == .nan

/-- Whether the datum is finite. -/
def isFinite (x : Datum f) : Bool :=
  match x.kind with
  | .finite _ _ => true
  | _ => false

/-- The same datum with the sign bit cleared. -/
def abs (x : Datum f) : Datum f := ⟨x.bits % 2 ^ f.signBit⟩

/-- The same datum with the sign bit flipped. -/
def neg (x : Datum f) : Datum f :=
  if x.negative then ⟨x.bits - 2 ^ f.signBit⟩ else ⟨x.bits + 2 ^ f.signBit⟩

/-- The magnitude with the sign of `s`. -/
def copySign (x s : Datum f) : Datum f := if s.negative then x.abs.neg else x.abs

end Datum

end DeskPanel.Binary

namespace DeskPanel

/-- Single-precision binary floating-point data. -/
abbrev Binary32 := Binary.Datum Binary.Format.single

/-- Double-precision binary floating-point data. -/
abbrev Binary64 := Binary.Datum Binary.Format.double

end DeskPanel
