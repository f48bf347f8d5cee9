/-!
# Machine words and checked arithmetic

The panel computes its geometry in fixed-width integers whose arithmetic is checked: a sum,
difference or product that leaves the range of its type stops the program with a fault that
names the operation. Values are kept as `Int` together with the range they live in, so that
statements about layouts can be made in plain integer arithmetic.

Powers are taken by core's operations (`natPow`, `intPow`), so a definition that raises to a
power means the same in every context.

## Main definitions

* `Overflow` — the three arithmetic faults and their messages.
* `Checked` — computations that may stop with one of them.
* `IntRange` — the range of a machine integer type, with checked `add`, `sub`, `mul`,
  saturating and wrapping conversions.
-/

namespace DeskPanel

/-- Powers of natural numbers are core's: every power the panel computes reads the same
wherever it is elaborated, also where a library supplies a power for every monoid. -/
instance (priority := high) natPow : Pow Nat Nat := instPowNat

/-- Powers of integers are core's, for the same reason. -/
instance (priority := high) intPow : Pow Int Nat := instPowNat

/-- The fault of a checked operation whose exact result left the range of its type. -/
inductive Overflow where
  | add
  | subtract
  | multiply
  deriving DecidableEq, Repr, Inhabited

/-- The message a faulting operation stops with. -/
def Overflow.message : Overflow → String
  | .add => "attempt to add with overflow"
  | .subtract => "attempt to subtract with overflow"
  | .multiply => "attempt to multiply with overflow"

/-- A computation that may stop with an arithmetic fault. -/
abbrev Checked := Except Overflow

/-- The range of a machine integer type, bounds included. -/
structure IntRange where
  lo : Int
  hi : Int
  deriving DecidableEq, Repr

namespace IntRange

/-- Signed 32-bit words. -/
def i32 : IntRange := ⟨-2147483648, 2147483647⟩

/-- Unsigned 32-bit words. -/
def u32 : IntRange := ⟨0, 4294967295⟩

/-- Signed 64-bit words. -/
def i64 : IntRange := ⟨-9223372036854775808, 9223372036854775807⟩

/-- Unsigned 64-bit words; sizes and indexes are words of this width. -/
def u64 : IntRange := ⟨0, 18446744073709551615⟩

/-- Unsigned 8-bit words. -/
def u8 : IntRange := ⟨0, 255⟩

/-- Unsigned 16-bit words. -/
def u16 : IntRange := ⟨0, 65535⟩

/-- Whether `v` is a value of the type. -/
def contains (r : IntRange) (v : Int) : Bool := decide (r.lo ≤ v ∧ v ≤ r.hi)

/-- Checked addition. -/
def add (r : IntRange) (a b : Int) : Checked Int :=
  if r.contains (a + b) then .ok (a + b) else .error .add

/-- Checked subtraction. -/
def sub (r : IntRange) (a b : Int) : Checked Int :=
  if r.contains (a - b) then .ok (a - b) else .error .subtract

/-- Checked multiplication. -/
def mul (r : IntRange) (a b : Int) : Checked Int :=
  if r.contains (a * b) then .ok (a * b) else .error .multiply

/-- The nearest value of the type. -/
def saturate (r : IntRange) (v : Int) : Int := max r.lo (min r.hi v)

/-- Addition that sticks at the ends of the range. -/
def addSat (r : IntRange) (a b : Int) : Int := r.saturate (a + b)

/-- Multiplication that sticks at the ends of the range. -/
def mulSat (r : IntRange) (a b : Int) : Int := r.saturate (a * b)

/-- The value of the type congruent to `v` modulo the size of the range (two's complement). -/
def wrap (r : IntRange) (v : Int) : Int :=
  r.lo + (v - r.lo) % (r.hi - r.lo + 1)

@[simp] theorem contains_iff (r : IntRange) (v : Int) : r.contains v = true ↔ r.lo ≤ v ∧ v ≤ r.hi := by
  simp [contains]

theorem add_eq_ok {r : IntRange} {a b v : Int} (h : r.add a b = .ok v) : v = a + b := by
  unfold add at h
  split at h <;> simp_all

theorem sub_eq_ok {r : IntRange} {a b v : Int} (h : r.sub a b = .ok v) : v = a - b := by
  unfold sub at h
  split at h <;> simp_all

theorem mul_eq_ok {r : IntRange} {a b v : Int} (h : r.mul a b = .ok v) : v = a * b := by
  unfold mul at h
  split at h <;> simp_all

end IntRange

end DeskPanel
