/-!
# Doubles and decimals

The decimal that a double is written as: of the decimals that read back as the double, one with the
fewest digits, and of those the nearest. Everything is decided in exact arithmetic on natural numbers.
A double is `mantissa * 2 ^ exponent`; the reals that round to it form an interval around it, whose
bounds belong to it when the mantissa is even. If any point of a decimal grid lies in that interval
then one of the value's two neighbours on the grid does, so only those are tried. Both may be equally
near, and then a rule of the format chooses.

The other way, a decimal is read as the double nearest to it, ties to the even mantissa. Decimals far
outside the range of doubles are settled first, so that no power of ten is formed that the answer does
not need.
-/

namespace SchemaTyping.Decimal

/-- The magnitude of a finite double, `mantissa * 2 ^ exponent`. -/
structure Magnitude where
  mantissa : Nat
  exponent : Int
  deriving DecidableEq, Repr

def Magnitude.ofFloat (x : Float) : Magnitude :=
  let bits := x.toBits.toNat
  let fraction : Nat := bits % 0x10000000000000
  let biased : Nat := bits / 0x10000000000000 % 0x800
  if biased = 0 then ⟨fraction, -1074⟩ else ⟨0x10000000000000 + fraction, biased - 1075⟩

def isNegative (x : Float) : Bool :=
  0x8000000000000000 ≤ x.toBits.toNat

def isFinite (x : Float) : Bool :=
  x.toBits.toNat / 0x10000000000000 % 0x800 ≠ 0x7ff

/-- The number `digits * 10 ^ exponent`. -/
structure Scientific where
  digits : Nat
  exponent : Int
  deriving DecidableEq, Repr

def digitCount (n : Nat) : Nat :=
  (Nat.toDigits 10 n).length

def powerNum (base : Nat) (exponent : Int) : Nat :=
  Nat.pow base exponent.toNat

def powerDen (base : Nat) (exponent : Int) : Nat :=
  Nat.pow base (-exponent).toNat

/-- Which of two decimals is written for a double right between them. -/
inductive TieRule where
  /-- The one with an even last digit. -/
  | toEven
  /-- The greater one. -/
  | upward
  deriving DecidableEq, Repr

def TieRule.choose : TieRule → Nat → Nat
  | .toEven, below => if below % 2 = 0 then below else below + 1
  | .upward, below => below + 1

namespace Magnitude

/-- The lower bound of the reals that round to the double, in quarters of the mantissa's last place.
Below a power of two the doubles lie twice as close. -/
def lowQuarters (x : Magnitude) : Nat :=
  if x.mantissa = 0x10000000000000 ∧ -1074 < x.exponent then 4 * x.mantissa - 1 else 4 * x.mantissa - 2

/-- The upper bound of the reals that round to the double, in the same unit. -/
def highQuarters (x : Magnitude) : Nat :=
  4 * x.mantissa + 2

/-- The least `k` with the value below `10 ^ k`, for a value above zero. -/
def pointPosition (x : Magnitude) : Int :=
  let num := x.mantissa * powerNum 2 x.exponent
  let den := powerDen 2 x.exponent
  if den ≤ num then digitCount (num / den) else 1 - (digitCount ((den - 1) / num) : Int)

/-- The multiple of `10 ^ grid` that is nearest to the value among the value's two neighbours that
round to it, if one does. -/
def onGrid? (ties : TieRule) (x : Magnitude) (grid : Int) : Option Nat :=
  let step := powerNum 10 grid * powerDen 2 (x.exponent - 2)
  let quarter := powerNum 2 (x.exponent - 2) * powerDen 10 grid
  let value := 4 * x.mantissa * quarter
  let low := x.lowQuarters * quarter
  let high := x.highQuarters * quarter
  let inside (point : Nat) : Bool :=
    if x.mantissa % 2 = 0 then low ≤ point && point ≤ high else low < point && point < high
  let below := value / step
  let above := below + 1
  match inside (below * step), inside (above * step) with
  | false, false => none
  | true, false => some below
  | false, true => some above
  | true, true =>
    match compare (value - below * step) (above * step - value) with
    | .lt => some below
    | .gt => some above
    | .eq => some (ties.choose below)

/-- The shortest decimal among those with `size` digits and, for `more` further grids, with more. -/
def shortestFrom (ties : TieRule) (x : Magnitude) (point : Int) : (more size : Nat) → Scientific
  | 0, size => ⟨0, point - size⟩
  | more + 1, size =>
    match x.onGrid? ties (point - size) with
    | some digits => if digits = powerNum 10 size then ⟨1, point⟩ else ⟨digits, point - size⟩
    | none => x.shortestFrom ties point more (size + 1)

/-- The shortest decimal that reads back as the value. Seventeen digits always suffice. -/
def shortest (ties : TieRule) (x : Magnitude) : Scientific :=
  if x.mantissa = 0 then ⟨0, 0⟩ else x.shortestFrom ties x.pointPosition 17 1

end Magnitude

/-! ### Reading decimals -/

def Scientific.nearest (x : Scientific) : Float :=
  let point := digitCount x.digits + x.exponent
  if x.digits = 0 ∨ point < -400 then 0
  else if 400 < point then 1 / 0
  else if 0 ≤ x.exponent then Float.ofScientific x.digits false x.exponent.natAbs
  else Float.ofScientific x.digits true x.exponent.natAbs

def powerOfTen (exponent : Nat) : Float :=
  Scientific.nearest ⟨1, exponent⟩

end SchemaTyping.Decimal
