import SchemaTyping.Decimal.Double

/-!
# Laying out decimals

A decimal is written with a point among its digits when the point falls near them, and with an exponent
otherwise. The formats of this library agree in everything but four choices, which a `Layout` records.
-/

namespace SchemaTyping.Decimal

/-- The choices of a number format. `point` counts the digits before the decimal point, and is zero or
negative when zeros stand between the point and the digits. -/
structure Layout where
  /-- The least `point` that is written without an exponent. -/
  leastPoint : Int
  /-- The greatest `point` that is written without an exponent. -/
  greatestPoint : Int
  plusSign : Bool
  ties : TieRule

def natChars (n : Nat) : List Char :=
  Nat.toDigits 10 n

def intChars (i : Int) : List Char :=
  if i < 0 then '-' :: natChars i.natAbs else natChars i.natAbs

/-- Digits with the decimal point after the first `point` of them. At least one digit stands on each
side of it. -/
def positional (digits : List Char) (point : Int) : List Char :=
  if point ≤ 0 then ['0', '.'] ++ List.replicate (-point).toNat '0' ++ digits
  else if digits.length ≤ point then
    digits ++ List.replicate (point.toNat - digits.length) '0' ++ ['.', '0']
  else digits.take point.toNat ++ '.' :: digits.drop point.toNat

/-- Digits with the decimal point after the first of them, if there are more, and an exponent. -/
def scientific (layout : Layout) (digits : List Char) (point : Int) : List Char :=
  let sign := if layout.plusSign && 0 < point - 1 then ['+'] else []
  let fraction := if digits.length ≤ 1 then [] else '.' :: digits.drop 1
  digits.take 1 ++ fraction ++ 'e' :: sign ++ intChars (point - 1)

def Layout.chars (layout : Layout) (x : Float) : List Char :=
  let shortest := (Magnitude.ofFloat x).shortest layout.ties
  let digits := natChars shortest.digits
  let point := digits.length + shortest.exponent
  let magnitude :=
    if shortest.digits = 0 then ['0', '.', '0']
    else if layout.leastPoint ≤ point ∧ point ≤ layout.greatestPoint then positional digits point
    else scientific layout digits point
  if isNegative x then '-' :: magnitude else magnitude

end SchemaTyping.Decimal
