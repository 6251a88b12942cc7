import Automation.PyText
import Mathlib.Algebra.Order.Ring.Rat

/-!
Binary floating point numbers of 64 bits: a finite number by its value, rounded to
the nearest and to even, and what Python's `float` reads from a text. The two
zeros are one number here.
-/
namespace Automation
open Automation.PyText

inductive Binary64 where
  | finite (value : Rat)
  | infinite (negative : Bool)
  | nan
  deriving DecidableEq

namespace Binary64

/-- `n / d`, rounded half to even. -/
def divHalfEven (n d : Nat) : Nat :=
  let quotient := n / d
  let rest := n % d
  if d < 2 * rest ∨ (2 * rest = d ∧ quotient % 2 = 1) then quotient + 1 else quotient

/-- `n * 2 ^ e` for a quotient. -/
def scale (n : Nat) (e : Int) : Rat := if 0 ≤ e then n * 2 ^ e.toNat else (n : Rat) / 2 ^ (-e).toNat

/-- The exponent of the last of 53 digits of `n / d`, which is not below that of the subnormal numbers. -/
def unit (n d : Nat) : Int :=
  let estimate : Int := (Nat.log2 n : Int) - Nat.log2 d
  let below : Bool := if 0 ≤ estimate then n < d * 2 ^ estimate.toNat else n * 2 ^ (-estimate).toNat < d
  max ((if below then estimate - 1 else estimate) - 52) (-1074)

/-- The number nearest to `n / d`. -/
def ofQuotient (negative : Bool) (n d : Nat) : Binary64 :=
  if n = 0 then .finite 0
  else
    let e := unit n d
    let digits := if 0 ≤ e then divHalfEven n (d * 2 ^ e.toNat) else divHalfEven (n * 2 ^ (-e).toNat) d
    let value := scale digits e
    if 2 ^ 1024 ≤ value then .infinite negative else .finite (if negative then -value else value)

/-- `float(n)`; `none` where it raises. -/
def ofInt (n : Int) : Option Binary64 :=
  match ofQuotient (n < 0) n.natAbs 1 with
  | .infinite _ => none
  | x => some x

/-- `x < y`; no comparison holds of `nan`. -/
def lt : Binary64 → Binary64 → Bool
  | .finite x, .finite y => x < y
  | .finite _, .infinite negative => !negative
  | .infinite negative, .finite _ => negative
  | .infinite negative, .infinite negative' => negative && !negative'
  | .nan, _ => false
  | _, .nan => false

/-- `x <= y`. -/
def le : Binary64 → Binary64 → Bool
  | .finite x, .finite y => x ≤ y
  | .finite _, .infinite negative => !negative
  | .infinite negative, .finite _ => negative
  | .infinite negative, .infinite negative' => negative || !negative'
  | .nan, _ => false
  | _, .nan => false

/-- `min(x,y)`, which is `x` unless `y < x`. -/
def pyMin (x y : Binary64) : Binary64 := if y.lt x then y else x

/-- `max(x,y)`, which is `x` unless `x < y`. -/
def pyMax (x y : Binary64) : Binary64 := if x.lt y then y else x

theorem le_of_not_lt {x y : Binary64} (left : x ≠ .nan) (right : y ≠ .nan) (notLess : x.lt y = false) : y.le x = true := by
  cases x with
  | finite x =>
    cases y with
    | finite y => simpa [lt,le] using notLess
    | infinite negative => simpa [lt,le] using notLess
    | nan => exact absurd rfl right
  | infinite negative =>
    cases y with
    | finite y => simpa [lt,le] using notLess
    | infinite negative' => cases negative <;> cases negative' <;> simp_all [lt,le]
    | nan => exact absurd rfl right
  | nan => exact absurd rfl left

/-- Digits with single underscores between them, or nothing. -/
def digitGroups (numeral : List Char) : Option (List Char) :=
  if numeral.isEmpty then some []
  else
    let groups := splitAt '_' numeral
    if groups.all fun group => !group.isEmpty && group.all isDecimal then some groups.flatten else none

/-- The number of an exponent. -/
def exponent : List Char → Option Int
  | '-' :: numeral => (digitGroups numeral).bind fun digits => if digits.isEmpty then none else some (-(natOfDigits digits : Int))
  | '+' :: numeral => (digitGroups numeral).bind fun digits => if digits.isEmpty then none else some (natOfDigits digits)
  | numeral => (digitGroups numeral).bind fun digits => if digits.isEmpty then none else some (natOfDigits digits)

def isExponentMark (c : Char) : Bool := c == 'e' || c == 'E'

/-- A numeral without a sign. -/
def unsigned (negative : Bool) (numeral : List Char) : Option Binary64 :=
  let word := numeral.map Char.toLower
  if word = "inf".toList ∨ word = "infinity".toList then some (.infinite negative)
  else if word = "nan".toList then some .nan
  else
    let mantissa := numeral.takeWhile fun c => !isExponentMark c
    let whole := mantissa.takeWhile (· ≠ '.')
    match digitGroups whole,digitGroups (mantissa.drop (whole.length + 1)),
        (if mantissa.length < numeral.length then exponent (numeral.drop (mantissa.length + 1)) else some 0) with
    | some before,some after,some power =>
      if before.isEmpty && after.isEmpty then none
      else
        let shift : Int := power - after.length
        let n := natOfDigits (before ++ after)
        some (if 0 ≤ shift then ofQuotient negative (n * 10 ^ shift.toNat) 1 else ofQuotient negative n (10 ^ (-shift).toNat))
    | _,_,_ => none

/-- `float(text)`; `none` where it raises. -/
def ofText (text : String) : Option Binary64 :=
  match stripBy isSpace text.toList with
  | '-' :: numeral => unsigned true numeral
  | '+' :: numeral => unsigned false numeral
  | numeral => unsigned false numeral

example : ofText " 0.7 " = some (.finite (3152519739159347 / 4503599627370496)) := by decide +kernel
example : ofText "1_0e-1" = some (.finite 1) := by decide +kernel
example : ofText "1e400" = some (.infinite false) := by decide +kernel

end Binary64
end Automation
