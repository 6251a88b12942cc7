import Mathlib.Algebra.Order.Ring.Int
import Mathlib.Tactic.Common

/-!
Finite decimal numbers with the arithmetic of Python's default context: 28
digits, ties to even. A number keeps its exponent, which its text shows.
-/
namespace Automation

structure Decimal where
  coefficient : Int
  exponent : Int
  deriving DecidableEq

namespace Decimal

def ofNat (n : Nat) : Decimal := ⟨n,0⟩

/-- Numbers are compared by value, at the smaller of their exponents. -/
def le (a b : Decimal) : Bool :=
  decide (a.coefficient * 10 ^ (a.exponent - b.exponent).toNat ≤ b.coefficient * 10 ^ (b.exponent - a.exponent).toNat)

def lt (a b : Decimal) : Bool := !b.le a

def prec : Nat := 28

def digits (n : Nat) : List Char := Nat.toDigits 10 n

def negate (negative : Bool) (n : Nat) : Int := if negative then -(n : Int) else n

/-- `_fix`: the coefficient is rounded to `prec` digits, half to even. -/
def fix (d : Decimal) : Decimal :=
  let surplus := (digits d.coefficient.natAbs).length - prec
  if surplus = 0 then d
  else
    let unit := 10 ^ surplus
    let kept := d.coefficient.natAbs / unit
    let lost := d.coefficient.natAbs % unit
    let rounded := if unit < 2 * lost ∨ (2 * lost = unit ∧ kept % 2 = 1) then kept + 1 else kept
    -- a carry out of the leading digit leaves a zero at the end
    if prec < (digits rounded).length then ⟨negate (d.coefficient < 0) (rounded / 10),d.exponent + surplus + 1⟩
    else ⟨negate (d.coefficient < 0) rounded,d.exponent + surplus⟩

def mul (a b : Decimal) : Decimal := fix ⟨a.coefficient * b.coefficient,a.exponent + b.exponent⟩

/-- Trailing zeros of an exact quotient go, as long as the exponent is below the ideal one. -/
def reduce (ideal : Int) : Nat → Nat → Int → Nat × Int
  | 0, coefficient, exponent => (coefficient,exponent)
  | fuel+1, coefficient, exponent =>
    if exponent < ideal ∧ coefficient % 10 = 0 then reduce ideal fuel (coefficient / 10) (exponent + 1)
    else (coefficient,exponent)

/-- `__truediv__` by a number other than zero. -/
def div (a b : Decimal) : Decimal :=
  let ideal := a.exponent - b.exponent
  if a.coefficient = 0 then fix ⟨0,ideal⟩
  else
    let shift : Int := (digits b.coefficient.natAbs).length - (digits a.coefficient.natAbs).length + prec + 1
    let dividend := a.coefficient.natAbs * 10 ^ shift.toNat
    let divisor := b.coefficient.natAbs * 10 ^ (-shift).toNat
    let quotient := dividend / divisor
    let negative := decide (a.coefficient < 0) != decide (b.coefficient < 0)
    if dividend % divisor ≠ 0 then
      -- the digit below the precision must not look like a tie
      fix ⟨negate negative (if quotient % 5 = 0 then quotient + 1 else quotient),ideal - shift⟩
    else
      let (coefficient,exponent) := reduce ideal shift.toNat quotient (ideal - shift)
      fix ⟨negate negative coefficient,exponent⟩

/-- `format(value, "f")`. -/
def text (d : Decimal) : String :=
  let written := digits d.coefficient.natAbs
  let dot : Int := d.exponent + written.length
  let (whole,fraction) : List Char × List Char :=
    if d.coefficient = 0 ∧ 0 < d.exponent then (['0'],[])
    else if dot < 0 then (['0'],List.replicate (-dot).toNat '0' ++ written)
    else if written.length < dot then (written ++ List.replicate (dot - written.length).toNat '0',[])
    else (if dot = 0 then ['0'] else written.take dot.toNat,written.drop dot.toNat)
  (if d.coefficient < 0 then "-" else "") ++ String.ofList whole ++
    (if fraction.isEmpty then "" else "." ++ String.ofList fraction)

end Decimal
end Automation
