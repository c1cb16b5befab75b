/-!
# Value/Floating — binary floating numbers

A finite floating number is a sign and `mantissa × 2 ^ exponent`, with a mantissa of at most 53
binary digits: of exactly 53 unless the exponent is the least one.  `nearest` takes a quotient to
the floating number closest to it, a tie to the one with the even mantissa.
-/

namespace BrowserRemote

/-- A floating number: `mantissa × 2 ^ exponent` with a sign, an infinity, or no number. -/
inductive Floating where
  | notANumber
  | infinite (negative : Bool)
  | finite (negative : Bool) (mantissa : Nat) (exponent : Int)
deriving DecidableEq, Repr

namespace Floating

/-- The exponent below which no floating number counts. -/
def leastExponent : Int := -1074

/-- The exponent of the largest floating numbers. -/
def greatestExponent : Int := 971

/-! ## Quotients -/

/-- A quotient to the nearest whole number, a half to the even one. -/
def roundDiv (n d : Nat) : Nat :=
  if 2 * (n % d) < d ∨ (2 * (n % d) = d ∧ n / d % 2 = 0) then n / d else n / d + 1

/-- The quotient `n / d` in units of `b ^ e`, as a quotient. -/
def inUnits (b : Nat) (e : Int) (n d : Nat) : Nat × Nat :=
  if 0 ≤ e then (n, d * b.pow e.toNat) else (n * b.pow (-e).toNat, d)

/-- The exponent at which a quotient has a mantissa of 53 binary digits, or the least one. -/
def exponentOf (n d : Nat) : Int :=
  let e : Int := n.log2 - d.log2 - 52
  let (a, b) := inUnits 2 e n d
  max leastExponent (if a / b < Nat.pow 2 52 then e - 1 else e)

/-- **The floating number nearest to a quotient**, with a sign. -/
def nearest (negative : Bool) (n d : Nat) : Floating :=
  if n = 0 then .finite negative 0 leastExponent
  else
    let e := exponentOf n d
    let (a, b) := inUnits 2 e n d
    let m := roundDiv a b
    let (m, e) := if m = Nat.pow 2 53 then (Nat.pow 2 52, e + 1) else (m, e)
    if greatestExponent < e then .infinite negative else .finite negative m e

/-- The quotient a mantissa and an exponent stand for. -/
def quotient (mantissa : Nat) (exponent : Int) : Nat × Nat := inUnits 2 (-exponent) mantissa 1

/-! ## Equality -/

/-- Zero, of either sign. -/
def isZero : Floating → Bool
  | .finite _ 0 _ => true
  | _ => false

/-- Equality of numbers: the sign of zero does not count, and what is no number equals nothing. -/
def same : Floating → Floating → Bool
  | .notANumber, _ => false
  | x, y => x == y || (x.isZero && y.isZero)

/-- **Equality with a whole number**, exact at every size. -/
def isInt (n : Int) : Floating → Bool
  | .finite negative mantissa exponent =>
    let (a, b) := quotient mantissa exponent
    (if negative then -(a : Int) else a) == n * b
  | _ => false

end Floating

end BrowserRemote
