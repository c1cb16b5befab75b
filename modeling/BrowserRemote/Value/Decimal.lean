import BrowserRemote.Value.Floating

/-!
# Value/Decimal — floating numbers read from and written in decimal digits

A floating number is written with the fewest digits that read back to it; of two such decimals
with equally few digits, the nearer one.  It is positional when its first digit stands between the
fourth place after the point and the sixteenth before it, and has an exponent of at least two
digits otherwise.
-/

namespace BrowserRemote.Floating

/-! ## Reading -/

/-- The number written by decimal digits, the first one leading. -/
def natOfDigits (ds : List Char) : Nat := ds.foldl (fun n d => 10 * n + (d.toNat - 0x30)) 0

/-- The decimal digits of a number, the first one leading. -/
def digitsOf (n : Nat) : List Char := Nat.toDigits 10 n

/-- **The floating number nearest to** `digits × 10 ^ scale`.  Decimals beyond the range of all
floating numbers are not written out. -/
def ofDecimal (negative : Bool) (digits : Nat) (scale : Int) : Floating :=
  let point := (digitsOf digits).length + scale
  if digits = 0 ∨ point < -330 then nearest negative 0 1
  else if 310 < point then .infinite negative
  else
    let (n, d) := inUnits 10 (-scale) digits 1
    nearest negative n d

/-- The exponent after its letter, with an optional sign. -/
def exponentOf? : List Char → Option Int
  | '-' :: ds => if ds ≠ [] ∧ ds.all Char.isDigit then some (-(natOfDigits ds : Int)) else none
  | '+' :: ds => if ds ≠ [] ∧ ds.all Char.isDigit then some (natOfDigits ds) else none
  | ds => if ds ≠ [] ∧ ds.all Char.isDigit then some (natOfDigits ds) else none

/-- An unsigned number: digits, a fraction and an exponent, the last two optional. -/
def unsignedOf? (negative : Bool) (cs : List Char) : Option Floating :=
  let whole := cs.takeWhile Char.isDigit
  let rest := cs.dropWhile Char.isDigit
  let (fraction, rest) := match rest with
    | '.' :: r => (r.takeWhile Char.isDigit, r.dropWhile Char.isDigit)
    | r => ([], r)
  let scale : Option Int := match rest with
    | [] => some 0
    | 'e' :: r => exponentOf? r
    | _ => none
  if whole = [] then none
  else scale.map fun e => ofDecimal negative (natOfDigits (whole ++ fraction)) (e - fraction.length)

/-- The number a text writes. -/
def ofText? (s : String) : Option Floating :=
  match s with
  | "nan" => some .notANumber
  | "inf" => some (.infinite false)
  | "-inf" => some (.infinite true)
  | s => match s.toList with
    | '-' :: cs => unsignedOf? true cs
    | cs => unsignedOf? false cs

/-! ## The fewest digits -/

/-- The power of ten that the first digit of a quotient counts, for a quotient that is not too
small to be a floating number. -/
def leadingPower (n d : Nat) : Int := ((digitsOf (n * Nat.pow 10 330 / d)).length : Int) - 331

/-- A multiple of `10 ^ scale` that reads back as a number: of its two neighbours among these, the
one that does, or the nearer one if both do. -/
def onGrid (mantissa : Nat) (exponent scale : Int) : Option Nat :=
  let (n, d) := quotient mantissa exponent
  let (a, b) := inUnits 10 scale n d
  let readsBack (c : Nat) : Bool := ofDecimal false c scale == .finite false mantissa exponent
  match readsBack (a / b), readsBack (a / b + 1) with
  | true, true => some (roundDiv a b)
  | true, false => some (a / b)
  | false, true => some (a / b + 1)
  | false, false => none

/-- The first grid with a multiple that reads back, from the given one on; each grid is ten times
as fine as the one before. -/
def searchGrids (mantissa : Nat) (exponent : Int) : (more : Nat) → (scale : Int) → Nat × Int
  | 0, scale => (0, scale)
  | more + 1, scale => match onGrid mantissa exponent scale with
    | some c => (c, scale)
    | none => searchGrids mantissa exponent more (scale - 1)

/-- **The fewest digits that read back**, as a number and a power of ten.  Seventeen digits are
always enough. -/
def shortest (mantissa : Nat) (exponent : Int) : Nat × Int :=
  let (n, d) := quotient mantissa exponent
  searchGrids mantissa exponent 17 (leadingPower n d)

/-! ## Writing -/

/-- Digits with a point before the one at `point`, or with zeros up to the point. -/
def positional (ds : List Char) (point : Int) : List Char :=
  if point ≤ 0 then '0' :: '.' :: List.replicate (-point).toNat '0' ++ ds
  else if (ds.length : Int) ≤ point then
    ds ++ List.replicate (point.toNat - ds.length) '0' ++ ['.', '0']
  else ds.take point.toNat ++ '.' :: ds.drop point.toNat

/-- Digits with a point after the first and an exponent of two digits or more. -/
def scientific (ds : List Char) (exponent : Int) : List Char :=
  let power := digitsOf exponent.natAbs
  ds.take 1 ++ (if ds.length ≤ 1 then [] else '.' :: ds.drop 1)
    ++ 'e' :: (if exponent < 0 then '-' else '+')
    :: List.replicate (2 - power.length) '0' ++ power

/-- A decimal, positional or with an exponent; zeros at its end are not digits of it. -/
def layout (digits : Nat) (scale : Int) : List Char :=
  let point := (digitsOf digits).length + scale
  let ds := ((digitsOf digits).reverse.dropWhile (· == '0')).reverse
  if -4 < point ∧ point ≤ 16 then positional ds point else scientific ds (point - 1)

/-- **The text of a floating number.** -/
def text : Floating → String
  | .notANumber => "nan"
  | .infinite negative => if negative then "-inf" else "inf"
  | .finite negative mantissa exponent =>
    let body := if mantissa = 0 then positional ['0'] 1
      else layout (shortest mantissa exponent).1 (shortest mantissa exponent).2
    String.ofList (if negative then '-' :: body else body)

end BrowserRemote.Floating
