/-!
# Binary floating point numbers

Documents may hold numbers with a fraction. They are kept as the nearest number
of the 64-bit binary format, written as a mantissa times a power of two, so
that being whole and being equal are decided exactly. The decimal text of such
a number has the fewest digits that read back as the same number.
-/

namespace RunOnce.Number

/-- A 64-bit binary floating point number. A finite one is
`mantissa * 2 ^ exponent`. -/
inductive Binary64
  | nan
  | infinite (negative : Bool)
  | finite (negative : Bool) (mantissa : Nat) (exponent : Int)
deriving DecidableEq, Repr

/-- A quotient rounded to the nearest integer, a half to the even one. -/
def roundQuotient (num den : Nat) : Nat :=
  let quotient := num / den
  let twice := 2 * (num % den)
  if twice < den then quotient
  else if den < twice then quotient + 1
  else quotient + quotient % 2

namespace Binary64

/-- A finite number's numerator and denominator, the sign apart. -/
def ratio (mantissa : Nat) (exponent : Int) : Nat × Nat :=
  (mantissa * Nat.pow 2 exponent.toNat, Nat.pow 2 (-exponent).toNat)

/-- The number nearest to a positive or zero ratio. -/
def ofRatio (negative : Bool) (num den : Nat) : Binary64 :=
  if num = 0 then finite negative 0 0
  else
    let scaled (exponent : Int) : Nat × Nat :=
      (num * Nat.pow 2 (-exponent).toNat, den * Nat.pow 2 exponent.toNat)
    let guess : Int := (num.log2 : Int) - den.log2 - 52
    let (top, bottom) := scaled guess
    let exponent := max (if top < bottom * Nat.pow 2 52 then guess - 1 else guess) (-1074)
    let (top, bottom) := scaled exponent
    let rounded := roundQuotient top bottom
    let (mantissa, exponent) :=
      if rounded = Nat.pow 2 53 then (Nat.pow 2 52, exponent + 1) else (rounded, exponent)
    if 971 < exponent then infinite negative
    else if mantissa = 0 then finite negative 0 0
    else finite negative mantissa exponent

/-- The number nearest to `digits * 10 ^ exponent`. Magnitudes far outside the
format's range are recognised before any power is taken. -/
def ofDecimal (negative : Bool) (digits : Nat) (exponent : Int) : Binary64 :=
  let size : Int := (Nat.toDigits 10 digits).length + exponent
  if digits = 0 ∨ size < -400 then finite negative 0 0
  else if 400 < size then infinite negative
  else ofRatio negative (digits * Nat.pow 10 exponent.toNat) (Nat.pow 10 (-exponent).toNat)

/-- The sign of a number. -/
def isNegative : Binary64 → Bool
  | nan => false
  | infinite negative => negative
  | finite negative _ _ => negative

/-- A number with the other sign. -/
def negate : Binary64 → Binary64
  | nan => nan
  | infinite negative => infinite (!negative)
  | finite negative mantissa exponent => finite (!negative) mantissa exponent

/-- The product of two numbers. -/
def mul : Binary64 → Binary64 → Binary64
  | finite s m e, finite t n f =>
    let (num, den) := ratio (m * n) (e + f)
    ofRatio (s != t) num den
  | nan, _ | _, nan | finite _ 0 _, infinite _ | infinite _, finite _ 0 _ => nan
  | x, y => infinite (x.isNegative != y.isNegative)

/-- The sum of two numbers. A sum of zero is negative only if both numbers
are. -/
def add : Binary64 → Binary64 → Binary64
  | finite s m e, finite t n f =>
    let least := min e f
    let signed (negative : Bool) (magnitude : Nat) : Int :=
      if negative then -(magnitude : Int) else magnitude
    let sum := signed s (m * Nat.pow 2 (e - least).toNat) +
      signed t (n * Nat.pow 2 (f - least).toNat)
    let (num, den) := ratio sum.natAbs least
    ofRatio (if sum = 0 then s && t else decide (sum < 0)) num den
  | nan, _ | _, nan => nan
  | infinite s, infinite t => if s = t then infinite s else nan
  | infinite s, _ | _, infinite s => infinite s

/-- The number nearest to a natural number. -/
def ofNat (n : Nat) : Binary64 :=
  ofRatio false n 1

/-- The integer that a number equals. -/
def toInt? : Binary64 → Option Int
  | nan => none
  | infinite _ => none
  | finite negative mantissa exponent =>
    let (num, den) := ratio mantissa exponent
    if num % den = 0 then
      some (if negative then -((num / den : Nat) : Int) else (num / den : Nat))
    else none

/-- Whether a number is finite. -/
def isFinite : Binary64 → Bool
  | finite .. => true
  | _ => false

/-- The place of the decimal point of a positive ratio: how many digits stand
before it, or minus the number of zeros that follow it. -/
def decimalPoint (num den : Nat) : Int :=
  if den ≤ num then (Nat.toDigits 10 (num / den)).length
  else -(((List.range 400).find? fun zeros => den ≤ num * Nat.pow 10 (zeros + 1)).getD 0 : Int)

/-- A decimal without zeros at the end of its digits. At most `bound` are left
out. -/
def trimZeros : Nat → Nat × Int → Nat × Int
  | 0, decimal => decimal
  | bound + 1, (digits, exponent) =>
    if digits % 10 = 0 then trimZeros bound (digits / 10, exponent + 1) else (digits, exponent)

/-- The decimals of `count` digits on both sides of a positive number, that
read back as the number itself, the nearer first. Of two that are equally near
the even one is first. -/
def candidates (mantissa : Nat) (exponent : Int) (count : Nat) : List (Nat × Int) :=
  let (num, den) := ratio mantissa exponent
  let shift : Int := count - decimalPoint num den
  let top := num * Nat.pow 10 shift.toNat
  let bottom := den * Nat.pow 10 (-shift).toNat
  let floor := top / bottom
  let twice := 2 * (top % bottom)
  let nearer :=
    if bottom < twice ∨ (bottom = twice ∧ floor % 2 = 1) then [floor + 1, floor]
    else [floor, floor + 1]
  (nearer.map fun digits => (digits, -shift)).filter fun decimal =>
    ofDecimal false decimal.1 decimal.2 == finite false mantissa exponent

/-- The decimal with the fewest digits that reads back as the number. Next to a
power of ten its digits may be a one with zeros, which are left out. -/
def shortest (mantissa : Nat) (exponent : Int) : Nat × Int :=
  trimZeros 17
    ((((List.range 17).flatMap fun count => candidates mantissa exponent (count + 1)).head?).getD
      (mantissa, exponent))

/-- A positive decimal's text: positional while the point falls inside or close
to the digits, else with an exponent of at least two digits. -/
def decimalText (digits : Nat) (exponent : Int) : String :=
  let figures := Nat.toDigits 10 digits
  let point : Int := figures.length + exponent
  let text :=
    if -4 < point ∧ point ≤ 16 then
      if point ≤ 0 then '0' :: '.' :: List.replicate (-point).toNat '0' ++ figures
      else if figures.length ≤ point.toNat then
        figures ++ List.replicate (point.toNat - figures.length) '0' ++ ['.', '0']
      else figures.take point.toNat ++ '.' :: figures.drop point.toNat
    else
      let power := point - 1
      let powerFigures := Nat.toDigits 10 power.natAbs
      let padded := List.replicate (2 - powerFigures.length) '0' ++ powerFigures
      let fraction := if figures.length = 1 then [] else '.' :: figures.drop 1
      figures.take 1 ++ fraction ++ 'e' :: (if power < 0 then '-' else '+') :: padded
  String.ofList text

/-- The text of a number. -/
def text : Binary64 → String
  | nan => "nan"
  | infinite negative => if negative then "-inf" else "inf"
  | finite negative mantissa exponent =>
    let magnitude :=
      if mantissa = 0 then "0.0"
      else
        let (digits, power) := shortest mantissa exponent
        decimalText digits power
    if negative then "-" ++ magnitude else magnitude

end Binary64

end RunOnce.Number
