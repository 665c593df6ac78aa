/-! Binary floating-point numbers of double precision, held exactly. A finite one is a mantissa below
    2^53 times a power of two; every operation takes the exact result and rounds it to the nearest
    number, a tie to the one with the even mantissa. -/

namespace GeneratorHost

/-- A number of double precision. A finite one has the value `mantissa * 2 ^ exponent`, with the least
    exponent unless the mantissa has all its fifty-three bits. -/
inductive Double
  | nan
  | infinity (negative : Bool)
  | finite (negative : Bool) (mantissa : Nat) (exponent : Int)
  deriving DecidableEq, Repr, Inhabited

namespace Double

def leastExponent : Int := -1074

def greatestExponent : Int := 971

def signedZero (negative : Bool) : Double := .finite negative 0 leastExponent

/-- A quotient over `2 ^ exponent`, as a pair of natural numbers. -/
def scaled (num den : Nat) (exponent : Int) : Nat × Nat :=
  if exponent < 0 then (num * Nat.pow 2 exponent.natAbs, den) else (num, den * Nat.pow 2 exponent.natAbs)

/-- The quotient rounded to a natural number, a half to the even one. -/
def roundDiv (num den : Nat) : Nat :=
  let quotient := num / den
  let rest := 2 * (num % den)
  if rest > den || (rest == den && quotient % 2 == 1) then quotient + 1 else quotient

/-- The number nearest to `num / den`. -/
def ofRatio (negative : Bool) (num den : Nat) : Double :=
  if num == 0 then signedZero negative
  else
    let guess : Int := max leastExponent ((Nat.log2 num : Int) - Nat.log2 den - 53)
    let (n, d) := scaled num den guess
    let exponent := if n / d < Nat.pow 2 53 then guess else guess + 1
    let (n, d) := scaled num den exponent
    let mantissa := roundDiv n d
    let (mantissa, exponent) := if mantissa == Nat.pow 2 53 then (Nat.pow 2 52, exponent + 1) else (mantissa, exponent)
    if exponent > greatestExponent then .infinity negative else .finite negative mantissa exponent

/-- The number nearest to `digits * 10 ^ exponent`. -/
def ofDecimal (negative : Bool) (digits : Nat) (exponent : Int) : Double :=
  let size : Int := (Nat.toDigits 10 digits).length + exponent
  if digits == 0 || size < -400 then signedZero negative
  else if size > 400 then .infinity negative
  else if exponent < 0 then ofRatio negative digits (Nat.pow 10 exponent.natAbs)
  else ofRatio negative (digits * Nat.pow 10 exponent.natAbs) 1

def ofInt (n : Int) : Double := ofRatio (n < 0) n.natAbs 1

/-- A finite number as a quotient of an integer and a natural number. -/
def ratio (negative : Bool) (mantissa : Nat) (exponent : Int) : Int × Nat :=
  let sign : Int := if negative then -1 else 1
  if exponent < 0 then (sign * mantissa, Nat.pow 2 exponent.natAbs)
  else (sign * mantissa * Nat.pow 2 exponent.natAbs, 1)

/-- The integer that a number equals, if it equals one. -/
def toInt? : Double → Option Int
  | .finite negative mantissa exponent =>
    let (num, den) := ratio negative mantissa exponent
    if num % den == 0 then some (num / den) else none
  | _ => none

def isFinite : Double → Bool
  | .finite .. => true
  | _ => false

/-- Numeric equality: the two zeros are equal, and nothing equals the number that is none. -/
def equal : Double → Double → Bool
  | .nan, _ => false
  | _, .nan => false
  | .finite _ 0 _, .finite _ 0 _ => true
  | x, y => x == y

def add : Double → Double → Double
  | .nan, _ => .nan
  | _, .nan => .nan
  | .infinity a, .infinity b => if a == b then .infinity a else .nan
  | .infinity a, _ => .infinity a
  | _, .infinity b => .infinity b
  | .finite a m e, .finite b n f =>
    let (p, q) := ratio a m e
    let (r, s) := ratio b n f
    let sum := p * s + r * q
    if sum == 0 then signedZero (a && b) else ofRatio (sum < 0) sum.natAbs (q * s)

def mul : Double → Double → Double
  | .nan, _ => .nan
  | _, .nan => .nan
  | .infinity a, .infinity b => .infinity (a != b)
  | .infinity a, .finite b m _ => if m == 0 then .nan else .infinity (a != b)
  | .finite a m _, .infinity b => if m == 0 then .nan else .infinity (a != b)
  | .finite a m e, .finite b n f =>
    let (p, q) := ratio a m e
    let (r, s) := ratio b n f
    ofRatio (a != b) (p * r).natAbs (q * s)

end Double
end GeneratorHost
