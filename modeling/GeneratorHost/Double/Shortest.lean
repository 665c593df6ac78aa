import GeneratorHost.Double
import GeneratorHost.Text.Digit

/-! The shortest decimal that reads back as a number of double precision. Of the shortest ones the
    nearest is taken. It is written positionally while its first digit stands between 10^-4 and 10^15,
    always with a digit behind the point; outside of that with an exponent of at least two digits. -/

namespace GeneratorHost
namespace Double

/-- The least `k` with `num / den < 10 ^ k`, sought upwards from `k`. -/
def leadingPower (num den : Nat) (k : Int) : Nat → Int
  | 0 => k
  | fuel + 1 =>
    let below := if k < 0 then num * Nat.pow 10 k.natAbs < den else num < den * Nat.pow 10 k.natAbs
    if below then k else leadingPower num den (k + 1) fuel

/-- A decimal with `count` digits in front of `10 ^ (power - count)` that reads back as `x`, the nearer
    one if both neighbours of `num / den` do. -/
def shortestWith (x : Double) (num den : Nat) (power : Int) (count : Nat) : Option (Nat × Int) :=
  let exponent := power - count
  let (n, d) := if exponent < 0 then (num * Nat.pow 10 exponent.natAbs, den) else (num, den * Nat.pow 10 exponent.natAbs)
  let low := n / d
  let readsBack (digits : Nat) : Bool := ofDecimal false digits exponent == x
  let nearest := roundDiv n d
  let other := if nearest == low then low + 1 else low
  if readsBack nearest then some (nearest, exponent)
  else if readsBack other then some (other, exponent)
  else none

/-- The shortest decimal of a finite number above zero, as digits and a power of ten. -/
def shortest (mantissa : Nat) (exponent : Int) : Nat × Int :=
  let x := Double.finite false mantissa exponent
  let (num, den) := ratio false mantissa exponent
  let num := num.natAbs
  let guess : Int := ((Nat.log2 mantissa : Int) + exponent) * 30103 / 100000 - 1
  let power := leadingPower num den guess 8
  ((List.range 17).findSome? fun i => shortestWith x num den power (i + 1)).getD (num, 0)

/-- Drops the zeros at the end of a digit list, and counts them. -/
def dropTrailingZeros (digits : List Char) : List Char × Nat :=
  let kept := (digits.reverse.dropWhile (· == '0')).reverse
  (kept, digits.length - kept.length)

/-- Digits and the place of the point, counted from the first digit, written out. -/
def layOut (digits : List Char) (point : Int) : String :=
  let count := digits.length
  if -4 < point && point ≤ 16 then
    if point ≤ 0 then
      "0." ++ String.ofList (List.replicate point.natAbs '0' ++ digits)
    else if point.natAbs < count then
      String.ofList (digits.take point.natAbs) ++ "." ++ String.ofList (digits.drop point.natAbs)
    else
      String.ofList (digits ++ List.replicate (point.natAbs - count) '0') ++ ".0"
  else
    let power := point - 1
    let head := digits.take 1
    let tail := digits.drop 1
    let fraction := if tail.isEmpty then [] else '.' :: tail
    let size := Text.ofNat power.natAbs
    let size := if size.length < 2 then "0" ++ size else size
    String.ofList (head ++ fraction) ++ "e" ++ (if power < 0 then "-" else "+") ++ size

def text : Double → String
  | .nan => "nan"
  | .infinity negative => if negative then "-inf" else "inf"
  | .finite negative 0 _ => if negative then "-0.0" else "0.0"
  | .finite negative mantissa exponent =>
    let (value, power) := shortest mantissa exponent
    let (digits, dropped) := dropTrailingZeros (Nat.toDigits 10 value)
    (if negative then "-" else "") ++ layOut digits (digits.length + power + dropped)

end Double
end GeneratorHost
