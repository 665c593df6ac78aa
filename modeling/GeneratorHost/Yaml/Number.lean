import GeneratorHost.Double
import GeneratorHost.Text.Blank
import GeneratorHost.Text.Lower
import GeneratorHost.Text.Split
import GeneratorHost.Yaml.Fault

/-! The numbers that scalars spell. Low lines in them do not count; digits may be those of any script. -/

namespace GeneratorHost
namespace Yaml
namespace Number

/-! ### Numerals -/

/-- The value of a decimal digit of any script. -/
def decimalDigit? (l : Letter) : Option Nat := l.char?.bind Text.digitValue?

/-- The value of a digit of a base: a decimal digit of any script, or an ASCII letter. -/
def digit? (base : Nat) (l : Letter) : Option Nat :=
  ((decimalDigit? l).orElse fun _ => l.char?.bind Text.baseDigit?).filter (· < base)

/-- The letters that mark a base. -/
def baseLetters (base : Nat) : List Letter :=
  if base == 2 then [.char 'b', .char 'B']
  else if base == 8 then [.char 'o', .char 'O']
  else if base == 16 then [.char 'x', .char 'X']
  else []

/-- Takes the mark of a base off the front: a zero and the letter of the base. -/
def dropBaseMark (base : Nat) : List Letter → List Letter
  | .char '0' :: letter :: rest =>
    if (baseLetters base).contains letter then rest else .char '0' :: letter :: rest
  | ls => ls

def takeSign : List Letter → Bool × List Letter
  | .char '-' :: ls => (true, ls)
  | .char '+' :: ls => (false, ls)
  | ls => (false, ls)

/-- The integer that a numeral spells. -/
def integer (base : Nat) (numeral : List Letter) : Except Fault Int :=
  let (negative, rest) := takeSign (Text.trimWhere Text.isSpace numeral)
  match (dropBaseMark base rest).mapM (digit? base) with
  | none | some [] => .error (.notInteger base ⟨numeral⟩)
  | some digits =>
    if base == 10 && digits.length > Text.mostDigits then .error (.tooManyDigits digits.length)
    else
      let n : Int := Text.ofDigits base digits
      .ok (if negative then -n else n)

/-- Decimal digits of any script at the front, and what is left. -/
def takeDigits (ls : List Letter) : List Nat × List Letter :=
  let digits := ls.takeWhile fun l => (decimalDigit? l).isSome
  (digits.filterMap decimalDigit?, ls.drop digits.length)

/-- The exponent at the end of a numeral. -/
def exponent? : List Letter → Option Int
  | [] => some 0
  | .char 'e' :: ls =>
    let (negative, rest) := takeSign ls
    match takeDigits rest with
    | ([], _) => none
    | (digits, []) => some (if negative then -(Text.ofDigits 10 digits : Int) else Text.ofDigits 10 digits)
    | _ => none
  | _ => none

def word (s : String) : List Letter := (Text.ofString s).letters

/-- The number that a numeral in small letters spells. -/
def double (numeral : List Letter) : Except Fault Double :=
  let (negative, rest) := takeSign (Text.trimWhere Text.isSpace numeral)
  let fault : Fault := .notNumber ⟨numeral⟩
  if rest == word "inf" || rest == word "infinity" then .ok (.infinity negative)
  else if rest == word "nan" then .ok .nan
  else
    let (whole, rest) := takeDigits rest
    let (fraction, rest) := match rest with
      | .char '.' :: rest => takeDigits rest
      | rest => ([], rest)
    if whole.isEmpty && fraction.isEmpty then .error fault
    else match exponent? rest with
      | none => .error fault
      | some power =>
        .ok (Double.ofDecimal negative (Text.ofDigits 10 (whole ++ fraction)) (power - fraction.length))

/-! ### Scalars -/

/-- The letters of a text without its low lines. -/
def withoutLowLines (t : Text) : List Letter := t.letters.filter (· != .char '_')

/-- The parts of a number to the base sixty. -/
def sixtieths (ls : List Letter) : List (List Letter) := Text.splitWhere (· == .char ':') ls

/-- A scalar without its sign; there has to be something to it. -/
def unsigned (ls : List Letter) : Except Fault (Bool × List Letter) :=
  if ls.isEmpty then .error .emptyNumber else .ok (takeSign ls)

/-- The integer that a scalar spells: binary, hexadecimal, octal behind a zero, to the base sixty, or
    decimal. -/
def integerOfScalar (t : Text) : Except Fault Int := do
  let (negative, ls) ← unsigned (withoutLowLines t)
  let n ←
    match ls with
    | [.char '0'] => pure 0
    | .char '0' :: .char 'b' :: digits => integer 2 digits
    | .char '0' :: .char 'x' :: digits => integer 16 digits
    | .char '0' :: digits => integer 8 (.char '0' :: digits)
    | [] => throw .emptyNumber
    | ls =>
      if ls.contains (.char ':') then
        pure ((← (sixtieths ls).mapM (integer 10)).foldl (fun n part => n * 60 + part) 0)
      else integer 10 ls
  pure (if negative then -n else n)

/-- The sum of the parts of a number to the base sixty, the last part first, from a power of sixty on. -/
def sumSixtieths (sum : Double) (power : Nat) : List Double → Except Fault Double
  | [] => .ok sum
  | part :: parts =>
    match Double.ofInt power with
    | .infinity _ => .error .tooLarge
    | factor => sumSixtieths (sum.add (part.mul factor)) (power * 60) parts

/-- A scalar in small letters and without its low lines. -/
def lowered (t : Text) : List Letter := (Text.lower ⟨withoutLowLines t⟩).letters

/-- Whether a scalar names what is no number. -/
def isNoNumber (t : Text) : Bool := (takeSign (lowered t)).2 == word ".nan"

/-- The number that a scalar spells. -/
def doubleOfScalar (t : Text) : Except Fault Double := do
  let (negative, ls) ← unsigned (lowered t)
  let factor := Double.ofInt (if negative then -1 else 1)
  if ls == word ".inf" then pure (.infinity negative)
  else if ls == word ".nan" then pure .nan
  else if ls.contains (.char ':') then
    let parts ← (sixtieths ls).mapM double
    return factor.mul (← sumSixtieths (Double.signedZero false) 1 parts.reverse)
  else return factor.mul (← double ls)

/-- The spellings of the truth values, in small letters. -/
def truthValues : List (String × Bool) :=
  [("yes", true), ("no", false), ("true", true), ("false", false), ("on", true), ("off", false)]

/-- The truth value that a scalar spells. -/
def truthOfScalar (t : Text) : Except Fault Bool :=
  match truthValues.find? fun value => Text.ofString value.1 == t.lower with
  | some (_, b) => .ok b
  | none => .error (.notTruthValue t.lower)

end Number
end Yaml
end GeneratorHost
