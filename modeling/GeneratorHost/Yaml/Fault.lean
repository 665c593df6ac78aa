import GeneratorHost.Text.Quoted

/-! What can be wrong with a YAML text. Most of it makes the text no YAML at all; a scalar that carries a
    kind its content does not fit has a fault of its own, and so has an integer too long to be written. -/

namespace GeneratorHost
namespace Yaml

inductive Fault
  | malformed
  | notInteger (base : Nat) (text : Text)
  | tooManyDigits (count : Nat)
  | unwritable
  | notNumber (text : Text)
  | emptyNumber
  | notTruthValue (text : Text)
  | notInstant
  | instantOfCollection (kind : String)
  | outOfCalendar (message : String)
  | outOfCodes
  | farOutOfCodes
  | tooLarge
  | tooDeep
  deriving DecidableEq, Repr

/-- What is said about an integer that has too many digits. -/
def digitLimit : String := "Exceeds the limit (4300 digits) for integer string conversion"

/-- What can be done about it. -/
def digitAdvice : String := "use sys.set_int_max_str_digits() to increase the limit"

/-- The most characters of a quoted text that are shown of a numeral that is no integer. -/
def shownCharacters : Nat := 200

def Fault.message : Fault → String
  | malformed => "malformed"
  | notInteger base text =>
    "invalid literal for int() with base " ++ Text.ofNat base ++ ": " ++
      String.ofList (text.quoted.toList.take shownCharacters)
  | tooManyDigits count =>
    digitLimit ++ ": value has " ++ Text.ofNat count ++ " digits; " ++ digitAdvice
  | unwritable => digitLimit ++ "; " ++ digitAdvice
  | notNumber text => "could not convert string to float: " ++ text.quoted
  | emptyNumber => "string index out of range"
  | notTruthValue text => text.quoted
  | notInstant => "'NoneType' object has no attribute 'groupdict'"
  | instantOfCollection kind => "expected string or bytes-like object, got '" ++ kind ++ "'"
  | outOfCalendar message => message
  | outOfCodes => "chr() arg not in range(0x110000)"
  | farOutOfCodes => "Python int too large to convert to C int"
  | tooLarge => "int too large to convert to float"
  | tooDeep => "maximum recursion depth exceeded"

end Yaml
end GeneratorHost
