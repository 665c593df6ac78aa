import GeneratorHost.Text.Basic

/-! Terminal control sequences: an escape character and a bracket, parameters, intermediate characters and
    a final one. -/

namespace GeneratorHost
namespace Text

/-- Whether the code of a letter lies in a closed range. -/
def isBetween (first last : Nat) (l : Letter) : Bool := first ≤ l.code && l.code ≤ last

/-- A parameter of a control sequence: a digit or one of the signs behind the digits. -/
def isParameter (l : Letter) : Bool := isBetween 0x30 0x3F l

/-- A character between the parameters and the end of a control sequence. -/
def isIntermediate (l : Letter) : Bool := isBetween 0x20 0x2F l

/-- A character that ends a control sequence. -/
def isFinal (l : Letter) : Bool := isBetween 0x40 0x7E l

/-- The number of characters of the control sequence behind an escape character, if there is one. -/
def sequenceLength? : List Letter → Option Nat
  | .char '[' :: rest =>
    let parameters := rest.takeWhile isParameter
    let behind := rest.drop parameters.length
    let intermediates := behind.takeWhile isIntermediate
    match behind.drop intermediates.length with
    | l :: _ => if isFinal l then some (parameters.length + intermediates.length + 2) else none
    | [] => none
  | _ => none

/-- Drops `skip` letters, and every control sequence after them. -/
def dropSequences (skip : Nat) : List Letter → List Letter
  | [] => []
  | l :: ls =>
    match skip with
    | skip + 1 => dropSequences skip ls
    | 0 =>
      if l.code == 0x1B then
        match sequenceLength? ls with
        | some length => dropSequences length ls
        | none => l :: dropSequences 0 ls
      else l :: dropSequences 0 ls

/-- The text without control sequences. -/
def plain (t : Text) : Text := ⟨dropSequences 0 t.letters⟩

end Text
end GeneratorHost
