import GeneratorHost.Text.Basic
import GeneratorHost.Text.FoldTable

/-! Case folding: two texts that differ in case alone have one folded form. -/

namespace GeneratorHost
namespace Text

/-- The shift of the run that holds `n`, if one does. -/
def shiftIn (n : Nat) (runs : List (Nat × Nat × Nat × Int)) : Option Int :=
  (runs.find? fun run => run.1 ≤ n && n ≤ run.2.1 && (n - run.1) % run.2.2.1 == 0).map (·.2.2.2)

/-- The folded form of one character. -/
def foldChar (c : Char) : List Char :=
  let n := c.toNat
  if n < 0x80 then
    [if 0x41 ≤ n && n ≤ 0x5A then Char.ofNat (n + 32) else c]
  else match shiftIn n foldRuns with
    | some shift => [Char.ofNat (n + shift).toNat]
    | none => match foldWide.find? (·.1 == n) with
      | some (_, codes) => codes.map Char.ofNat
      | none => [c]

/-- The folded form of a letter. A half has no case. -/
def foldLetter : Letter → List Letter
  | .char c => (foldChar c).map .char
  | .half n => [.half n]

def foldCase (t : Text) : Text := ⟨t.letters.flatMap foldLetter⟩

end Text
end GeneratorHost
