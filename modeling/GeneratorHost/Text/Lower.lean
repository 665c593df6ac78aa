import GeneratorHost.Text.Fold
import GeneratorHost.Text.LowerTable

/-! Small letters. A capital sigma becomes the final small sigma at the end of a word; every other
    character has one small form wherever it stands. -/

namespace GeneratorHost
namespace Text

/-- Whether one of the closed ranges holds the code of a letter. -/
def inRanges (ranges : List (Nat × Nat)) (l : Letter) : Bool :=
  ranges.any fun range => range.1 ≤ l.code && l.code ≤ range.2

/-- A letter of some case. -/
def isCased (l : Letter) : Bool := inRanges casedRanges l

/-- A letter that does not end a word. -/
def isCaseIgnorable (l : Letter) : Bool := inRanges ignorableRanges l

/-- Whether the first of `ls` that is not passed over is a letter of some case. -/
def meetsCased (ls : List Letter) : Bool :=
  match ls.dropWhile isCaseIgnorable with
  | [] => false
  | l :: _ => isCased l

/-- The small form of one character that is not a capital sigma. -/
def lowerChar (c : Char) : List Char :=
  let n := c.toNat
  if n < 0x80 then
    [if 0x41 ≤ n && n ≤ 0x5A then Char.ofNat (n + 32) else c]
  else if n == 0x130 then [Char.ofNat 0x69, Char.ofNat 0x307]
  else match shiftIn n lowerRuns with
    | some shift => [Char.ofNat (n + shift).toNat]
    | none => [c]

/-- The small form of `ls`, where `before` holds the letters in front of it, the nearest first. -/
def lowerAfter (before : List Letter) : List Letter → List Letter
  | [] => []
  | l :: ls =>
    let small :=
      if l.code == 0x3A3 then
        [Letter.char (Char.ofNat (if meetsCased before && !meetsCased ls then 0x3C2 else 0x3C3))]
      else match l with
        | .char c => (lowerChar c).map .char
        | .half n => [.half n]
    small ++ lowerAfter (l :: before) ls

def lower (t : Text) : Text := ⟨lowerAfter [] t.letters⟩

end Text
end GeneratorHost
