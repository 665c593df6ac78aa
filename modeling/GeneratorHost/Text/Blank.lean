import GeneratorHost.Text.Basic

/-! White space at the ends of a text. -/

namespace GeneratorHost
namespace Text

/-- One of the four separators of information. -/
def isInformationSeparator (l : Letter) : Bool := 0x1C ≤ l.code && l.code ≤ 0x1F

/-- A space of Unicode: the ASCII blanks, and the spaces and line ends beyond ASCII. -/
def isSpace (l : Letter) : Bool :=
  let n := l.code
  (0x9 ≤ n && n ≤ 0xD) || n == 0x20 || n == 0x85 || n == 0xA0 || n == 0x1680 ||
    (0x2000 ≤ n && n ≤ 0x200A) || n == 0x2028 || n == 0x2029 || n == 0x202F || n == 0x205F || n == 0x3000

/-- White space: the spaces of Unicode and the separators of information. -/
def isBlank (l : Letter) : Bool := isSpace l || isInformationSeparator l

/-- Drops the members at both ends that satisfy `p`. -/
def trimWhere {α : Type} (p : α → Bool) (xs : List α) : List α :=
  ((xs.dropWhile p).reverse.dropWhile p).reverse

/-- Drops the white space at both ends of a text. -/
def strip (t : Text) : Text := ⟨trimWhere isBlank t.letters⟩

end Text
end GeneratorHost
