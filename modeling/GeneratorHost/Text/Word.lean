import GeneratorHost.Text.Basic
import GeneratorHost.Text.WordTable

/-! Word characters, the ones that may stand in a name. -/

namespace GeneratorHost
namespace Text

/-- A letter, a digit or another number character of any script, or the low line. -/
def isWord (l : Letter) : Bool :=
  !l.isHalf && wordRanges.any fun range => range.1 ≤ l.code && l.code ≤ range.2

end Text
end GeneratorHost
