import GeneratorHost.Compilation
import GeneratorHost.Text.Blank
import GeneratorHost.Text.Split

/-! The names of the files that documents are written to. Only the last segment of a document's path is
    used, so no document is written outside of the output directory. -/

namespace GeneratorHost
namespace Artifact

def isSeparator (l : Letter) : Bool := l == .char '\\' || l == .char '/'

/-- Whether a segment names a file. -/
def isUsable (name : Text) : Bool := name != "" && name != "." && name != ".."

/-- The last segment of a path without the white space around it, if it names a file. -/
def fileName? (path : Text) : Option Text :=
  let name := (⟨Text.lastPiece isSeparator path.letters⟩ : Text).strip
  if isUsable name then some name else none

def suffix : Text := ".g.txt"

/-- A name for a document that has none: the generator's own, if it names a file, and a token. -/
def synthesize (generator : Text) (token : Nat) : Text :=
  (fileName? generator).getD "generator" ++ "_" ++ Text.hexPadded 32 token ++ suffix

end Artifact
end GeneratorHost
