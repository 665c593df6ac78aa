import GeneratorHost.Yaml.Graph.Parser
import GeneratorHost.Yaml.Graph.Value
import GeneratorHost.Yaml.Token.Lexer

/-! YAML: the value that a text spells. A text without a document spells nothing. -/

namespace GeneratorHost
namespace Yaml

/-- The value of the only document of a text. It may hold itself, so collections are gone into `depth` deep and
    the ones below are left empty. -/
def read (depth : Nat) (s : String) : Except Fault Value := do
  match ← Graph.ofTokens? (Token.ofText s) with
  | some (p, g) => g.value p depth
  | none => pure .null

end Yaml
end GeneratorHost
