import GeneratorHost.Yaml.Fault

/-! Tokens of a YAML text: the indicators, with the starts and ends that indentation stands for, and the
    scalars. -/

namespace GeneratorHost
namespace Yaml

/-- How a scalar was written: plain, or marked as text by quotes or an indicator. -/
inductive Style
  | plain
  | marked
  deriving DecidableEq, Repr, Inhabited

inductive Token
  /-- the directive that states the version, with its first number -/
  | version (major : Nat)
  /-- the directive that gives a meaning to a tag handle -/
  | handle (name meaning : String)
  /-- a directive that means nothing -/
  | reserved
  | documentStart
  | documentEnd
  | streamEnd
  | blockSequenceStart
  | blockMappingStart
  | blockEnd
  | flowSequenceStart
  | flowSequenceEnd
  | flowMappingStart
  | flowMappingEnd
  | flowEntry
  | blockEntry
  | key
  | value
  | alias (name : String)
  | anchor (name : String)
  | tag (handle : Option String) (suffix : String)
  | scalar (text : Text) (style : Style)
  /-- a fault, which shows when the token is reached -/
  | fault (f : Fault)
  deriving DecidableEq, Repr, Inhabited

end Yaml
end GeneratorHost
