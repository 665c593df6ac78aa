/-! Line ends. -/

namespace GeneratorHost
namespace Text

/-- Every carriage return, with the line feed that may follow it, becomes a line feed. -/
def unifyNewlinesList : List Char → List Char
  | [] => []
  | '\r' :: '\n' :: cs => '\n' :: unifyNewlinesList cs
  | c :: cs => (if c == '\r' then '\n' else c) :: unifyNewlinesList cs

/-- The text with each of its line ends written as a line feed. -/
def unifyNewlines (s : String) : String := String.ofList (unifyNewlinesList s.toList)

end Text
end GeneratorHost
