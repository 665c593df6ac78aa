import GeneratorHost.Yaml.Cursor

/-! Plain scalars: text without quotes, up to an indicator or to a line that is not indented enough. -/

namespace GeneratorHost
namespace Yaml
namespace Cursor

/-- An indicator of a flow collection that ends a plain scalar within one. -/
def endsFlow (c : Char) : Bool := c == ',' || c == '[' || c == ']' || c == '\x7b' || c == '\x7d'

/-- The number of characters of the word at the front of a text. -/
def wordLength (inFlow : Bool) : List Char → Nat
  | [] => 0
  | c :: cs =>
    let behind := cs.head?.getD (Char.ofNat 0)
    if isGap c || (c == ':' && (isGap behind || (inFlow && endsFlow behind))) ||
        (inFlow && (endsFlow c || c == '?')) then 0
    else wordLength inFlow cs + 1

/-- The line ends and spaces behind the first line end between two words; nothing if a document starts or
    ends there. The number bounds the characters. -/
def plainBreaks (c : Cursor) : Nat → Option (List Char) × Cursor
  | 0 => (some [], c)
  | fuel + 1 =>
    if c.peek == ' ' then plainBreaks c.next fuel
    else if isBreak c.peek then
      let (first, c) := c.lineBreak
      if c.isSeparator then (none, c)
      else
        let (more, c) := plainBreaks c fuel
        (more.map (first ++ ·), c)
    else (some [], c)

/-- What stands between two words, the place behind it, and whether a line ended there. -/
def plainGap (c : Cursor) : List Char × Cursor × Bool :=
  let (spaces, c) := c.takeWhile (· == ' ')
  if isBreak c.peek then
    let (first, c) := c.lineBreak
    if c.isSeparator then ([], c, true)
    else
      match plainBreaks c (c.rest.length + 1) with
      | (none, c) => ([], c, true)
      | (some more, c) =>
        if first != ['\n'] then (first ++ more, c, true)
        else if more.isEmpty then ([' '], c, true)
        else (more, c, true)
  else (spaces, c, false)

/-- The words of a plain scalar, with what stands between them, the place behind, and whether a line ended
    behind the last word. The number bounds how many there are. -/
def plainWords (inFlow : Bool) (indent : Int) (gap : List Char) (ended : Bool) (c : Cursor) :
    Nat → List Char × Cursor × Bool
  | 0 => ([], c, ended)
  | fuel + 1 =>
    let length := if c.peek == '#' then 0 else wordLength inFlow c.rest
    if length == 0 then ([], c, ended)
    else
      let word := c.rest.take length
      let (next, c, ended) := plainGap (c.advance length)
      if next.isEmpty || c.peek == '#' || (!inFlow && (c.column : Int) < indent) then (gap ++ word, c, ended)
      else
        let (more, c, ended) := plainWords inFlow indent next ended c fuel
        (gap ++ word ++ more, c, ended)

/-- The plain scalar at a place in a block of the given indentation, the place behind it, and whether a
    line ended there. -/
def plain (inFlow : Bool) (outer : Int) (c : Cursor) : String × Cursor × Bool :=
  let (cs, c, ended) := plainWords inFlow (outer + 1) [] false c (c.rest.length + 1)
  (String.ofList cs, c, ended)

end Cursor
end Yaml
end GeneratorHost
