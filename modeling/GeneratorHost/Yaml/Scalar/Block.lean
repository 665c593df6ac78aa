import GeneratorHost.Yaml.Cursor

/-! Block scalars: the indented lines below an indicator, kept as they are or folded into one another. The
    indicator says what becomes of the line ends behind the last line. -/

namespace GeneratorHost
namespace Yaml
namespace Cursor

/-- What becomes of the line ends behind a block scalar: the first is kept, none is, or all are. -/
inductive Chomping
  | clip
  | strip
  | keep
  deriving DecidableEq, Repr

/-- The chomping indicator at a place. -/
def chomping (c : Cursor) : Option Chomping × Cursor :=
  if c.peek == '+' then (some .keep, c.next)
  else if c.peek == '-' then (some .strip, c.next)
  else (none, c)

/-- The indentation indicator at a place, which is no zero. -/
def increment (c : Cursor) : Except Fault (Option Nat × Cursor) :=
  if Text.isDigit c.peek then
    if c.peek == '0' then .error .malformed else .ok (some (c.peek.toNat - 0x30), c.next)
  else .ok (none, c)

/-- Both indicators, in either order. -/
def blockHeader (c : Cursor) : Except Fault (Chomping × Option Nat × Cursor) := do
  let (first, c) := c.chomping
  let (indentation, c) ← c.increment
  let (second, c) := if first.isNone && indentation.isSome then c.chomping else (none, c)
  if endsWord c.peek then .ok (((first.orElse fun _ => second).getD .clip), indentation, c)
  else .error .malformed

/-- The empty lines at a place and the deepest indentation met in them. The number bounds the
    characters. -/
def blockIndentation (deepest : Nat) (c : Cursor) : Nat → List Char × Nat × Cursor
  | 0 => ([], deepest, c)
  | fuel + 1 =>
    if c.peek == ' ' then
      let c := c.next
      blockIndentation (max deepest c.column) c fuel
    else if isBreak c.peek then
      let (first, c) := c.lineBreak
      let (more, deepest, c) := blockIndentation deepest c fuel
      (first ++ more, deepest, c)
    else ([], deepest, c)

/-- The place behind the spaces at a place, as far as a column. The number bounds the spaces. -/
def skipIndentation (indent : Nat) (c : Cursor) : Nat → Cursor
  | 0 => c
  | fuel + 1 => if c.column < indent && c.peek == ' ' then skipIndentation indent c.next fuel else c

/-- The line ends at a place, with the indentation between them. The number bounds how many there are. -/
def blockBreaks (indent : Nat) (c : Cursor) : Nat → List Char × Cursor
  | 0 => ([], c)
  | fuel + 1 =>
    let c := skipIndentation indent c (indent + 1)
    if isBreak c.peek then
      let (first, c) := c.lineBreak
      let (more, c) := blockBreaks indent c fuel
      (first ++ more, c)
    else ([], c)

/-- What was read of a block scalar: its text, the last line end, and the line ends behind that. -/
structure BlockText where
  text : List Char
  lastBreak : List Char
  breaks : List Char

/-- A blank within a line. -/
def isBlankChar (c : Char) : Bool := c == ' ' || c == '\t'

/-- Reads the lines of a block scalar. The number bounds how many there are. -/
def blockLines (isFolded : Bool) (indent : Nat) (sofar : BlockText) (c : Cursor) : Nat → BlockText × Cursor
  | 0 => (sofar, c)
  | fuel + 1 =>
    if c.column == indent && !isEnd c.peek then
      let startsBlank := isBlankChar c.peek
      let (line, c) := c.takeWhile (!endsLine ·)
      let (lastBreak, c) := c.lineBreak
      let (breaks, c) := blockBreaks indent c (c.rest.length + 1)
      let text := sofar.text ++ sofar.breaks ++ line
      if c.column == indent && !isEnd c.peek then
        let joint :=
          if isFolded && lastBreak == ['\n'] && !startsBlank && !isBlankChar c.peek then
            if breaks.isEmpty then [' '] else []
          else lastBreak
        blockLines isFolded indent ⟨text ++ joint, lastBreak, breaks⟩ c fuel
      else (⟨text, lastBreak, breaks⟩, c)
    else (sofar, c)

/-- The block scalar whose indicator stands at a place, in a block of the given indentation. -/
def block (isFolded : Bool) (outer : Int) (c : Cursor) : Except Fault (String × Cursor) := do
  let (chomping, indentation, c) ← c.next.blockHeader
  let c ← c.restOfLine
  let least := max 1 (outer + 1).toNat
  let (breaks, indent, c) :=
    match indentation with
    | none =>
      let (breaks, deepest, c) := blockIndentation 0 c (c.rest.length + 1)
      (breaks, max least deepest, c)
    | some n =>
      let indent := least + n - 1
      let (breaks, c) := blockBreaks indent c (c.rest.length + 1)
      (breaks, indent, c)
  let (result, c) := blockLines isFolded indent ⟨[], [], breaks⟩ c (c.rest.length + 1)
  let text := match chomping with
    | .strip => result.text
    | .clip => result.text ++ result.lastBreak
    | .keep => result.text ++ result.lastBreak ++ result.breaks
  .ok (String.ofList text, c)

end Cursor
end Yaml
end GeneratorHost
