import GeneratorHost.Yaml.Cursor

/-! Scalars in quotes. In single quotes a quote is written twice; in double quotes a backslash escapes. A
    line end within is a space, and further line ends are kept. -/

namespace GeneratorHost
namespace Yaml
namespace Cursor

/-- The characters that a backslash and one character stand for. -/
def escapes : List (Char × Nat) :=
  [('0', 0x0), ('a', 0x7), ('b', 0x8), ('t', 0x9), ('\t', 0x9), ('n', 0xA), ('v', 0xB), ('f', 0xC), ('r', 0xD),
    ('e', 0x1B), (' ', 0x20), ('"', 0x22), ('\\', 0x5C), ('/', 0x2F), ('N', 0x85), ('_', 0xA0), ('L', 0x2028),
    ('P', 0x2029)]

/-- How many hexadecimal digits stand behind a backslash and a letter. -/
def codeLength? (c : Char) : Option Nat :=
  if c == 'x' then some 2 else if c == 'u' then some 4 else if c == 'U' then some 8 else none

/-- The letter of a code. -/
def letterOf (code : Nat) : Except Fault Letter :=
  if code < 0x110000 then .ok (Letter.ofCode code)
  else if code < 0x80000000 then .error .outOfCodes
  else .error .farOutOfCodes

/-- The line ends at a place, with the blanks between them. No document may start or end there. The
    number bounds how many there are. -/
def quotedBreaks (c : Cursor) : Nat → Except Fault (List Char × Cursor)
  | 0 => .ok ([], c)
  | fuel + 1 =>
    if c.isSeparator then .error .malformed
    else
      let c := c.dropWhile fun ch => ch == ' ' || ch == '\t'
      if isBreak c.peek then do
        let (first, c) := c.lineBreak
        let (more, c) ← c.quotedBreaks fuel
        .ok (first ++ more, c)
      else .ok ([], c)

/-- The blanks at a place: as they are within a line, and folded where lines end. -/
def quotedBlanks (c : Cursor) : Except Fault (List Char × Cursor) := do
  let (blanks, c) := c.takeWhile fun ch => ch == ' ' || ch == '\t'
  if isEnd c.peek then throw .malformed
  if isBreak c.peek then
    let (first, c) := c.lineBreak
    let (more, c) ← c.quotedBreaks (c.rest.length + 1)
    if first != ['\n'] then .ok (first ++ more, c)
    else if more.isEmpty then .ok ([' '], c)
    else .ok (more, c)
  else .ok (blanks, c)

/-- The letters that a backslash stands for together with what is behind it. -/
def escaped (c : Cursor) : Except Fault (List Letter × Cursor) :=
  let ch := c.peek
  match escapes.find? (·.1 == ch), codeLength? ch with
  | some (_, code), _ => .ok ([.char (Char.ofNat code)], c.next)
  | none, some length => do
    let (code, c) ← c.next.hexValue length
    .ok ([← letterOf code], c)
  | none, none => do
    if isBreak ch then
      let c := c.lineBreak.2
      let (breaks, c) ← c.quotedBreaks (c.rest.length + 1)
      .ok (breaks.map .char, c)
    else .error .malformed

/-- The letters up to the next blank or the closing quote. The number bounds the pieces. -/
def quotedWord (isDouble : Bool) (c : Cursor) : Nat → Except Fault (List Letter × Cursor)
  | 0 => .ok ([], c)
  | fuel + 1 => do
    let (taken, c) := c.takeWhile fun ch => !(ch == '\'' || ch == '"' || ch == '\\' || isGap ch)
    let cs : List Letter := taken.map .char
    let ch := c.peek
    if !isDouble && ch == '\'' && c.ahead 1 == '\'' then
      let (more, c) ← quotedWord isDouble (c.advance 2) fuel
      .ok (cs ++ .char '\'' :: more, c)
    else if (isDouble && ch == '\'') || (!isDouble && (ch == '"' || ch == '\\')) then
      let (more, c) ← quotedWord isDouble c.next fuel
      .ok (cs ++ .char ch :: more, c)
    else if isDouble && ch == '\\' then
      let (here, c) ← c.next.escaped
      let (more, c) ← quotedWord isDouble c fuel
      .ok (cs ++ here ++ more, c)
    else .ok (cs, c)

/-- The words and blanks up to the closing quote. The number bounds how many there are. -/
def quotedRest (isDouble : Bool) (c : Cursor) : Nat → Except Fault (List Letter × Cursor)
  | 0 => .error .malformed
  | fuel + 1 => do
    if c.peek == (if isDouble then '"' else '\'') then .ok ([], c.next)
    else
      let (blanks, c) ← c.quotedBlanks
      let (word, c) ← quotedWord isDouble c (c.rest.length + 1)
      let (more, c) ← quotedRest isDouble c fuel
      .ok (blanks.map .char ++ word ++ more, c)

/-- The scalar whose opening quote stands at a place. -/
def quoted (isDouble : Bool) (c : Cursor) : Except Fault (Text × Cursor) := do
  let c := c.next
  let (word, c) ← quotedWord isDouble c (c.rest.length + 1)
  let (more, c) ← quotedRest isDouble c (c.rest.length + 1)
  .ok (⟨word ++ more⟩, c)

end Cursor
end Yaml
end GeneratorHost
