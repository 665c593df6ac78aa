import GeneratorHost.Yaml.Fault

/-! A place in a YAML text: what is left of the text, and how far the place is from the start of the text
    and of its line. Behind the end of the text stands the character zero, which no YAML text holds. -/

namespace GeneratorHost
namespace Yaml

/-- A character that may stand in a YAML text. -/
def isAllowed (c : Char) : Bool :=
  let n := c.toNat
  n == 0x9 || n == 0xA || n == 0xD || (0x20 ≤ n && n ≤ 0x7E) || n == 0x85 || (0xA0 ≤ n && n ≤ 0xD7FF) ||
    (0xE000 ≤ n && n ≤ 0xFFFD) || 0x10000 ≤ n

/-- A character that ends a line. -/
def isBreak (c : Char) : Bool :=
  c == '\n' || c == '\r' || c.toNat == 0x85 || c.toNat == 0x2028 || c.toNat == 0x2029

def isEnd (c : Char) : Bool := c.toNat == 0

/-- A line end, or the end of the text. -/
def endsLine (c : Char) : Bool := isBreak c || isEnd c

/-- A space, or the end of a line. -/
def endsWord (c : Char) : Bool := c == ' ' || endsLine c

/-- A space or a tab, or the end of a line. -/
def isGap (c : Char) : Bool := c == '\t' || endsWord c

/-- A character of a name: an ASCII letter or digit, a hyphen or a low line. -/
def isNameChar (c : Char) : Bool := (Text.baseDigit? c).isSome || c == '-' || c == '_'

structure Cursor where
  rest : List Char
  index : Nat
  line : Nat
  column : Nat
  deriving Inhabited

namespace Cursor

def start (cs : List Char) : Cursor := ⟨cs, 0, 0, 0⟩

/-- The character at a distance. -/
def ahead (c : Cursor) (n : Nat) : Char := c.rest[n]?.getD (Char.ofNat 0)

def peek (c : Cursor) : Char := c.ahead 0

/-- The next place. A carriage return and the line feed behind it end one line. -/
def next (c : Cursor) : Cursor :=
  match c.rest with
  | [] => c
  | ch :: rest =>
    if isBreak ch && !(ch == '\r' && rest.head? == some '\n') then ⟨rest, c.index + 1, c.line + 1, 0⟩
    else if ch.toNat == 0xFEFF then ⟨rest, c.index + 1, c.line, c.column⟩
    else ⟨rest, c.index + 1, c.line, c.column + 1⟩

/-- The place `n` characters further on. -/
def advance (c : Cursor) : Nat → Cursor
  | 0 => c
  | n + 1 => c.next.advance n

/-- The characters in front that satisfy `p`, and the place behind them. -/
def takeWhile (c : Cursor) (p : Char → Bool) : List Char × Cursor :=
  let cs := c.rest.takeWhile p
  (cs, c.advance cs.length)

def dropWhile (c : Cursor) (p : Char → Bool) : Cursor := (c.takeWhile p).2

/-- The line end at a place, as it is kept in a scalar, and the place behind it; nothing if there is
    none. -/
def lineBreak (c : Cursor) : List Char × Cursor :=
  let ch := c.peek
  if ch == '\r' && c.ahead 1 == '\n' then (['\n'], c.advance 2)
  else if ch == '\n' || ch == '\r' || ch.toNat == 0x85 then (['\n'], c.next)
  else if isBreak ch then ([ch], c.next)
  else ([], c)

/-- Whether three characters of one kind, and a gap behind them, stand at a place. -/
def isMark (c : Cursor) (mark : Char) : Bool :=
  c.peek == mark && c.ahead 1 == mark && c.ahead 2 == mark && isGap (c.ahead 3)

/-- Whether a document starts or ends at a place. -/
def isSeparator (c : Cursor) : Bool := c.isMark '-' || c.isMark '.'

/-- Spaces and a comment, up to the end of the line; anything else is a fault. -/
def restOfLine (c : Cursor) : Except Fault Cursor :=
  let c := c.dropWhile (· == ' ')
  let c := if c.peek == '#' then c.dropWhile (!endsLine ·) else c
  if endsLine c.peek then .ok c.lineBreak.2 else .error .malformed

/-- The value of the hexadecimal digits at a place. -/
def hexValue (c : Cursor) (count : Nat) : Except Fault (Nat × Cursor) :=
  match (c.rest.take count).mapM Text.baseDigit? with
  | some digits =>
    if digits.length == count && digits.all (· < 16) then .ok (Text.ofDigits 16 digits, c.advance count)
    else .error .malformed
  | none => .error .malformed

end Cursor
end Yaml
end GeneratorHost
