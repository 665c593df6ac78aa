import GeneratorHost.Yaml.Scalar.Block
import GeneratorHost.Yaml.Scalar.Plain
import GeneratorHost.Yaml.Scalar.Quoted
import GeneratorHost.Yaml.Tag

/-! Cutting a YAML text into tokens. Where a key without an indicator starts is known only when the colon
    behind it is met; its token is then put in front of what was read since. Indentation opens and closes
    block collections as long as no flow collection is open. -/

namespace GeneratorHost
namespace Yaml

/-- A place where a key may have started: the number of tokens in front of it, and where it stands. A
    required one has to turn out to be a key. -/
structure KeyStart where
  position : Nat
  isRequired : Bool
  index : Nat
  line : Nat
  column : Nat
  deriving Inhabited

/-- A text cut into tokens up to a place. -/
structure Lexer where
  cursor : Cursor
  tokens : Array Token
  /-- the columns of the open block collections, the innermost first -/
  indents : List Int
  /-- the number of open flow collections -/
  flow : Nat
  /-- whether a key without an indicator may start here -/
  allowsKey : Bool
  /-- where keys may have started, by the number of open flow collections -/
  keyStarts : List (Nat × KeyStart)
  deriving Inhabited

namespace Lexer

def start (cs : List Char) : Lexer := ⟨Cursor.start cs, #[], [], 0, true, []⟩

/-- The column of the innermost block collection. -/
def indent (l : Lexer) : Int := l.indents.head?.getD (-1)

def inFlow (l : Lexer) : Bool := l.flow != 0

def push (l : Lexer) (t : Token) : Lexer := { l with tokens := l.tokens.push t }

/-- A token in front of those from a position on. -/
def insertAt (l : Lexer) (position : Nat) (t : Token) : Lexer :=
  { l with tokens := l.tokens.extract 0 position ++ #[t] ++ l.tokens.extract position l.tokens.size }

/-- One more token, at a place `count` characters long. -/
def consume (l : Lexer) (count : Nat) (t : Token) : Lexer :=
  { l with cursor := l.cursor.advance count, tokens := l.tokens.push t }

/-- Whether a key without an indicator may start behind the next token. -/
def allowing (l : Lexer) (b : Bool) : Lexer := { l with allowsKey := b }

/-! ### Keys and indentation -/

/-- Forgets where a key may have started among the innermost collections. A required one must not be
    forgotten. -/
def forgetKey (l : Lexer) : Except Fault Lexer :=
  match l.keyStarts.find? (·.1 == l.flow) with
  | some (_, k) =>
    if k.isRequired then .error .malformed
    else .ok { l with keyStarts := l.keyStarts.filter (·.1 != l.flow) }
  | none => .ok l

/-- Remembers that a key may start here. -/
def rememberKey (l : Lexer) : Except Fault Lexer :=
  if l.allowsKey then do
    let l ← l.forgetKey
    let c := l.cursor
    let k : KeyStart := ⟨l.tokens.size, !l.inFlow && l.indent == c.column, c.index, c.line, c.column⟩
    .ok { l with keyStarts := (l.flow, k) :: l.keyStarts }
  else .ok l

/-- The length that a key without an indicator may have. -/
def longestKey : Nat := 1024

/-- Whether a key ended with its line or grew too long. -/
def isStale (l : Lexer) (k : KeyStart) : Bool :=
  k.line != l.cursor.line || l.cursor.index - k.index > longestKey

/-- Where keys may still start. -/
def freshKeys (l : Lexer) : List (Nat × KeyStart) := l.keyStarts.filter fun entry => !l.isStale entry.2

/-- Forgets the keys that ended with their line or grew too long. A required one must not be forgotten. -/
def forgetStaleKeys (l : Lexer) : Except Fault Lexer :=
  if l.keyStarts.any fun entry => l.isStale entry.2 && entry.2.isRequired then .error .malformed
  else .ok { l with keyStarts := l.freshKeys }

/-- Closes the block collections that stand further to the right than a column. -/
def closeTo (column : Int) : List Int → Array Token → List Int × Array Token
  | [], tokens => ([], tokens)
  | indent :: outer, tokens =>
    if indent > column then closeTo column outer (tokens.push .blockEnd) else (indent :: outer, tokens)

/-- Closes the block collections that stand further to the right than a column, outside of flow
    collections. -/
def unwind (l : Lexer) (column : Int) : Lexer :=
  if l.inFlow then l
  else
    let (indents, tokens) := closeTo column l.indents l.tokens
    { l with indents, tokens }

/-- Opens a block collection at a column, unless one is open there. -/
def openBlock (l : Lexer) (column : Nat) (position : Nat) (t : Token) : Lexer :=
  if l.indent < column then ({ l with indents := (column : Int) :: l.indents }).insertAt position t else l

/-! ### Tokens -/

def atEnd (l : Lexer) : Except Fault Lexer := do
  let l ← (l.unwind (-1)).forgetKey
  .ok (l.push .streamEnd)

def atDirective (l : Lexer) : Except Fault Lexer := do
  let l ← (l.unwind (-1)).forgetKey
  let (t, cursor) ← l.cursor.directive
  .ok (({ l with cursor }).push t |>.allowing false)

/-- The start or the end of a document. -/
def atSeparator (l : Lexer) (t : Token) : Except Fault Lexer := do
  let l ← (l.unwind (-1)).forgetKey
  .ok ((l.consume 3 t).allowing false)

/-- The start of a flow collection. -/
def atFlowStart (l : Lexer) (t : Token) : Except Fault Lexer := do
  let l ← l.rememberKey
  .ok ({ l with flow := l.flow + 1 }.consume 1 t |>.allowing true)

def atFlowEnd (l : Lexer) (t : Token) : Except Fault Lexer := do
  let l ← l.forgetKey
  if l.inFlow then .ok ({ l with flow := l.flow - 1 }.consume 1 t |>.allowing false)
  else .error .malformed

/-- A comma in a flow collection. -/
def atFlowEntry (l : Lexer) : Except Fault Lexer := do
  let l ← l.forgetKey
  .ok ((l.consume 1 .flowEntry).allowing true)

/-- The indicator of a member or of a key, which may open a block collection. -/
def atBlockIndicator (l : Lexer) (opening t : Token) (allowsKey : Bool) : Except Fault Lexer := do
  if !l.inFlow && !l.allowsKey then throw .malformed
  let l := if l.inFlow then l else l.openBlock l.cursor.column l.tokens.size opening
  let l ← l.forgetKey
  .ok ((l.consume 1 t).allowing allowsKey)

/-- The colon between a key and its value. -/
def atValue (l : Lexer) : Except Fault Lexer :=
  match l.keyStarts.find? (·.1 == l.flow) with
  | some (_, k) =>
    let l := { l with keyStarts := l.keyStarts.filter (·.1 != l.flow) }
    let l := l.insertAt k.position .key
    let l := if l.inFlow then l else l.openBlock k.column k.position .blockMappingStart
    .ok ((l.consume 1 .value).allowing false)
  | none => do
    if !l.inFlow && !l.allowsKey then throw .malformed
    let l := if l.inFlow then l else l.openBlock l.cursor.column l.tokens.size .blockMappingStart
    let l ← l.forgetKey
    .ok ((l.consume 1 .value).allowing (!l.inFlow))

/-- A token that may be a key or stand in front of one, and the place behind it. -/
def atWord (l : Lexer) (read : Cursor → Except Fault (Token × Cursor)) : Except Fault Lexer := do
  let l ← l.rememberKey
  let (t, cursor) ← read l.cursor
  .ok (({ l with cursor }).push t |>.allowing false)

def atBlockScalar (l : Lexer) (isFolded : Bool) : Except Fault Lexer := do
  let l ← l.forgetKey
  let (text, cursor) ← l.cursor.block isFolded l.indent
  .ok (({ l with cursor }).push (.scalar text .marked) |>.allowing true)

def atQuoted (l : Lexer) (isDouble : Bool) : Except Fault Lexer :=
  l.atWord fun c => do
    let (text, c) ← Cursor.quoted isDouble c
    .ok (.scalar text .marked, c)

/-- A plain scalar. Behind a line end another key may start. -/
def atPlain (l : Lexer) : Except Fault Lexer := do
  let l ← l.rememberKey
  let (text, cursor, ended) := l.cursor.plain l.inFlow l.indent
  .ok (({ l with cursor }).push (.scalar text .plain) |>.allowing ended)

/-- Whether a plain scalar starts here. -/
def startsPlain (l : Lexer) (c : Char) : Bool :=
  !(isGap c || "-?:,[]\x7b\x7d#&*!|>'\"%@\x60".toList.contains c) ||
    (!isGap (l.cursor.ahead 1) && (c == '-' || (!l.inFlow && (c == '?' || c == ':'))))

def readToken (l : Lexer) : Except Fault Lexer :=
  let c := l.cursor.peek
  let isIndicator := isGap (l.cursor.ahead 1)
  let atStart := l.cursor.column == 0
  if isEnd c then l.atEnd
  else if c == '%' && atStart then l.atDirective
  else if atStart && l.cursor.isMark '-' then l.atSeparator .documentStart
  else if atStart && l.cursor.isMark '.' then l.atSeparator .documentEnd
  else if c == '[' then l.atFlowStart .flowSequenceStart
  else if c == '\x7b' then l.atFlowStart .flowMappingStart
  else if c == ']' then l.atFlowEnd .flowSequenceEnd
  else if c == '\x7d' then l.atFlowEnd .flowMappingEnd
  else if c == ',' then l.atFlowEntry
  else if c == '-' && isIndicator then l.atBlockIndicator .blockSequenceStart .blockEntry true
  else if c == '?' && (l.inFlow || isIndicator) then
    l.atBlockIndicator .blockMappingStart .key (!l.inFlow)
  else if c == ':' && (l.inFlow || isIndicator) then l.atValue
  else if c == '*' then l.atWord fun c => do
    let (name, c) ← c.anchorName
    .ok (.alias name, c)
  else if c == '&' then l.atWord fun c => do
    let (name, c) ← c.anchorName
    .ok (.anchor name, c)
  else if c == '!' then l.atWord Cursor.tag
  else if c == '|' && !l.inFlow then l.atBlockScalar false
  else if c == '>' && !l.inFlow then l.atBlockScalar true
  else if c == '\'' then l.atQuoted false
  else if c == '"' then l.atQuoted true
  else if l.startsPlain c then l.atPlain
  else .error .malformed

/-- Skips spaces, comments and line ends. Behind a line end outside of flow collections a key may start.
    The number bounds the lines. -/
def skipGaps (l : Lexer) : Nat → Lexer
  | 0 => l
  | fuel + 1 =>
    let c := l.cursor.dropWhile (· == ' ')
    let c := if c.peek == '#' then c.dropWhile (!endsLine ·) else c
    if isBreak c.peek then
      ({ l with cursor := c.lineBreak.2, allowsKey := l.allowsKey || !l.inFlow }).skipGaps fuel
    else { l with cursor := c }

/-- Skips a byte order mark at the start of a text. -/
def skipMark (l : Lexer) : Lexer :=
  if l.cursor.index == 0 && l.cursor.peek.toNat == 0xFEFF then { l with cursor := l.cursor.next } else l

/-- Goes on to the next token and reads it. -/
def step (l : Lexer) : Except Fault Lexer := do
  let l := (l.skipMark.skipGaps (l.cursor.rest.length + 1))
  let l ← l.forgetStaleKeys
  (l.unwind l.cursor.column).readToken

/-- The number of tokens that are settled: no key can be put in front of any of them any more. -/
def settled (l : Lexer) : Nat := l.freshKeys.foldl (fun n entry => min n entry.2.position) l.tokens.size

/-- Reads tokens up to the end of the text. A fault stands behind the tokens that are settled when it comes up.
    The number bounds the tokens. -/
def readAll (l : Lexer) : Nat → Array Token
  | 0 => l.tokens.push (.fault .malformed)
  | fuel + 1 =>
    match l.step with
    | .ok l => if l.tokens.back? == some .streamEnd then l.tokens else l.readAll fuel
    | .error fault => (l.tokens.extract 0 l.settled).push (.fault fault)

end Lexer

def Token.ofText (s : String) : List Token :=
  let cs := s.toList
  if cs.all isAllowed then ((Lexer.start cs).readAll (cs.length + 2)).toList else [.fault .malformed]

end Yaml
end GeneratorHost
