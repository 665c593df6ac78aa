import GeneratorHost.Text.Utf8
import GeneratorHost.Yaml.Cursor
import GeneratorHost.Yaml.Token

/-! Tags, anchors and directives. -/

namespace GeneratorHost
namespace Yaml
namespace Cursor

/-! ### Tags -/

/-- A character that stands for itself in a tag. -/
def isTagChar (c : Char) : Bool :=
  (Text.baseDigit? c).isSome || "-;/?:@&=+$,_.!~*'()[]".toList.contains c

/-- The bytes of the escapes at a place. The number bounds how many there are. -/
def tagEscapes (c : Cursor) : Nat → Except Fault (List UInt8 × Cursor)
  | 0 => .ok ([], c)
  | fuel + 1 =>
    if c.peek == '%' then do
      let (byte, c) ← c.next.hexValue 2
      let (bytes, c) ← c.tagEscapes fuel
      .ok (UInt8.ofNat byte :: bytes, c)
    else .ok ([], c)

/-- The characters of a tag at a place, with its escapes replaced. The number bounds the pieces. -/
def tagPieces (c : Cursor) : Nat → Except Fault (List Char × Cursor)
  | 0 => .ok ([], c)
  | fuel + 1 =>
    let (cs, c) := c.takeWhile isTagChar
    if c.peek == '%' then do
      let (bytes, c) ← c.tagEscapes c.rest.length
      match Text.decode bytes with
      | .error _ => .error .malformed
      | .ok s =>
        let (more, c) ← c.tagPieces fuel
        .ok (cs ++ s.toList ++ more, c)
    else .ok (cs, c)

/-- The text of a tag at a place. There has to be some. -/
def tagText (c : Cursor) : Except Fault (String × Cursor) := do
  if !isTagChar c.peek && c.peek != '%' then throw .malformed
  let (cs, c) ← c.tagPieces (c.rest.length + 1)
  .ok (String.ofList cs, c)

/-- A tag handle at a place: an exclamation mark, or a name between two. -/
def tagHandle (c : Cursor) : Except Fault (String × Cursor) :=
  if c.peek != '!' then .error .malformed
  else if c.ahead 1 == ' ' then .ok ("!", c.next)
  else
    let (name, after) := c.next.takeWhile isNameChar
    if after.peek == '!' then .ok (String.ofList ('!' :: name ++ ['!']), after.next) else .error .malformed

def tag (c : Cursor) : Except Fault (Token × Cursor) := do
  let first := c.ahead 1
  let (token, c) ←
    if first == '<' then do
      let (suffix, c) ← (c.advance 2).tagText
      if c.peek != '>' then throw .malformed
      pure (Token.tag none suffix, c.next)
    else if isGap first then
      pure (Token.tag none "!", c.next)
    else if (c.rest.drop 1).takeWhile (!endsWord ·) |>.contains '!' then do
      let (handle, c) ← c.tagHandle
      let (suffix, c) ← c.tagText
      pure (Token.tag (some handle) suffix, c)
    else do
      let (suffix, c) ← c.next.tagText
      pure (Token.tag (some "!") suffix, c)
  if endsWord c.peek then .ok (token, c) else .error .malformed

/-! ### Anchors and aliases -/

/-- A character that may stand behind the name of an anchor. -/
def endsAnchor (c : Char) : Bool := isGap c || "?:,]\x7d%@\x60".toList.contains c

/-- The name of an anchor or an alias behind its indicator. -/
def anchorName (c : Cursor) : Except Fault (String × Cursor) :=
  let (name, c) := c.next.takeWhile isNameChar
  if name.isEmpty || !endsAnchor c.peek then .error .malformed else .ok (String.ofList name, c)

/-! ### Directives -/

def versionNumber (c : Cursor) : Except Fault (Nat × Cursor) :=
  let (digits, c) := c.takeWhile Text.isDigit
  if digits.isEmpty then .error .malformed
  else if digits.length > Text.mostDigits then .error (.tooManyDigits digits.length)
  else .ok (Text.decimalValue digits, c)

/-- The version behind the name of its directive. -/
def versionValue (c : Cursor) : Except Fault (Token × Cursor) := do
  let (major, c) ← (c.dropWhile (· == ' ')).versionNumber
  if c.peek != '.' then throw .malformed
  let (_, c) ← c.next.versionNumber
  if endsWord c.peek then .ok (.version major, c) else .error .malformed

/-- A handle and its meaning behind the name of their directive. -/
def handleValue (c : Cursor) : Except Fault (Token × Cursor) := do
  let (name, c) ← (c.dropWhile (· == ' ')).tagHandle
  if c.peek != ' ' then throw .malformed
  let (meaning, c) ← (c.dropWhile (· == ' ')).tagText
  if endsWord c.peek then .ok (.handle name meaning, c) else .error .malformed

def directive (c : Cursor) : Except Fault (Token × Cursor) := do
  let (name, c) := c.next.takeWhile isNameChar
  if name.isEmpty || !endsWord c.peek then throw .malformed
  let (token, c) ←
    match String.ofList name with
    | "YAML" => c.versionValue
    | "TAG" => c.handleValue
    | _ => pure (.reserved, c.dropWhile (!endsLine ·))
  let c ← c.restOfLine
  .ok (token, c)

end Cursor
end Yaml
end GeneratorHost
