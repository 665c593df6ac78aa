import GeneratorHost.Text.Basic
import GeneratorHost.Text.Digit
import GeneratorHost.Text.PrintableTable

/-! Quoted text. The quote is the single one, unless the text holds a single quote and no double one;
    the quote in use, the backslash and every letter that does not print are escaped. -/

namespace GeneratorHost
namespace Text

/-- Whether a letter is written as it is inside quotes. -/
def isPrintable (l : Letter) : Bool :=
  !(l.isHalf || unprintableRanges.any fun range => range.1 ≤ l.code && l.code ≤ range.2)

/-- The escape of a letter by its code, in two, four or eight digits. -/
def codeEscape (n : Nat) : String :=
  if n < 0x100 then "\\x" ++ hexPadded 2 n
  else if n < 0x10000 then "\\u" ++ hexPadded 4 n
  else "\\U" ++ hexPadded 8 n

/-- The written form of one character between the quotes `quote`. -/
def quoteChar (quote c : Char) : String :=
  if c == quote || c == '\\' then String.ofList ['\\', c]
  else if c == '\n' then "\\n"
  else if c == '\r' then "\\r"
  else if c == '\t' then "\\t"
  else if isPrintable c then String.singleton c
  else codeEscape c.toNat

/-- The written form of one letter between the quotes `quote`. -/
def quoteLetter (quote : Char) : Letter → String
  | .char c => quoteChar quote c
  | .half n => codeEscape (Letter.half n).code

/-- The quote that a text is written in. -/
def quoteOf (ls : List Letter) : Char :=
  if ls.contains (.char '\'') && !ls.contains (.char '"') then '"' else '\''

def quoted (t : Text) : String :=
  let quote := quoteOf t.letters
  String.singleton quote ++ String.join (t.letters.map (quoteLetter quote)) ++ String.singleton quote

/-- The text on a terminal, which writes the escape of a half in its place. -/
def shown (t : Text) : String := t.stringWith codeEscape

/-- The written form of one byte between the quotes `quote`. -/
def quoteByte (quote : Char) (b : UInt8) : String :=
  let c := Char.ofNat b.toNat
  if c == quote || c == '\\' then String.ofList ['\\', c]
  else if c == '\n' then "\\n"
  else if c == '\r' then "\\r"
  else if c == '\t' then "\\t"
  else if 0x20 ≤ b.toNat && b.toNat < 0x7F then String.singleton c
  else "\\x" ++ hexPadded 2 b.toNat

/-- The quoted form of a list of bytes. -/
def quotedBytes (bytes : List UInt8) : String :=
  let quote := quoteOf (bytes.map fun b => .char (Char.ofNat b.toNat))
  "b" ++ String.singleton quote ++ String.join (bytes.map (quoteByte quote)) ++ String.singleton quote

end Text
end GeneratorHost
