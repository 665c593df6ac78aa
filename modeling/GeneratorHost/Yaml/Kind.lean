import GeneratorHost.Text.Digit
import GeneratorHost.Yaml.Graph

/-! What a plain scalar without a tag means: the forms of truth values, numbers, dates, of nothing, and of
    the two special keys. Whatever has none of these forms is text. -/

namespace GeneratorHost
namespace Yaml
namespace Kind

/-- One of the digits or a low line. -/
def isGrouped (isDigit : Char → Bool) (c : Char) : Bool := isDigit c || c == '_'

/-- The line feed that may stand behind a form. -/
def isOver (cs : List Char) : Bool := cs == [] || cs == ['\n']

/-- What is left behind a sign, if there is one. -/
def dropSign : List Char → List Char
  | '+' :: cs => cs
  | '-' :: cs => cs
  | cs => cs

/-- Whether a text is one of some words, perhaps with a line feed behind it. -/
def isWord (words : List String) (cs : List Char) : Bool :=
  words.any fun word => word.toList.isPrefixOf cs && isOver (cs.drop word.length)

/-- The spellings of the truth values. -/
def isTruthValue (cs : List Char) : Bool :=
  isWord ["yes", "Yes", "YES", "no", "No", "NO", "true", "True", "TRUE", "false", "False", "FALSE", "on", "On", "ON",
    "off", "Off", "OFF"] cs

/-- The spellings of nothing. -/
def isNull (cs : List Char) : Bool := isWord ["~", "null", "Null", "NULL", ""] cs

/-- A letter for an exponent, a sign and digits, or nothing. -/
def isExponent : List Char → Bool
  | e :: sign :: digits =>
    if e == 'e' || e == 'E' then
      (sign == '+' || sign == '-') && Text.isDigit (digits.head?.getD 'x') &&
        isOver (digits.dropWhile Text.isDigit)
    else isOver (e :: sign :: digits)
  | cs => isOver cs

/-- A part of a number to the base sixty behind its colon: one digit, or two of which the first is below
    six. -/
def sixtieth? : List Char → Option (List Char)
  | a :: b :: cs =>
    if '0' ≤ a && a ≤ '5' && Text.isDigit b then some cs
    else if Text.isDigit a then some (b :: cs)
    else none
  | [a] => if Text.isDigit a then some [] else none
  | [] => none

/-- What is left behind the parts of a number to the base sixty; at least one of them has to be there. The
    number bounds the parts. -/
def sixtieths? (cs : List Char) : Nat → Option (List Char)
  | 0 => none
  | fuel + 1 =>
    match cs with
    | ':' :: more =>
      match sixtieth? more with
      | some rest => match sixtieths? rest fuel with
        | some behind => some behind
        | none => some rest
      | none => none
    | _ => none

/-- Digits and low lines, the first of them a digit, and what is left behind them. -/
def dropGrouped? (cs : List Char) : Option (List Char) :=
  if Text.isDigit (cs.head?.getD 'x') then some (cs.dropWhile (isGrouped Text.isDigit)) else none

/-- The forms of floating-point numbers: with a point, with an exponent that has a sign, to the base sixty
    with a point, and the names of what is no number or too large. -/
def isFloat (cs : List Char) : Bool :=
  let unsigned := dropSign cs
  let pointed := match dropGrouped? unsigned with
    | some ('.' :: rest) => isExponent (rest.dropWhile (isGrouped Text.isDigit))
    | _ => false
  let bare := match cs with
    | '.' :: rest => match dropGrouped? rest with
      | some behind => isExponent behind
      | none => false
    | _ => false
  let sixty := match dropGrouped? unsigned with
    | some rest => match sixtieths? rest (rest.length + 1) with
      | some ('.' :: behind) => isOver (behind.dropWhile (isGrouped Text.isDigit))
      | _ => false
    | none => false
  pointed || bare || sixty || isWord [".inf", ".Inf", ".INF"] unsigned || isWord [".nan", ".NaN", ".NAN"] cs

/-- At least one digit or low line, and nothing else. -/
def isDigits (isDigit : Char → Bool) (cs : List Char) : Bool :=
  isGrouped isDigit (cs.head?.getD 'x') && isOver (cs.dropWhile (isGrouped isDigit))

/-- A digit of a base. -/
def isBaseDigit (base : Nat) (c : Char) : Bool := (Text.baseDigit? c).any (· < base)

/-- The forms of integers: binary, octal, decimal, hexadecimal and to the base sixty. -/
def isInteger (cs : List Char) : Bool :=
  match dropSign cs with
  | '0' :: rest =>
    (match rest with
      | 'b' :: digits => isDigits (isBaseDigit 2) digits
      | 'x' :: digits => isDigits (isBaseDigit 16) digits
      | _ => false) || isDigits (isBaseDigit 8) rest || isOver rest
  | first :: rest =>
    '1' ≤ first && first ≤ '9' &&
      (let behind := rest.dropWhile (isGrouped Text.isDigit)
       isOver behind || match sixtieths? behind (behind.length + 1) with
         | some behind => isOver behind
         | none => false)
  | [] => false

/-! ### Dates -/

/-- What is left behind `least` to `most` digits, as many as there are. -/
def dropDigits? (least most : Nat) (cs : List Char) : Option (List Char) :=
  let digits := (cs.take most).takeWhile Text.isDigit
  if digits.length < least then none else some (cs.drop digits.length)

/-- What is left behind a character. -/
def dropChar? (c : Char) : List Char → Option (List Char)
  | ch :: cs => if ch == c then some cs else none
  | [] => none

/-- A blank between the parts of a date. -/
def isBlankChar (c : Char) : Bool := c == ' ' || c == '\t'

/-- What is left behind the mark between day and hour. -/
def dropTimeMark? : List Char → Option (List Char)
  | 'T' :: cs => some cs
  | 't' :: cs => some cs
  | c :: cs => if isBlankChar c then some (cs.dropWhile isBlankChar) else none
  | [] => none

/-- Whether an offset, or nothing, stands at the end of a time. -/
def isOffset (cs : List Char) : Bool :=
  isOver cs ||
    match cs.dropWhile isBlankChar with
    | 'Z' :: rest => isOver rest
    | sign :: rest =>
      (sign == '+' || sign == '-') &&
        match dropDigits? 1 2 rest with
        | some behind => isOver behind || match (dropChar? ':' behind).bind (dropDigits? 2 2) with
          | some behind => isOver behind
          | none => false
        | none => false
    | [] => false

/-- Whether a time of day stands at the end. -/
def isTime (cs : List Char) : Bool :=
  let time := do
    let cs ← dropDigits? 1 2 cs
    let cs ← dropChar? ':' cs
    let cs ← dropDigits? 2 2 cs
    let cs ← dropChar? ':' cs
    dropDigits? 2 2 cs
  match time with
  | some ('.' :: rest) => isOffset (rest.dropWhile Text.isDigit)
  | some rest => isOffset rest
  | none => false

/-- The forms of dates: year, month and day with all their digits, or with a time of day behind them. -/
def isInstant (cs : List Char) : Bool :=
  let whole := do
    let cs ← dropDigits? 4 4 cs
    let cs ← dropChar? '-' cs
    let cs ← dropDigits? 2 2 cs
    let cs ← dropChar? '-' cs
    dropDigits? 2 2 cs
  let date := do
    let cs ← dropDigits? 4 4 cs
    let cs ← dropChar? '-' cs
    let cs ← dropDigits? 1 2 cs
    let cs ← dropChar? '-' cs
    let cs ← dropDigits? 1 2 cs
    dropTimeMark? cs
  whole.any isOver || date.any isTime

/-! ### Tags of plain scalars -/

/-- The kinds, each with the characters that its forms start with. -/
def forms : List (String × String × (List Char → Bool)) :=
  [("bool", "yYnNtTfFoO", isTruthValue), ("float", "-+0123456789.", isFloat), ("int", "-+0123456789", isInteger),
    ("merge", "<", isWord ["<<"]), ("null", "~nN", isNull), ("timestamp", "0123456789", isInstant),
    ("value", "=", isWord ["="]), ("yaml", "!&*", isWord ["!", "&", "*"])]

/-- The tag of a plain scalar. -/
def ofPlain (text : Text) : String :=
  match text.chars? with
  | none => Tag.of "str"
  | some [] => Tag.of "null"
  | some (c :: cs) =>
    match forms.find? fun form => form.2.1.toList.contains c && form.2.2 (c :: cs) with
    | some form => Tag.of form.1
    | none => Tag.of "str"

end Kind
end Yaml
end GeneratorHost
