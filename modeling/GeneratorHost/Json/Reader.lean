import GeneratorHost.Json

/-! Reading JSON. Each step returns what is left of the text; the number of characters bounds the depth. -/

namespace GeneratorHost
namespace Json

def skipBlanks (cs : List Char) : List Char :=
  cs.dropWhile fun c => c == ' ' || c == '\n' || c == '\r' || c == '\t'

/-- The value of four hexadecimal digits. -/
def readUnit? : List Char → Option (Nat × List Char)
  | a :: b :: c :: d :: rest => do
    let digits ← [a, b, c, d].mapM Text.baseDigit?
    if digits.all (· < 16) then some (Text.ofDigits 16 digits, rest) else none
  | _ => none

/-- The letter of one unit, or of two that make up a pair. A unit that is half of a pair on its own stays a
    half. -/
def readUnits? (rest : List Char) : Option (Letter × List Char) := do
  let (high, rest) ← readUnit? rest
  let alone := (Letter.ofCode high, rest)
  if 0xD800 ≤ high && high < 0xDC00 then
    match rest with
    | '\\' :: 'u' :: more =>
      match readUnit? more with
      | some (low, more) =>
        if 0xDC00 ≤ low && low < 0xE000 then
          some (.char (Char.ofNat (0x10000 + (high - 0xD800) * 0x400 + (low - 0xDC00))), more)
        else some alone
      | none => some alone
    | _ => some alone
  else some alone

def readEscape? : List Char → Option (Letter × List Char)
  | 'u' :: rest => readUnits? rest
  | 'n' :: rest => some ('\n', rest)
  | 'r' :: rest => some ('\r', rest)
  | 't' :: rest => some ('\t', rest)
  | 'b' :: rest => some (Char.ofNat 0x8, rest)
  | 'f' :: rest => some (Char.ofNat 0xC, rest)
  | c :: rest => if c == '"' || c == '\\' || c == '/' then some (c, rest) else none
  | [] => none

/-- Reads a text up to its closing quote; `read` holds the letters so far, the last one first. -/
def readText? (read : List Letter) : Nat → List Char → Option (Text × List Char)
  | 0, _ => none
  | _ + 1, [] => none
  | _ + 1, '"' :: rest => some (⟨read.reverse⟩, rest)
  | fuel + 1, '\\' :: rest => do
    let (l, rest) ← readEscape? rest
    readText? (l :: read) fuel rest
  | fuel + 1, c :: rest => readText? (.char c :: read) fuel rest

/-- The number that a numeral spells: an integer unless it has a fraction or an exponent. -/
def numberOf? (cs : List Char) : Option Json := do
  let (negative, rest) := match cs with
    | '-' :: rest => (true, rest)
    | rest => (false, rest)
  let (whole, rest) := rest.span Text.isDigit
  if whole.isEmpty then none
  let (fraction, rest) := match rest with
    | '.' :: rest => rest.span Text.isDigit
    | rest => ([], rest)
  if rest.isEmpty && whole.length + fraction.length + (if negative then 1 else 0) == cs.length then
    let n : Int := Text.decimalValue whole
    some (.int (if negative then -n else n))
  else
    let exponent : Option Int := match rest with
      | [] => some 0
      | e :: rest =>
        if e == 'e' || e == 'E' then
          match rest with
          | '+' :: digits => some (Text.decimalValue digits)
          | '-' :: digits => some (-(Text.decimalValue digits : Int))
          | digits => some (Text.decimalValue digits)
        else none
    exponent.map fun power =>
      .float (Double.ofDecimal negative (Text.decimalValue (whole ++ fraction)) (power - fraction.length))

/-- The words for numbers that have no digits, each with its number. -/
def numberWords : List (String × Double) :=
  [("NaN", .nan), ("Infinity", .infinity false), ("-Infinity", .infinity true)]

/-- Reads a word for a number. -/
def readNumberWord? (cs : List Char) : Option (Json × List Char) :=
  (numberWords.find? fun entry => entry.1.toList.isPrefixOf cs).map fun entry =>
    (.float entry.2, cs.drop entry.1.length)

/-- A character that may stand in a numeral. -/
def isNumeral (c : Char) : Bool := Text.isDigit c || c == '-' || c == '+' || c == '.' || c == 'e' || c == 'E'

mutual

def readValue? : Nat → List Char → Option (Json × List Char)
  | 0, _ => none
  | fuel + 1, cs =>
    match skipBlanks cs with
    | 'n' :: 'u' :: 'l' :: 'l' :: rest => some (null, rest)
    | 't' :: 'r' :: 'u' :: 'e' :: rest => some (bool true, rest)
    | 'f' :: 'a' :: 'l' :: 's' :: 'e' :: rest => some (bool false, rest)
    | '"' :: rest => (readText? [] (rest.length + 1) rest).map fun (t, rest) => (text t, rest)
    | '[' :: rest =>
      match skipBlanks rest with
      | ']' :: rest => some (list [], rest)
      | rest => (readItems? fuel rest).map fun (items, rest) => (list items, rest)
    | '\x7b' :: rest =>
      match skipBlanks rest with
      | '\x7d' :: rest => some (object [], rest)
      | rest => (readFields? fuel rest).map fun (fields, rest) => (object fields, rest)
    | cs =>
      (readNumberWord? cs).orElse fun _ =>
        let (numeral, rest) := cs.span isNumeral
        (numberOf? numeral).map fun v => (v, rest)

def readItems? : Nat → List Char → Option (List Json × List Char)
  | 0, _ => none
  | fuel + 1, cs => do
    let (v, rest) ← readValue? fuel cs
    match skipBlanks rest with
    | ',' :: rest => (readItems? fuel rest).map fun (vs, rest) => (v :: vs, rest)
    | ']' :: rest => some ([v], rest)
    | _ => none

def readFields? : Nat → List Char → Option (List (Text × Json) × List Char)
  | 0, _ => none
  | fuel + 1, cs => do
    match skipBlanks cs with
    | '"' :: rest =>
      let (k, rest) ← readText? [] (rest.length + 1) rest
      match skipBlanks rest with
      | ':' :: rest =>
        let (v, rest) ← readValue? fuel rest
        match skipBlanks rest with
        | ',' :: rest => (readFields? fuel rest).map fun (fields, rest) => ((k, v) :: fields, rest)
        | '\x7d' :: rest => some ([(k, v)], rest)
        | _ => none
      | _ => none
    | _ => none

end

/-- The value that a text spells, with nothing but blanks around it. -/
def parse? (s : String) : Option Json :=
  match readValue? (s.length + 1) s.toList with
  | some (v, rest) => if (skipBlanks rest).isEmpty then some v else none
  | none => none

end Json
end GeneratorHost
