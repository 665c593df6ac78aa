import GeneratorHost.Value.Written

/-! JSON values and their text. Everything outside ASCII is escaped, in pairs of units where one unit is
    not enough. -/

namespace GeneratorHost

/-- A JSON value. The fields of an object keep their order; a number with a fraction or an exponent is a
    number of double precision, any other is an integer. -/
inductive Json
  | null
  | bool (b : Bool)
  | int (n : Int)
  | float (x : Double)
  | text (t : Text)
  | list (items : List Json)
  | object (fields : List (Text × Json))
  deriving Inhabited

namespace Json

/-- One unit of an escaped character. -/
def unitEscape (n : Nat) : String := "\\u" ++ Text.hexPadded 4 n

def escapeChar (c : Char) : String :=
  let n := c.toNat
  if c == '"' then "\\\""
  else if c == '\\' then "\\\\"
  else if c == '\n' then "\\n"
  else if c == '\r' then "\\r"
  else if c == '\t' then "\\t"
  else if n == 0xC then "\\f"
  else if n == 0x8 then "\\b"
  else if 0x20 ≤ n && n < 0x7F then String.singleton c
  else if n < 0x10000 then unitEscape n
  else unitEscape (0xD800 + (n - 0x10000) / 0x400) ++ unitEscape (0xDC00 + (n - 0x10000) % 0x400)

def escapeLetter : Letter → String
  | .char c => escapeChar c
  | .half n => unitEscape (Letter.half n).code

def textForm (t : Text) : String :=
  "\"" ++ String.join (t.letters.map escapeLetter) ++ "\""

def floatForm : Double → String
  | .nan => "NaN"
  | .infinity negative => if negative then "-Infinity" else "Infinity"
  | x => x.text

/-- The line end and the indentation of the given depth. -/
def lineBreak (depth : Nat) : String :=
  String.ofList ('\n' :: List.replicate (2 * depth) ' ')

mutual

def compact : Json → String
  | null => "null"
  | bool b => if b then "true" else "false"
  | int n => Text.ofInt n
  | float x => floatForm x
  | text t => textForm t
  | list items => "[" ++ ",".intercalate (compactItems items) ++ "]"
  | object fields => "\x7b" ++ ",".intercalate (compactFields fields) ++ "\x7d"

def compactItems : List Json → List String
  | [] => []
  | v :: vs => v.compact :: compactItems vs

def compactFields : List (Text × Json) → List String
  | [] => []
  | (k, v) :: rest => (textForm k ++ ":" ++ v.compact) :: compactFields rest

end

mutual

/-- The form of a value on as many lines as it has members, each indented by its depth. -/
def indented (depth : Nat) : Json → String
  | list [] => "[]"
  | list (v :: vs) =>
    "[" ++ lineBreak (depth + 1) ++
      ("," ++ lineBreak (depth + 1)).intercalate (v.indented (depth + 1) :: indentedItems (depth + 1) vs) ++
      lineBreak depth ++ "]"
  | object [] => "\x7b\x7d"
  | object ((k, v) :: rest) =>
    "\x7b" ++ lineBreak (depth + 1) ++
      ("," ++ lineBreak (depth + 1)).intercalate
        ((textForm k ++ ": " ++ v.indented (depth + 1)) :: indentedFields (depth + 1) rest) ++
      lineBreak depth ++ "\x7d"
  | null => "null"
  | bool b => if b then "true" else "false"
  | int n => Text.ofInt n
  | float x => floatForm x
  | text t => textForm t

def indentedItems (depth : Nat) : List Json → List String
  | [] => []
  | v :: vs => v.indented depth :: indentedItems depth vs

def indentedFields (depth : Nat) : List (Text × Json) → List String
  | [] => []
  | (k, v) :: rest => (textForm k ++ ": " ++ v.indented depth) :: indentedFields depth rest

end

def get? (name : Text) : Json → Option Json
  | object fields => (fields.find? (·.1 == name)).map (·.2)
  | _ => none

mutual

/-- The value that a JSON value stands for. -/
def toValue : Json → Value
  | null => .null
  | bool b => .bool b
  | int n => .int n
  | float x => .float x
  | text t => .text t
  | list items => .list (toValues items)
  | object fields => .map (toEntries fields)

def toValues : List Json → List Value
  | [] => []
  | v :: vs => v.toValue :: toValues vs

def toEntries : List (Text × Json) → List (Value × Value)
  | [] => []
  | (k, v) :: rest => (.text k, v.toValue) :: toEntries rest

end

end Json
end GeneratorHost
