/-! Texts. A text is a list of letters. A letter is a character, or one half of a pair of codes that
    stands for a character only as a pair; an escape can leave such a half on its own. -/

namespace GeneratorHost

/-- A letter of a text. The halves are numbered from the first on. -/
inductive Letter
  | char (c : Char)
  | half (n : Fin 2048)
  deriving DecidableEq, Repr, Inhabited

namespace Letter

instance : Coe Char Letter := ⟨char⟩

/-- The code of the first half. -/
def firstHalf : Nat := 0xD800

def code : Letter → Nat
  | char c => c.toNat
  | half n => firstHalf + n

def ofCode (n : Nat) : Letter :=
  if h : firstHalf ≤ n ∧ n < 0xE000 then half ⟨n - firstHalf, by unfold firstHalf at *; omega⟩
  else char (Char.ofNat n)

/-- The character that a letter is, if it is one. -/
def char? : Letter → Option Char
  | char c => some c
  | half _ => none

/-- Whether a letter is a half. -/
def isHalf (l : Letter) : Bool := l.char?.isNone

end Letter

structure Text where
  letters : List Letter
  deriving DecidableEq, Repr, Inhabited

namespace Text

def ofChars (cs : List Char) : Text := ⟨cs.map .char⟩

def ofString (s : String) : Text := ofChars s.toList

instance : Coe String Text := ⟨ofString⟩

def empty : Text := ⟨[]⟩

/-- Two texts, one behind the other. -/
def append (s t : Text) : Text := ⟨s.letters ++ t.letters⟩

instance : Append Text := ⟨append⟩

def length (t : Text) : Nat := t.letters.length

/-- Texts, one behind the other. -/
def join (ts : List Text) : Text := ⟨ts.flatMap letters⟩

/-- Texts with a separator between them. -/
def intercalate (separator : Text) (ts : List Text) : Text := join (ts.intersperse separator)

/-- The characters of a text that holds no half. -/
def chars? (t : Text) : Option (List Char) := t.letters.mapM Letter.char?

def string? (t : Text) : Option String := t.chars?.map String.ofList

/-- The text as a string, with `f` in the place of its halves. -/
def stringWith (f : Nat → String) (t : Text) : String :=
  String.join (t.letters.map fun l => match l with
    | .char c => String.singleton c
    | .half _ => f l.code)

/-- Whether a text starts with another one. -/
def startsWith (start t : Text) : Bool := start.letters.isPrefixOf t.letters

/-- The order of texts by the codes of their letters. -/
def isBefore (s t : Text) : Bool :=
  decide (s.letters.map Letter.code < t.letters.map Letter.code)

theorem ext {s t : Text} (h : s.letters = t.letters) : s = t := by
  cases s
  cases t
  cases h
  rfl

/-! ### Characters and texts -/

theorem letters_ofString (s : String) : (ofString s).letters = s.toList.map .char := rfl

/-- The character of a text with one character. -/
theorem chars?_ofChars (cs : List Char) : (ofChars cs).chars? = some cs := by
  simp only [chars?, ofChars]
  induction cs with
  | nil => rfl
  | cons c cs ih => simp [List.mapM_cons, Letter.char?, ih]

theorem string?_ofString (s : String) : (ofString s).string? = some s := by
  simp [string?, ofString, chars?_ofChars, String.ofList_toList]

theorem ofString_inj {s t : String} (h : ofString s = ofString t) : s = t := by
  have := congrArg string? h
  simpa [string?_ofString] using this

end Text
end GeneratorHost
