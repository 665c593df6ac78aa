import GeneratorHost.Text.Split

/-! Paths as they are written. A path is its names in order and what it starts from; empty names and
    single dots are left out, double dots are kept. -/

namespace GeneratorHost

/-- What a path starts from: the working directory, or the root, written with one slash or with two. -/
inductive Anchor
  | relative
  | root
  | doubleRoot
  deriving DecidableEq, Repr, Inhabited

def Anchor.text : Anchor → String
  | relative => ""
  | root => "/"
  | doubleRoot => "//"

structure Path where
  anchor : Anchor
  names : List Text
  deriving DecidableEq, Repr, Inhabited

namespace Path

def parentName : Text := ".."

/-- The anchor of a written path: two slashes stand apart, any other number counts as one. -/
def anchorOf : List Letter → Anchor
  | .char '/' :: .char '/' :: .char '/' :: _ => .root
  | .char '/' :: .char '/' :: _ => .doubleRoot
  | .char '/' :: _ => .root
  | _ => .relative

/-- The path that a text names. -/
def ofText (t : Text) : Path :=
  ⟨anchorOf t.letters, (Text.splitAt '/' t).filter fun name => name != .empty && name != "."⟩

/-- A path as text; the working directory itself is a dot. -/
def text (p : Path) : Text :=
  let body := p.anchor.text ++ Text.intercalate "/" p.names
  if body == .empty then "." else body

def isAbsolute (p : Path) : Bool := p.anchor != .relative

def child (p : Path) (name : Text) : Path := { p with names := p.names ++ [name] }

/-- `q` as seen from `p`. -/
def join (p q : Path) : Path :=
  if q.isAbsolute then q else { p with names := p.names ++ q.names }

def parent (p : Path) : Path := { p with names := p.names.dropLast }

def name (p : Path) : Text := p.names.getLast?.getD .empty

/-- A name cut at its last dot, unless that is its first or its last character. -/
def cutSuffix (name : Text) : Text × Text :=
  let tail := (name.letters.reverse.takeWhile (· != .char '.')).reverse
  let head := name.letters.take (name.length - tail.length - 1)
  if tail.isEmpty || head.isEmpty || tail.length == name.length then (name, .empty)
  else (⟨head⟩, ⟨.char '.' :: tail⟩)

def stem (p : Path) : Text := (cutSuffix p.name).1

/-- The part of the last name from its last dot on. -/
def suffix (p : Path) : Text := (cutSuffix p.name).2

end Path

/-- The names from the root of the file tree to an entry. -/
abbrev Route := List Text

def Path.ofRoute (route : Route) : Path := ⟨.root, route⟩

/-- The route that names lead to from `base`, where a double dot goes back by one. -/
def Route.follow (base : Route) (names : List Text) : Route :=
  (names.foldl (fun back name => if name == Path.parentName then back.drop 1 else name :: back) base.reverse).reverse

/-- The route of a path, seen from the working directory. -/
def Path.route (workingDirectory : Route) (p : Path) : Route :=
  Route.follow [] (if p.isAbsolute then p.names else workingDirectory ++ p.names)

end GeneratorHost
