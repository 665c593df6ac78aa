import GeneratorHost.FileTree

/-! Additional texts: inputs that are no documents. The text of a file is read each time it is asked for,
    and only then. -/

namespace GeneratorHost

/-- A text in a file, or one that is held in memory under a path. -/
inductive AdditionalText
  | file (path : Path)
  | inMemory (path text : Text)
  deriving DecidableEq, Repr, Inhabited

namespace AdditionalText

/-- The text of the file that a path names, which need not exist. -/
def ofPath (t : FileTree) (p : Path) : Except Failure AdditionalText :=
  (t.resolve p).map file

def path : AdditionalText → Text
  | file path => path.text
  | inMemory path _ => path

def content (t : FileTree) : AdditionalText → Except Failure Text
  | file path => (t.readText path).map .ofString
  | inMemory _ text => .ok text

def shown : AdditionalText → String
  | file path => "<FileAdditionalText path=" ++ Text.quoted path.text ++ ">"
  | inMemory path _ => "<InMemoryAdditionalText path=" ++ Text.quoted path ++ ">"

end AdditionalText
end GeneratorHost
