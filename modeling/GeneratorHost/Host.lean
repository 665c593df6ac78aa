import GeneratorHost.Compilation
import GeneratorHost.FileTree
import GeneratorHost.Text.Lower

/-! The host of a run: the libraries that it can see. The standard library comes first, then every named
    distribution whose normalized name is not taken yet, in the order in which they were found. -/

namespace GeneratorHost

/-- An installed distribution. Name and version are missing if its metadata lack them. -/
structure Distribution where
  name : Option Text
  version : Option Text
  location : Path
  deriving DecidableEq, Repr, Inhabited

/-- What is known about the host. A distribution may have no metadata at all. -/
structure Host where
  standardLibrary : Option Text
  version : Text
  distributions : List (Option Distribution)
  deriving DecidableEq, Repr, Inhabited

namespace Host

def standardName : Text := "python"

/-- A character that separates the parts of a distribution's name. -/
def isSeparator (l : Letter) : Bool := l == .char '-' || l == .char '_' || l == .char '.'

/-- Every run of separators becomes one hyphen; `inRun` says that the last character was one. -/
def joinParts (inRun : Bool) : List Letter → List Letter
  | [] => []
  | l :: ls =>
    if isSeparator l then
      if inRun then joinParts true ls else .char '-' :: joinParts true ls
    else l :: joinParts false ls

/-- The form in which names of distributions are compared. -/
def normalize (name : Text) : Text :=
  (⟨joinParts false name.letters⟩ : Text).lower

def referenceTo (d : Distribution) (name : Text) : Reference :=
  ⟨name, d.version.getD .empty, d.location.text⟩

/-- The references to the named distributions whose normalized names are not in `seen`. -/
def references (seen : List Text) : List (Option Distribution) → List Reference
  | [] => []
  | none :: rest => references seen rest
  | some d :: rest =>
    match d.name with
    | none => references seen rest
    | some name =>
      if name == .empty || seen.contains (normalize name) then references seen rest
      else referenceTo d name :: references (normalize name :: seen) rest

/-- The libraries that the host can see. The standard library has to be a directory. -/
def libraries (host : Host) (files : FileTree) : Except Failure (List Reference) := do
  let missing : Failure := .host (.noStandardLibrary host.standardLibrary)
  match host.standardLibrary with
  | none => throw missing
  | some location =>
    if location == .empty then throw missing
    if !(← files.isDirectory (Path.ofText location)) then throw missing
    pure (⟨standardName, host.version, location⟩ :: references [standardName] host.distributions)

end Host
end GeneratorHost
