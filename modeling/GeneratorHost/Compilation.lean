import GeneratorHost.Diagnostic

/-! Compilations: the documents and library references that a generator runs against. A compilation never
    changes; adding documents makes another one of the same name. -/

namespace GeneratorHost

/-- A library that the host can see. -/
structure Reference where
  name : Text
  version : Text
  location : Text
  deriving DecidableEq, Repr, Inhabited

namespace Reference

def ofFields (fields : Fields) : Except Failure Reference :=
  ((Reading.both (fields.required "name" Value.readText) <|
    Reading.both (fields.optional "version" Text.empty Value.readText)
      (fields.optional "location" Text.empty Value.readText)).map
    fun (name, version, location) => (⟨name, version, location⟩ : Reference)).mapError
      (.invalid "LibraryReference")

end Reference

/-- The text of a document and the path it goes by, which may be empty. -/
structure Source where
  path : Text
  text : Text
  deriving DecidableEq, Repr, Inhabited

namespace Source

def placeholder : Source := ⟨"", ""⟩

def ofFields (fields : Fields) : Except Failure Source :=
  ((Reading.both (fields.optional "file_path" Text.empty Value.readText)
    (fields.optional "text" Text.empty Value.readText)).map
    fun (path, text) => (⟨path, text⟩ : Source)).mapError (.invalid "SourceDocument")

end Source

/-- A document: its source and the stamp that tells it from every other document. -/
structure Document where
  stamp : Nat
  source : Source
  deriving DecidableEq, Repr, Inhabited

/-- Documents and references. The assembly name is a stamp as well. -/
structure Compilation where
  documents : List Document
  references : List Reference
  assembly : Nat
  deriving DecidableEq, Repr, Inhabited

namespace Compilation

def add (c : Compilation) (documents : List Document) : Compilation :=
  { c with documents := c.documents ++ documents }

def duplicatePathId : Text := "GH0001"

def duplicatePath (path : Text) : Diagnostic where
  id := duplicatePathId
  message := "Document path '" ++ path ++ "' is used by more than one document"
  severity := .warning
  location := some ⟨path, none⟩

/-- A warning for every path of `paths` that is not empty and stands before it or in `seen`. -/
def duplicatePaths (seen : List Text) : List Text → List Diagnostic
  | [] => []
  | path :: paths =>
    if path == "" then duplicatePaths seen paths
    else if seen.contains path then duplicatePath path :: duplicatePaths (path :: seen) paths
    else duplicatePaths (path :: seen) paths

/-- What there is to say about a compilation: the paths used twice, in the order of the documents. -/
def diagnostics (c : Compilation) : List Diagnostic :=
  duplicatePaths [] (c.documents.map (·.source.path))

/-- The documents of `c` that are not documents of `base`. -/
def newDocuments (c base : Compilation) : List Document :=
  c.documents.filter fun d => !(base.documents.any (·.stamp == d.stamp))

/-- No field of a compilation can be assigned to. -/
def assign (_ : Compilation) (field : String) : Except Failure Compilation :=
  .error (.fixed (.compilationField field))

end Compilation
end GeneratorHost
