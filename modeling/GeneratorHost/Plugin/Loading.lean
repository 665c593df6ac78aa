import GeneratorHost.Plugin.Registry
import GeneratorHost.Text.Word

/-! Loading a plug-in: a file or a package is imported under a name that no other plug-in has. The path is
    checked first; nothing is executed and no name is given out before it is accepted. -/

namespace GeneratorHost
namespace Plugin

/-- What the name of every plug-in module starts with. -/
def nameStart : Text := "_genharness_plugin_"

/-- The stem of a path with every character that is not one of a word replaced by a low line. -/
def safeStem (p : Path) : Text :=
  ⟨p.stem.letters.map fun l => if Text.isWord l then l else .char '_'⟩

/-- The name of a plug-in module: its stem, and a token of eight hexadecimal digits. -/
def moduleName (p : Path) (token : Nat) : Text :=
  nameStart ++ safeStem p ++ "_" ++ Text.hexPadded 8 token

/-- The file to execute, and the directory of the package if it is one. -/
structure Origin where
  file : Path
  package : Option Path
  deriving DecidableEq, Repr, Inhabited

/-- Checks a resolved path: it has to be a package or a file of the right suffix. -/
def origin (files : FileTree) (p : Path) : Except Failure Origin := do
  if !(← files.exists p) then throw (.moduleMissing p.text)
  if ← files.isDirectory p then
    let file := p.child "__init__.py"
    if ← files.isFile file then pure ⟨file, some p⟩
    else throw (.plugin (.notPackage p.text))
  else if p.suffix == ".py" then pure ⟨p, none⟩
  else throw (.plugin (.unsupported p.text))

namespace Registry

def freshToken : Act Registry Nat := modifyGet fun r => (r.issued + 1, { r with issued := r.issued + 1 })

/-- Takes a step, and takes a module out of the registry if the step fails with an ordinary failure. -/
def orRemoveOrdinary (name : Text) (step : Act Registry Unit) : Act Registry Unit := fun r =>
  match step r with
  | .ok a s => .ok a s
  | .error e s =>
    if e.isOrdinary then
      match remove name s with
      | .ok _ t => .error e t
      | .error _ t => .error e t
    else .error e s

/-- Imports the module of an accepted path and gives back its name. -/
def importOrigin (files : FileTree) (p : Path) (o : Origin) : Act Registry Text := do
  let name := moduleName p (← freshToken)
  add (.registered name (if o.package.isSome then name else .empty) o.package o.file false)
  orRemoveOrdinary name do
    let statements ← Act.ofExcept (do statements (← files.read o.file))
    executeAll (loadSubmodule files (files.entries.length + 1)) name statements
  pure name

/-- Loads the plug-in at a path and gives back the name of its module. -/
def load (files : FileTree) (p : Path) : Act Registry Text := do
  let resolved ← Act.ofExcept (files.resolve p)
  let o ← Act.ofExcept (origin files resolved)
  importOrigin files resolved o

end Registry
end Plugin
end GeneratorHost
