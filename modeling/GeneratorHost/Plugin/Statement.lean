import GeneratorHost.Script

/-! Plug-in modules as data: a module is a list of statements that fill its namespace when it is
    imported. -/

namespace GeneratorHost
namespace Plugin

/-- What a class is derived from. -/
inductive Base
  /-- a concrete generator defined elsewhere -/
  | generator
  /-- the abstract generator -/
  | abstract
  /-- no generator -/
  | plain
  /-- the class bound to a name -/
  | named (name : Text)
  deriving Repr, Inhabited

structure ClassStatement where
  name : Text
  base : Base
  /-- what its initialization does, unless that is inherited -/
  script : Option Script
  /-- the name that its generators go by, unless that is the name of the class -/
  shownName : Option Text
  /-- methods declared abstract -/
  abstractMethods : List Text
  /-- methods made concrete -/
  implemented : List Text
  /-- an instance cannot be made without an argument -/
  requiresArgument : Bool
  /-- how making an instance fails -/
  creationFailure : Option Failure
  /-- what follows the module's name in the name of the module that the class claims to be from -/
  moduleSuffix : Text
  /-- the enclosing class -/
  within : Option Text
  deriving Inhabited

/-- What an import statement imports from. -/
inductive ImportSource
  /-- the library that the program supplies -/
  | external
  /-- the package itself -/
  | package
  /-- a submodule, by the names that lead to it -/
  | submodule (names : List Text)
  deriving Repr, Inhabited

inductive Statement
  | define (definition : ClassStatement)
  | alias (name target : Text)
  | delete (name : Text)
  | bindValue (name : Text)
  | importFrom (source : ImportSource) (name : Text)
  | setFile (file : Option Text)
  | raise (failure : Failure)
  deriving Inhabited

end Plugin
end GeneratorHost
