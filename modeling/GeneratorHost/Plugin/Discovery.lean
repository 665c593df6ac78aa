import GeneratorHost.Plugin.Registry

/-! Which generator of a module is run: the first concrete generator that its namespace holds and that is
    defined in the module or below it. -/

namespace GeneratorHost
namespace Plugin

/-- A name that is a module's name, or that name followed by a dot and more. -/
def belongsTo (moduleName owner : Text) : Bool :=
  owner == moduleName || (moduleName ++ ".").startsWith owner

/-- What a module without a name is asked in vain. -/
def nameless : Failure := .importing (.noMember (.module none false) Module.nameName)

/-- Whether a class claims to be from a module or from below it, as far as what both go by are texts or one thing. -/
def owns (m : Module) (c : Class) : Except Failure Bool :=
  match m.bindings.get? Module.nameName, c.owner with
  | none, _ => .error nameless
  | some (.text name), .text owner => .ok (belongsTo name owner)
  | some name, owner =>
    if owner.isSame name then .ok true
    else match owner with
      | .text _ => .error (.importing (.notJoined name.kindName))
      | owner => .error (.importing (.noMember owner.holder "startswith"))

/-- The classes of a list that are owned by a module. -/
def ownedOf (m : Module) : List Class → Except Failure (List Class)
  | [] => .ok []
  | c :: cs => do
    let isOwned ← owns m c
    let others ← ownedOf m cs
    pure (if isOwned then c :: others else others)

/-- The concrete generators defined in a module, in the order of its namespace. -/
def candidates (m : Module) : Except Failure (List Class) := ownedOf m (m.bindings.classes.filter (·.isConcrete))

/-- What a module is called in messages: its file, or else what it goes by. -/
def displayName (m : Module) : Except Failure Text :=
  match (m.bindings.get? Module.fileName).filter (·.isTrue), m.bindings.get? Module.nameName with
  | some file, _ => .ok file.shown
  | none, some name => .ok name.shown
  | none, none => .error nameless

/-- The class to run, all the classes that could be, and a warning if there are several. -/
structure Resolution where
  chosen : Class
  candidates : List Class
  warning : Option Text
  deriving Inhabited

def Resolution.isAmbiguous (r : Resolution) : Bool := r.candidates.length > 1

def ambiguity (display : Text) (chosen : Class) : Text :=
  "Warning: Multiple generators found in " ++ display ++ ", using the first one: " ++ chosen.qualifiedName

/-- Picks one of the candidates of a module. -/
def choose (display : Text) : List Class → Except Failure Resolution
  | [] => .error (.plugin (.noGenerator display))
  | [chosen] => .ok ⟨chosen, [chosen], none⟩
  | chosen :: others => .ok ⟨chosen, chosen :: others, some (ambiguity display chosen)⟩

/-- Picks the generator of a module. -/
def resolve (m : Module) : Except Failure Resolution := do
  let found ← candidates m
  let display ← displayName m
  choose display found

/-- A generator: what it is called, the name of its class, and what it does. -/
structure Generator where
  name : GeneratorName
  className : Text
  script : Script
  deriving Inhabited

/-- A generator as it is shown. A method is shown with the generator that it is a method of. -/
def Generator.shown (g : Generator) : Except Failure Text :=
  match g.name with
  | .text name => .ok ("<" ++ g.className ++ " name=" ++ name.quoted ++ ">")
  | .method => .error .unshowable

/-- What making an instance of an abstract generator is refused with. -/
def abstractMessage (c : Class) : Text :=
  let methods := c.abstractMethods.eraseDups.mergeSort fun a b => !(b.isBefore a)
  "Can't instantiate abstract class " ++ c.name ++ " with abstract method" ++
    (if methods.length == 1 then "" else "s") ++ " " ++ Text.intercalate ", " methods

/-- Makes an instance of a class that is not abstract. -/
def construct (c : Class) : Except Failure Generator :=
  match c.constructor with
  | .needsArgument className => .error (.missingArguments (className ++ "." ++ Class.constructorName) ["x"])
  | .fails failure => .error failure
  | .free => .ok ⟨c.shownName.getD (.text c.name), c.name, if c.isScripted then c.script else []⟩

/-- Makes an instance of a class. An abstract one is refused before anything else of it is looked at. -/
def instantiate (c : Class) : Except Failure Generator :=
  if c.isAbstract then .error (.raised "TypeError" (abstractMessage c)) else construct c

end Plugin
end GeneratorHost
