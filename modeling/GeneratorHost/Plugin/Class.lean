import GeneratorHost.Plugin.Statement
import GeneratorHost.Text.Split

/-! Classes and the namespace of a plug-in module. A name keeps its place when it is bound again; a name
    that was deleted comes last when it is bound once more. Of what the language gives to every class only its names and
    its constructor are known here. -/

namespace GeneratorHost
namespace Plugin

/-- How an instance of a class is made: without more ado, not without an argument, or not at all. -/
inductive Constructor
  | free
  | needsArgument (className : Text)
  | fails (failure : Failure)
  deriving Inhabited

/-- What a generator answers when it is asked for its name: a text, or a method if one stands where the name is
    expected. -/
inductive GeneratorName
  | text (name : Text)
  | method
  deriving DecidableEq, Repr, Inhabited

/-- What a module is given before its statements are executed, beside texts: what imports it, how it was found, and where
    its submodules are looked for. -/
inductive ModulePart
  | loader (kind : String)
  | spec (parent : Text)
  | path (kind : String)
  deriving DecidableEq, Repr, Inhabited

mutual

/-- A class. Its stamp tells it from every other class, whatever names it is bound to. -/
structure Class where
  stamp : Nat
  name : Text
  qualifiedName : Text
  /-- what the class claims to be from; that is the name of a module, as a rule -/
  owner : Binding
  isGenerator : Bool
  /-- the methods that are still abstract -/
  abstractMethods : List Text
  /-- what initialization does; nothing if it was only made concrete -/
  script : Script
  isScripted : Bool
  /-- what its instances answer when they are asked for their name; the name of their class if nothing is said -/
  shownName : Option GeneratorName
  constructor : Constructor
  /-- what can be looked up in the class, that of the class itself before what it inherits -/
  members : List (Text × Binding)

/-- What a name is bound to. A value is told from others of its kind by the stamp of the class that it stands in and the
    name that it has there, unless there is but one of the kind. No name leads to anything inside of a value. -/
inductive Binding
  | class (c : Class)
  | text (t : Text)
  | value (kind : String) (place : Option (Nat × Text))
  | part (moduleName : Text) (p : ModulePart)
  | module (name : Text)

end

instance : Inhabited Binding := ⟨.value "int" none⟩

namespace Binding

/-- The one value that value statements bind. -/
def one : Binding := .value "int" none

def nothing : Binding := .value "NoneType" none

def class? : Binding → Option Class
  | «class» c => some c
  | _ => none

def kindName : Binding → String
  | «class» c => if c.isGenerator then "ABCMeta" else "type"
  | text _ => "str"
  | value kind _ => kind
  | part _ (.loader kind) => kind
  | part _ (.spec _) => "ModuleSpec"
  | part _ (.path kind) => kind
  | module _ => "module"

def isNothing : Binding → Bool
  | value kind _ => kind == "NoneType"
  | _ => false

/-- Whether two bindings are one thing, or texts that are alike. -/
def isSame : Binding → Binding → Bool
  | «class» c, «class» c' => c.stamp == c'.stamp
  | text t, text t' => t == t'
  | value kind place, value kind' place' => kind == kind' && place == place'
  | part moduleName p, part moduleName' p' => moduleName == moduleName' && p == p'
  | module name, module name' => name == name'
  | _, _ => false

/-- A text, or how something else is written as one. Addresses and the like are left out. -/
def shown : Binding → Text
  | «class» ⟨_, name, qualifiedName, owner, _, _, _, _, _, _, _⟩ => match owner with
    | text owner => "<class '" ++ (if owner == "builtins" then name else owner ++ "." ++ qualifiedName) ++ "'>"
    | _ => "<class '" ++ name ++ "'>"
  | text t => t
  | value "int" _ => "1"
  | value "NoneType" _ => "None"
  | module name => "<module " ++ name.quoted ++ ">"
  | b => "<" ++ b.kindName ++ " object>"

/-- How something is named that is looked into in vain. -/
def holder : Binding → Holder
  | «class» c => .class c.name
  | module name => .module (some name) false
  | b => .value b.kindName

/-- Whether a binding counts as true. -/
def isTrue : Binding → Bool
  | text t => t != .empty
  | b => !b.isNothing

/-- A text with more behind it. Nothing else can be continued, but by nothing. -/
def continued (suffix : Text) : Binding → Except Failure Binding
  | text t => .ok (.text (t ++ suffix))
  | b => if suffix == .empty then .ok b else .error (.importing (.notJoined b.kindName))

end Binding

namespace Class

def plain (stamp : Nat) (name : Text) (owner : Binding) : Class where
  stamp := stamp
  name := name
  qualifiedName := name
  owner := owner
  isGenerator := false
  abstractMethods := []
  script := []
  isScripted := false
  shownName := none
  constructor := .free
  members := []

instance : Inhabited Class := ⟨plain 0 .empty default⟩

def initialization : Text := "initialize"

def scriptName : Text := "SCRIPT"

def shownNameName : Text := "name"

def constructorName : Text := "__init__"

def methodKind : String := "function"

def listKind : String := "list"

def propertyKind : String := "property"

def nameName : Text := "__name__"

/-- What a class says about itself. Nothing that is defined in it stands before that. -/
def ownMembers (name qualifiedName : Text) (owner : Binding) : List (Text × Binding) :=
  [(nameName, .text name), ("__qualname__", .text qualifiedName), ("__module__", owner)]

/-- Members of given kinds, in the class with a stamp. -/
def membersOf (stamp : Nat) (kinds : List (Text × String)) : List (Text × Binding) :=
  kinds.map fun entry => (entry.1, .value entry.2 (some (stamp, entry.1)))

/-- A class that no plug-in defines, with members of its own and those that it inherits. -/
def ready (stamp : Nat) (name owner : Text) (kinds : List (Text × String)) (inherited : List (Text × Binding)) : Class :=
  { plain stamp name (.text owner) with
    members := ownMembers name name (.text owner) ++ (membersOf stamp kinds ++ inherited) }

/-- The class that every other one is derived from. -/
def top : Class := ready 0 "object" "builtins" [(constructorName, "wrapper_descriptor")] []

/-- The generator that is only a base for others. -/
def abstractBase : Class :=
  { ready 1 "IncrementalGenerator" "genharness.generators.base"
      [(shownNameName, propertyKind), (initialization, methodKind)] top.members with
    isGenerator := true
    abstractMethods := [initialization] }

/-- What a generator that runs a script has of its own. -/
def scriptedKinds : List (Text × String) := [(scriptName, listKind), (initialization, methodKind)]

/-- A generator that runs the script it is given. -/
def scriptedBase : Class :=
  { ready 2 "ScriptedGenerator" "external" scriptedKinds abstractBase.members with isGenerator := true, isScripted := true }

/-- A generator that is defined outside of every plug-in. -/
def externalBase : Class :=
  { ready 3 "ExternalGenerator" "external" scriptedKinds abstractBase.members with isGenerator := true, isScripted := true }

def firstStamp : Nat := 4

/-- A generator that can be instantiated. -/
def isConcrete (c : Class) : Bool := c.isGenerator && c.abstractMethods.isEmpty

/-- A generator that cannot be instantiated. What other classes declare abstract does not keep them from it. -/
def isAbstract (c : Class) : Bool := c.isGenerator && !c.abstractMethods.isEmpty

/-- What a method does that stands where a script is expected. -/
def noScript : Script := [.raise (.raised "TypeError" "'method' object is not iterable")]

/-- What a statement puts into its class, with the kinds of it. -/
def definedMembers (d : ClassStatement) : List (Text × String) :=
  (d.script.toList.map fun _ => (scriptName, listKind)) ++
    (d.shownName.toList.map fun _ => (shownNameName, propertyKind)) ++
    (if d.requiresArgument || d.creationFailure.isSome then [(constructorName, methodKind)] else []) ++
    d.abstractMethods.map (·, methodKind) ++ d.implemented.map (·, methodKind)

/-- The abstract methods of the class that a statement defines. A method made concrete is none, whatever else
    is said about it; one declared abstract is one; what is inherited stays abstract until it is defined. -/
def abstractMethodsOf (base : Class) (d : ClassStatement) : List Text :=
  let defined := definedMembers d
  (d.abstractMethods ++ base.abstractMethods.filter fun m => !defined.any (·.1 == m)).filter
    fun m => !d.implemented.contains m

def constructorOf (base : Class) (qualifiedName : Text) (d : ClassStatement) : Constructor :=
  if d.implemented.contains constructorName then .free
  else match d.creationFailure with
    | some failure => .fails failure
    | none => if d.requiresArgument then .needsArgument qualifiedName else base.constructor

/-- What instances answer when they are asked for their name, as far as a statement says so. A method that is defined
    under that name stands before the name that is given. -/
def shownNameOf (d : ClassStatement) : Option GeneratorName :=
  if d.implemented.contains shownNameName || d.abstractMethods.contains shownNameName then some .method
  else d.shownName.map .text

/-- The class that a statement defines, given what it claims to be from. What the statement does not say is inherited. -/
def define (stamp : Nat) (owner : Binding) (base : Class) (d : ClassStatement) : Class :=
  let qualifiedName := match d.within with
    | some outer => outer ++ "." ++ d.name
    | none => d.name
  { stamp, qualifiedName, owner
    name := d.name
    isGenerator := base.isGenerator
    abstractMethods := abstractMethodsOf base d
    script := if d.implemented.contains scriptName then noScript else d.script.getD base.script
    isScripted := base.isScripted && !d.implemented.contains initialization
    shownName := (shownNameOf d).orElse fun _ => base.shownName
    constructor := constructorOf base qualifiedName d
    members := ownMembers d.name qualifiedName owner ++ ((membersOf stamp (definedMembers d)).reverse ++ base.members) }

def enclosing (stamp : Nat) (name : Text) (owner : Binding) (inner : Class) : Class :=
  { plain stamp name owner with
    members := ownMembers name name owner ++ ((inner.name, .class inner) :: top.members) }

end Class

/-- Names and what they are bound to, in order. -/
abbrev Namespace := List (Text × Binding)

namespace Namespace

/-- Binds a name, in its place if it is bound already. -/
def bind (name : Text) (b : Binding) : Namespace → Namespace
  | [] => [(name, b)]
  | entry :: rest => if entry.1 = name then (name, b) :: rest else entry :: Namespace.bind name b rest

def unbind (n : Namespace) (name : Text) : Namespace := n.filter fun entry => entry.1 != name

def get? (n : Namespace) (name : Text) : Option Binding := (n.find? (·.1 == name)).map (·.2)

/-- What a name leads to inside of something. `inModule` looks into modules. -/
def member (inModule : Text → Text → Except Failure Binding) (b : Binding) (name : Text) : Except Failure Binding :=
  match b with
  | .class c => match c.members.find? (·.1 == name) with
    | some (_, b) => .ok b
    | none => .error (.importing (.noMember (.class c.name) name))
  | .module moduleName => inModule moduleName name
  | b => .error (.importing (.noMember (.value b.kindName) name))

/-- Names that need no binding, as far as they are known here. Some are names that every module goes by, so that one which
    has lost its own goes by these. -/
def builtins : Namespace :=
  [(Class.top.name, .class Class.top), (Class.nameName, Class.top.owner), ("__package__", .text .empty),
    ("__spec__", .part "builtins" (.spec .empty))]

/-- What a name stands for. -/
def find? (n : Namespace) (name : Text) : Option Binding := (n.get? name).orElse fun _ => builtins.get? name

/-- What a name leads to; behind each dot in it stands the name of a member. -/
def resolve (inModule : Text → Text → Except Failure Binding) (n : Namespace) (name : Text) :
    Except Failure Binding :=
  match Text.splitAt '.' name with
  | [] => .error (.importing (.unbound name))
  | first :: more => match n.find? first with
    | none => .error (.importing (.unbound first))
    | some b => more.foldlM (member inModule) b

/-- The classes that names are bound to, each of them once. -/
def classes (n : Namespace) : List Class :=
  n.foldl (fun found entry => match entry.2.class? with
    | some c => if found.any (·.stamp == c.stamp) then found else found ++ [c]
    | none => found) []

end Namespace
end Plugin
end GeneratorHost
