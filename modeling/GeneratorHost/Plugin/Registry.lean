import GeneratorHost.FileTree
import GeneratorHost.Plugin.Class

/-! The registry of plug-in modules, and what happens when one is imported: its statements are executed in
    order, and a statement may import submodules of the package. A submodule whose import fails is taken
    out of the registry again; those that were finished stay.

    A module says of itself what it goes by, which package it is in and the like, under names that it may bind
    otherwise. Classes, imports and failures go by what it says at the time. Whatever it says, an import finds modules
    of the same plug-in only, and those of a package only in the directory of the package. -/

namespace GeneratorHost
namespace Plugin

structure Module where
  /-- the name that the module is registered under -/
  name : Text
  /-- where the submodules of a package are looked for -/
  searchPath : Option Path
  bindings : Namespace
  /-- whether the import of the submodule is still going on -/
  isUnfinished : Bool
  deriving Inhabited

namespace Module

def nameName : Text := Class.nameName
def docName : Text := "__doc__"
def packageName : Text := "__package__"
def loaderName : Text := "__loader__"
def specName : Text := "__spec__"
def pathName : Text := "__path__"
def fileName : Text := "__file__"
def cachedName : Text := "__cached__"
def builtinsName : Text := "__builtins__"

/-- The file in which a source file would be kept once it is compiled. -/
def cached (source : Path) : Path := (source.parent.child "__pycache__").child (source.stem ++ ".cpython-311.pyc")

/-- What a module says about itself before its statements are executed. Without a source it is a mere directory. -/
def attributes (name package : Text) (isPackage : Bool) : Option Path → Namespace
  | some source =>
    [(nameName, .text name), (docName, .nothing), (packageName, .text package),
      (loaderName, .part name (.loader "SourceFileLoader")), (specName, .part name (.spec package))] ++
    (if isPackage then [(pathName, .part name (.path "list"))] else []) ++
    [(fileName, .text source.text), (cachedName, .text (cached source).text), (builtinsName, .value "dict" none)]
  | none =>
    [(nameName, .text name), (docName, .nothing), (packageName, .text package),
      (loaderName, .part name (.loader "NamespaceLoader")), (specName, .part name (.spec package)),
      (fileName, .nothing), (pathName, .part name (.path "_NamespacePath"))]

/-- A module as it is registered. -/
def registered (name package : Text) (searchPath source : Option Path) (isUnfinished : Bool) : Module :=
  ⟨name, searchPath, attributes name package searchPath.isSome source, isUnfinished⟩

def textOf? (m : Module) (name : Text) : Option Text :=
  match m.bindings.get? name with
  | some (.text t) => some t
  | _ => none

/-- Whether it can be told that the import of a module is still going on. -/
def showsUnfinished (m : Module) : Bool :=
  m.isUnfinished && match m.bindings.get? specName with
    | some (.part owner (.spec _)) => owner == m.name
    | _ => false

/-- How a module is named when something is looked up in it in vain. -/
def holder (m : Module) : Holder := .module (m.textOf? nameName) m.showsUnfinished

end Module

/-- The registered modules and how many names and classes were given out. -/
structure Registry where
  modules : List Module
  issued : Nat
  nextStamp : Nat
  deriving Inhabited

namespace Registry

def empty : Registry := ⟨[], 0, Class.firstStamp⟩

def find? (r : Registry) (name : Text) : Option Module := r.modules.find? (·.name == name)

def add (m : Module) : Act Registry Unit := modify fun r => { r with modules := r.modules ++ [m] }

def remove (name : Text) : Act Registry Unit :=
  modify fun r => { r with modules := r.modules.filter fun m => m.name != name }

def update (name : Text) (change : Module → Module) : Act Registry Unit :=
  modify fun r => { r with modules := r.modules.map fun m => if m.name == name then change m else m }

def bindings (r : Registry) (name : Text) : Namespace :=
  match r.find? name with
  | some m => m.bindings
  | none => []

def bind (moduleName name : Text) (b : Binding) : Act Registry Unit :=
  update moduleName fun m => { m with bindings := m.bindings.bind name b }

def freshStamp : Act Registry Nat := modifyGet fun r => (r.nextStamp, { r with nextStamp := r.nextStamp + 1 })

/-! ### Names -/

/-- What a name is bound to in a module. -/
def member (r : Registry) (moduleName name : Text) : Except Failure Binding :=
  match (r.bindings moduleName).get? name with
  | some b => .ok b
  | none => .error (.importing (.noMember (((r.find? moduleName).map Module.holder).getD (.module moduleName false)) name))

/-- What a name leads to, seen from a module. -/
def resolve (r : Registry) (moduleName name : Text) : Except Failure Binding :=
  (r.bindings moduleName).resolve r.member name

/-! ### Statements -/

/-- The class that a class statement in a module is derived from. -/
def baseClass (r : Registry) (moduleName : Text) : Base → Except Failure Class
  | .generator => .ok Class.scriptedBase
  | .abstract => .ok Class.abstractBase
  | .plain => .ok Class.top
  | .named name => do
    match ← r.resolve moduleName name with
    | .class c => .ok c
    | b => .error (.importing (.notClass b.kindName))

/-- What a class claims to be from that is defined in a module: what the module goes by. -/
def ownerIn (r : Registry) (moduleName : Text) : Binding :=
  ((r.bindings moduleName).get? Module.nameName).getD Class.top.owner

def define (moduleName : Text) (d : ClassStatement) : Act Registry Unit := do
  let base ← Act.ofExcept (baseClass (← get) moduleName d.base)
  let own := ownerIn (← get) moduleName
  let owner ← Act.ofExcept (own.continued d.moduleSuffix)
  let c := Class.define (← freshStamp) owner base d
  match d.within with
  | none => bind moduleName d.name (.class c)
  | some outer => bind moduleName outer (.class (Class.enclosing (← freshStamp) outer own c))

/-- The classes that the program itself supplies. -/
def supplied? (name : Text) : Option Class :=
  [Class.externalBase, Class.scriptedBase, Class.abstractBase].find? fun c => c.name == name

/-- What importing a name from a module fails with that is not there. A module that goes by no name but has a file is not
    even told properly. -/
def noName (m : Module) (name : Text) : Failure :=
  if (m.bindings.get? Module.nameName).isNone && (m.textOf? Module.fileName).isSome then
    .raised "SystemError" "<class 'ImportError'> returned a result with an exception set"
  else .importing (.noName name (m.textOf? Module.nameName) (m.textOf? Module.fileName) m.showsUnfinished)

/-! ### What imports start from -/

/-- What a name is bound to, if that is something. -/
def present? (n : Namespace) (name : Text) : Option Binding := (n.get? name).filter (!·.isNothing)

/-- A name up to its first dot. -/
def rootOf (name : Text) : Text := (Text.splitAt '.' name).headD name

/-- A name without its last dot and what follows; nothing if it has no dot. -/
def enclosingName (name : Text) : Text := Text.intercalate "." (Text.splitAt '.' name).dropLast

/-- What is found for a module tells which package it is in. -/
def parentOf (r : Registry) : Binding → Except Failure Binding
  | .part _ (.spec parent) => .ok (.text parent)
  | b => Namespace.member r.member b "parent"

/-- The package that the relative imports of a module start from, as its names tell: what it says of its package, or what
    was found of it, or what it goes by. -/
def packageOf (r : Registry) (n : Namespace) : Except Failure Text :=
  match present? n Module.packageName, present? n Module.specName with
  | some (.text package), none => .ok package
  | some (.text package), some spec => (r.parentOf spec).map fun _ => package
  | some _, _ => .error (.importing (.notText "package"))
  | none, some spec => do
    match ← r.parentOf spec with
    | .text package => .ok package
    | _ => .error (.importing (.notText "__spec__.parent"))
  | none, none =>
    match n.get? Module.nameName with
    | some (.text name) => .ok (if (n.get? Module.pathName).isSome then name else enclosingName name)
    | some _ => .error (.importing (.notText "__name__"))
    | none => .error (.missingKey (.text "'__name__' not in globals"))

/-- The name of a module of the plug-in that another one is of. Nothing else is found under a name. -/
def known (r : Registry) (moduleName name : Text) : Except Failure Text :=
  if (r.find? name).isSome && rootOf name == rootOf moduleName then .ok name
  else .error (.importing (.noModule (rootOf name)))

/-- The registered package that the relative imports of a module start from. -/
def importBase (r : Registry) (moduleName : Text) : Except Failure Text := do
  let package ← r.packageOf (r.bindings moduleName)
  if package == .empty then .error (.importing .noPackage) else r.known moduleName package

/-- What a module goes by where its submodules are imported for the sake of a name. -/
def goesBy (r : Registry) (moduleName : Text) : Except Failure Text := do
  let b ← r.member moduleName Module.nameName
  r.known moduleName b.shown

/-- Where the submodules of a module are looked for, if anywhere. What is no list of directories holds none. -/
def placeIn (r : Registry) (parent full : Text) : Except Failure (Option Path) :=
  match r.find? parent with
  | none => .error (.importing (.notPackage full parent))
  | some m => match m.bindings.get? Module.pathName with
    | none => .error (.importing (.notPackage full parent))
    | some b => do
      let _ ← r.member parent Module.specName
      match b with
      | .part owner (.path _) => .ok (if owner == m.name then m.searchPath else none)
      | .text _ => .ok none
      | .value kind _ =>
        if kind == "NoneType" || kind == "dict" || kind == Class.listKind then .ok none
        else .error (.importing (.notNames kind true))
      | b => .error (.importing (.notNames b.kindName true))

/-- Whether a submodule that was found can be noted with the module that it is in. -/
def noteIn (r : Registry) (parent : Text) : Except Failure Unit := do
  match ← r.member parent Module.specName with
  | .part _ (.spec _) => .ok ()
  | b => if b.isTrue then (Namespace.member r.member b "_uninitialized_submodules").map fun _ => () else .ok ()

/-! ### Imports -/

/-- The full name of a submodule, given the names that lead to it, the last one first. -/
def fullName (package : Text) (back : List Text) : Text := Text.intercalate "." (package :: back.reverse)

/-- Makes sure that a submodule of a package is registered, given the names that lead to it, the last one first,
    and gives back its full name. The modules that it is in are imported before it. -/
def ensure (load : Text → Text → Act Registry Unit) (package : Text) : List Text → Act Registry Text
  | [] => pure package
  | name :: outer => do
    let full := fullName package (name :: outer)
    if ((← get).find? full).isNone then
      let parent ← ensure load package outer
      if ((← get).find? full).isNone then load parent name
    pure full

/-- Binds names of one module in another, all of those that do not start with a low line. -/
def bindAll (moduleName : Text) : Namespace → Act Registry Unit
  | [] => pure ()
  | (name, b) :: rest => do
    if !(name.letters.head? == some (.char '_')) then bind moduleName name b
    bindAll moduleName rest

/-- The name under which a module may say which of its names are public. -/
def publicNames : Text := "__all__"

/-- Binds the public names of one module in another. No statement binds a list of names, so a module that says which
    of its names are public is refused. -/
def bindPublic (moduleName source : Text) : Act Registry Unit := do
  let bindings := (← get).bindings source
  match bindings.get? publicNames with
  | some b => throw (.importing (.notNames b.kindName (bindings.get? Module.pathName).isSome))
  | none => bindAll moduleName bindings

/-- Whether a failure says that there is no module of a name. -/
def tellsMissing (name : Text) : Failure → Bool
  | .importing (.noModule missing) => missing == name
  | .importing (.notPackage missing _) => missing == name
  | _ => false

/-- Imports a submodule for the sake of a name, unless it is registered or there is none of that name. -/
def loadNamed (load : Text → Text → Act Registry Unit) (package name : Text) : Act Registry Unit :=
  fun r => if (r.find? (package ++ "." ++ name)).isSome then .ok () r else match load package name r with
    | .ok _ s => .ok () s
    | .error e s => if tellsMissing (package ++ "." ++ name) e then .ok () s else .error e s

/-- Binds a name of one module in another. If it is not bound there it may be the name of a submodule, which is found in
    the registry. -/
def bindFound (moduleName source name : Text) : Act Registry Unit := do
  let r ← get
  match (r.bindings source).get? name, r.find? source with
  | some b, _ => bind moduleName name b
  | none, none => throw (.importing (.noModule source))
  | none, some m =>
    match (m.textOf? Module.nameName).bind fun shown => r.find? (shown ++ "." ++ name) with
    | some found => bind moduleName name (.module found.name)
    | none => throw (noName m name)

/-- Binds a name of one module in another; in a package it may be the name of a submodule that has to be imported. -/
def bindFrom (load : Text → Text → Act Registry Unit) (moduleName source name : Text) :
    Act Registry Unit := do
  if name == "*" then bindPublic moduleName source
  else
    let bindings := (← get).bindings source
    if (bindings.get? Module.pathName).isSome && (bindings.get? name).isNone then
      let package ← Act.ofExcept ((← get).goesBy source)
      loadNamed load package name
    bindFound moduleName source name

/-- Binds a name of a module in the package of another one. -/
def importFrom (load : Text → Text → Act Registry Unit) (moduleName : Text) (names : List Text) (name : Text) :
    Act Registry Unit := do
  let package ← Act.ofExcept ((← get).importBase moduleName)
  let target ← ensure load package names.reverse
  bindFrom load moduleName target name

def unbind (moduleName name : Text) : Act Registry Unit := do
  if (((← get).bindings moduleName).get? name).isSome then
    update moduleName fun m => { m with bindings := m.bindings.unbind name }
  else throw (.importing (.unbound name))

def execute (load : Text → Text → Act Registry Unit) (moduleName : Text) : Statement → Act Registry Unit
  | .define d => define moduleName d
  | .alias name target => do
    let b ← Act.ofExcept ((← get).resolve moduleName target)
    bind moduleName name b
  | .delete name => unbind moduleName name
  | .bindValue name => bind moduleName name .one
  | .importFrom .external name =>
    match supplied? name with
    | some c => bind moduleName name (.class c)
    | none => throw (.importing (.noName name (some "external") none false))
  | .importFrom .package name => importFrom load moduleName [] name
  | .importFrom (.submodule names) name => importFrom load moduleName names name
  | .setFile file => bind moduleName Module.fileName ((file.map Binding.text).getD .nothing)
  | .raise failure => throw failure

/-- Executes the statements of a module in order, up to the first that fails. -/
def executeAll (load : Text → Text → Act Registry Unit) (moduleName : Text) :
    List Statement → Act Registry Unit
  | [] => pure ()
  | s :: rest => do
    execute load moduleName s
    executeAll load moduleName rest

/-- The statements that a file holds. A file of bytes is a module only if it is empty. -/
def statements : Content → Except Failure (List Statement)
  | .module statements => .ok statements
  | .bytes [] => .ok []
  | .bytes _ => .error (.importing .unreadable)

/-! ### Submodules -/

/-- Where a submodule was found: a package, a file, or a directory without statements. -/
inductive Found
  | package (folder source : Path)
  | file (source : Path)
  | directory (folder : Path)

/-- Looks for a submodule in the directory of a package. -/
def locate (files : FileTree) (directory : Path) (name : Text) : Option Found :=
  let holds (p : Path) (isWanted : Entry → Bool) : Bool :=
    match files.entryAt p with
    | .ok (some e) => isWanted e
    | _ => false
  let package := directory.child name
  let initial := package.child "__init__.py"
  let file := directory.child (name ++ ".py")
  if holds initial (!·.isDirectory) then some (.package package initial)
  else if holds file (!·.isDirectory) then some (.file file)
  else if holds package (·.isDirectory) then some (.directory package)
  else none

/-- The module that is registered before its statements are executed. -/
def Found.toModule (name parent : Text) : Found → Module
  | .package folder source => .registered name name folder source true
  | .file source => .registered name parent none source true
  | .directory folder => .registered name name folder none true

def Found.statements (files : FileTree) : Found → Except Failure (List Statement)
  | .package _ source => do Registry.statements (← files.read source)
  | .file source => do Registry.statements (← files.read source)
  | .directory _ => .ok []

/-- Takes a step, and takes a module out of the registry if the step fails. -/
def orRemove (name : Text) (step : Act Registry Unit) : Act Registry Unit := fun r =>
  match step r with
  | .ok a s => .ok a s
  | .error e s => match remove name s with
    | .ok _ t => .error e t
    | .error _ t => .error e t

/-- Imports a submodule of a package and binds it there. The number bounds how many imports may be going
    on at once. -/
def loadSubmodule (files : FileTree) : Nat → Text → Text → Act Registry Unit
  | 0, _, _ => throw (.importing .tooDeep)
  | fuel + 1, parent, name => do
    let full := parent ++ "." ++ name
    let directory ← Act.ofExcept ((← get).placeIn parent full)
    match directory.bind (locate files · name) with
    | none => throw (.importing (.noModule full))
    | some found =>
      Act.ofExcept ((← get).noteIn parent)
      add (found.toModule full parent)
      orRemove full do
        let statements ← Act.ofExcept (found.statements files)
        executeAll (loadSubmodule files fuel) full statements
      update full fun m => { m with isUnfinished := false }
      bind parent name (.module full)

end Registry
end Plugin
end GeneratorHost
