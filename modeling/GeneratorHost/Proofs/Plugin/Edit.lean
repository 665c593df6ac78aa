import GeneratorHost.FileTree
import GeneratorHost.Plugin.Discovery
import GeneratorHost.Proofs.Plugin.Inheritance

/-! Plug-ins whose classes are edited in what no import looks at: the names that they give to generators and the scripts
    of these. Classes are defined, inherited, looked up and chosen alike before and after. -/

namespace GeneratorHost

/-! ### Edits -/

namespace Plugin

/-- An edit of classes: of the names that are given, and of the scripts. What does nothing and what is no script stay so. -/
structure Edit where
  shownName : Text → Text
  script : Script → Script
  script_nil : script [] = []
  script_noScript : script Class.noScript = Class.noScript

/-- A name of a generator that is edited if it is a text. -/
def GeneratorName.edited (E : Edit) : GeneratorName → GeneratorName
  | text name => text (E.shownName name)
  | method => method

def ClassStatement.edited (E : Edit) (d : ClassStatement) : ClassStatement :=
  { d with shownName := d.shownName.map E.shownName, script := d.script.map E.script }

def Statement.edited (E : Edit) : Statement → Statement
  | define d => define (d.edited E)
  | s => s

mutual

/-- A class that is edited together with what can be looked up in it. -/
def Class.edited (E : Edit) : Class → Class
  | ⟨stamp, name, qualifiedName, owner, isGenerator, abstractMethods, script, isScripted, shownName, constructor,
      members⟩ =>
    ⟨stamp, name, qualifiedName, owner.edited E, isGenerator, abstractMethods, E.script script, isScripted,
      shownName.map (GeneratorName.edited E), constructor, Binding.allEdited E members⟩

def Binding.edited (E : Edit) : Binding → Binding
  | .class c => .class (c.edited E)
  | .text t => .text t
  | .value kind place => .value kind place
  | .part moduleName p => .part moduleName p
  | .module name => .module name

def Binding.allEdited (E : Edit) : List (Text × Binding) → List (Text × Binding)
  | [] => []
  | (name, b) :: rest => (name, b.edited E) :: Binding.allEdited E rest

end

def Namespace.edited (E : Edit) (n : Namespace) : Namespace := n.map fun entry => (entry.1, entry.2.edited E)

def Module.edited (E : Edit) (m : Module) : Module := { m with bindings := m.bindings.edited E }

def Registry.edited (E : Edit) (r : Registry) : Registry := { r with modules := r.modules.map (Module.edited E) }

end Plugin

variable {E : Plugin.Edit}

/-- A content whose classes are edited, if it is a module. -/
def Content.edited (E : Plugin.Edit) : Content → Content
  | bytes bs => bytes bs
  | module statements => module (statements.map (Plugin.Statement.edited E))

theorem Content.toBytes_edited (c : Content) : (c.edited E).toBytes = c.toBytes := by
  cases c <;> rfl

namespace Plugin

/-! ### Classes -/

theorem Binding.allEdited_eq : ∀ ms : List (Text × Binding), Binding.allEdited E ms = Namespace.edited E ms
  | [] => rfl
  | (_, _) :: rest => congrArg (List.cons _) (Binding.allEdited_eq rest)

namespace Class

@[simp] theorem stamp_edited (c : Class) : (c.edited E).stamp = c.stamp := by
  cases c
  rfl

@[simp] theorem name_edited (c : Class) : (c.edited E).name = c.name := by
  cases c
  rfl

@[simp] theorem qualifiedName_edited (c : Class) : (c.edited E).qualifiedName = c.qualifiedName := by
  cases c
  rfl

@[simp] theorem owner_edited (c : Class) : (c.edited E).owner = c.owner.edited E := by
  cases c
  rfl

@[simp] theorem isGenerator_edited (c : Class) : (c.edited E).isGenerator = c.isGenerator := by
  cases c
  rfl

@[simp] theorem abstractMethods_edited (c : Class) : (c.edited E).abstractMethods = c.abstractMethods := by
  cases c
  rfl

@[simp] theorem script_edited (c : Class) : (c.edited E).script = E.script c.script := by
  cases c
  rfl

@[simp] theorem isScripted_edited (c : Class) : (c.edited E).isScripted = c.isScripted := by
  cases c
  rfl

@[simp] theorem shownName_edited (c : Class) : (c.edited E).shownName = c.shownName.map (GeneratorName.edited E) := by
  cases c
  rfl

@[simp] theorem constructor_edited (c : Class) : (c.edited E).constructor = c.constructor := by
  cases c
  rfl

@[simp] theorem members_edited (c : Class) : (c.edited E).members = Namespace.edited E c.members := by
  cases c with
  | mk _ _ _ _ _ _ _ _ _ _ members => exact Binding.allEdited_eq members

@[simp] theorem isConcrete_edited (c : Class) : (c.edited E).isConcrete = c.isConcrete := by
  simp [isConcrete]

@[simp] theorem isAbstract_edited (c : Class) : (c.edited E).isAbstract = c.isAbstract := by
  simp [isAbstract]

end Class

namespace Namespace

theorem edited_append (n n' : Namespace) : edited E (n ++ n') = edited E n ++ edited E n' := List.map_append

theorem get?_edited (n : Namespace) (name : Text) : (n.edited E).get? name = (n.get? name).map (Binding.edited E) := by
  simp only [get?, edited, List.find?_map, Option.map_map]
  rfl

/-- There is nothing to edit in values. -/
theorem edited_membersOf (stamp : Nat) (kinds : List (Text × String)) :
    edited E (Class.membersOf stamp kinds) = Class.membersOf stamp kinds := List.map_map

end Namespace

namespace Class

theorem definedMembers_edited (d : ClassStatement) : definedMembers (d.edited E) = definedMembers d := by
  have hshown : (d.shownName.map E.shownName).toList.map (fun _ => (shownNameName, propertyKind)) =
      d.shownName.toList.map fun _ => (shownNameName, propertyKind) := by
    cases d.shownName <;> rfl
  have hscript : (d.script.map E.script).toList.map (fun _ => (scriptName, listKind)) =
      d.script.toList.map fun _ => (scriptName, listKind) := by
    cases d.script <;> rfl
  simp only [definedMembers, ClassStatement.edited, hshown, hscript]
  rfl

theorem shownNameOf_edited (d : ClassStatement) :
    shownNameOf (d.edited E) = (shownNameOf d).map (GeneratorName.edited E) := by
  rw [shownNameOf, shownNameOf, apply_ite (Option.map _)]
  simp only [ClassStatement.edited]
  cases d.shownName <;> rfl

/-- The name that is given or inherited is edited. -/
theorem orElse_edited (name inherited : Option GeneratorName) :
    (name.map (GeneratorName.edited E)).orElse (fun _ => inherited.map (GeneratorName.edited E)) =
      (name.orElse fun _ => inherited).map (GeneratorName.edited E) := by
  cases name <;> rfl

theorem ownMembers_edited (name qualifiedName : Text) (owner : Binding) :
    ownMembers name qualifiedName (owner.edited E) = Namespace.edited E (ownMembers name qualifiedName owner) := rfl

/-- An edited class is defined by an edited statement and an edited base. -/
theorem define_edited (stamp : Nat) (owner : Binding) (base : Class) (d : ClassStatement) :
    define stamp (owner.edited E) (base.edited E) (d.edited E) = (define stamp owner base d).edited E := by
  have hmembers : Namespace.edited E (membersOf stamp (definedMembers d)).reverse =
      (membersOf stamp (definedMembers d)).reverse :=
    List.map_reverse.trans (congrArg List.reverse (Namespace.edited_membersOf stamp (definedMembers d)))
  have hscript : (if d.implemented.contains scriptName then noScript
        else (d.script.map E.script).getD (E.script base.script)) =
      E.script (if d.implemented.contains scriptName then noScript else d.script.getD base.script) := by
    split
    · exact E.script_noScript.symm
    · cases d.script <;> rfl
  simp only [define, abstractMethodsOf, constructorOf, definedMembers_edited, shownNameOf_edited, isGenerator_edited,
    abstractMethods_edited, script_edited, isScripted_edited, shownName_edited, constructor_edited, members_edited,
    ownMembers_edited]
  simp only [Class.edited, Binding.allEdited_eq, Namespace.edited_append, hmembers, ← hscript, ← orElse_edited]
  rfl

/-- A class that says nothing of names and scripts stays as it is. -/
theorem edited_eq_self {c : Class} (hs : c.script = []) (hn : c.shownName = none) (ho : c.owner.edited E = c.owner)
    (hm : Binding.allEdited E c.members = c.members) : c.edited E = c := by
  cases c
  simp only [] at hs hn ho hm
  simp only [Class.edited, hs, hn, ho, hm, E.script_nil, Option.map_none]

@[simp] theorem edited_top : top.edited E = top := edited_eq_self rfl rfl rfl rfl

@[simp] theorem edited_abstractBase : abstractBase.edited E = abstractBase := edited_eq_self rfl rfl rfl rfl

@[simp] theorem edited_scriptedBase : scriptedBase.edited E = scriptedBase := edited_eq_self rfl rfl rfl rfl

@[simp] theorem edited_externalBase : externalBase.edited E = externalBase := edited_eq_self rfl rfl rfl rfl

theorem enclosing_edited (stamp : Nat) (name : Text) (owner : Binding) (inner : Class) :
    enclosing stamp name (owner.edited E) (inner.edited E) = (enclosing stamp name owner inner).edited E := by
  have hinner : (inner.name, .class (inner.edited E)) :: top.members =
      Namespace.edited E ((inner.name, .class inner) :: top.members) := rfl
  simp only [enclosing, plain, name_edited, Class.edited, Binding.allEdited_eq, Namespace.edited_append,
    ownMembers_edited, hinner, E.script_nil, Option.map_none]

end Class

/-! ### Namespaces -/

namespace Binding

theorem class?_edited (b : Binding) : (b.edited E).class? = b.class?.map (Class.edited E) := by
  cases b <;> rfl

@[simp] theorem kindName_edited (b : Binding) : (b.edited E).kindName = b.kindName := by
  cases b with
  | «class» c => simp only [edited, kindName, Class.isGenerator_edited]
  | _ => rfl

@[simp] theorem isNothing_edited (b : Binding) : (b.edited E).isNothing = b.isNothing := by
  cases b <;> rfl

@[simp] theorem isTrue_edited (b : Binding) : (b.edited E).isTrue = b.isTrue := by
  cases b <;> rfl

/-- What is shown of a class is its name and what it claims to be from. -/
@[simp] theorem shown_edited (b : Binding) : (b.edited E).shown = b.shown := by
  cases b with
  | «class» c =>
    cases c with
    | mk _ _ _ owner => cases owner <;> rfl
  | value kind place => rfl
  | part moduleName p => rfl
  | _ => rfl

theorem continued_edited (suffix : Text) (b : Binding) :
    (b.edited E).continued suffix = (b.continued suffix).map (Binding.edited E) := by
  have hother : ∀ b : Binding, (b.edited E).kindName = b.kindName →
      (if suffix == .empty then .ok (b.edited E) else .error (.importing (.notJoined (b.edited E).kindName))) =
        (if suffix == .empty then .ok b else .error (.importing (.notJoined b.kindName)) : Except Failure Binding).map
          (Binding.edited E) := by
    intro b hb
    rw [hb]
    split <;> rfl
  cases b with
  | text t => rfl
  | «class» c => exact hother (.class c) (kindName_edited _)
  | value kind place => exact hother (.value kind place) rfl
  | part moduleName p => exact hother (.part moduleName p) rfl
  | module name => exact hother (.module name) rfl

end Binding

namespace Namespace

theorem bind_edited (name : Text) (b : Binding) (n : Namespace) :
    Namespace.bind name (b.edited E) (n.edited E) = (Namespace.bind name b n).edited E := by
  induction n with
  | nil => rfl
  | cons entry rest ih =>
    show (if entry.1 = name then (name, b.edited E) :: (Namespace.edited E) rest
      else (entry.1, entry.2.edited E) :: Namespace.bind name (b.edited E) (Namespace.edited E rest)) =
        Namespace.edited E (if entry.1 = name then (name, b) :: rest else entry :: Namespace.bind name b rest)
    split
    · rfl
    · rw [ih]
      rfl

theorem unbind_edited (n : Namespace) (name : Text) : (n.edited E).unbind name = (n.unbind name).edited E := by
  simp only [unbind, edited, List.filter_map]
  rfl

theorem member_edited {inModule inModule' : Text → Text → Except Failure Binding}
    (h : ∀ moduleName name, inModule' moduleName name = (inModule moduleName name).map (Binding.edited E)) (b : Binding)
    (name : Text) : member inModule' (b.edited E) name = (member inModule b name).map (Binding.edited E) := by
  cases b with
  | «class» c =>
    simp only [Binding.edited, member, Class.members_edited, edited, List.find?_map, Function.comp_def]
    cases c.members.find? (·.1 == name) with
    | none => simp only [Option.map_none, Class.name_edited, Except.map]
    | some m => rfl
  | module moduleName => exact h moduleName name
  | _ => rfl

theorem foldlM_member_edited {inModule inModule' : Text → Text → Except Failure Binding}
    (h : ∀ moduleName name, inModule' moduleName name = (inModule moduleName name).map (Binding.edited E)) :
    ∀ (names : List Text) (b : Binding),
      names.foldlM (member inModule') (b.edited E) = (names.foldlM (member inModule) b).map (Binding.edited E)
  | [], _ => rfl
  | name :: names, b => by
    rw [List.foldlM_cons, List.foldlM_cons, member_edited h]
    cases member inModule b name with
    | error e => rfl
    | ok next => exact foldlM_member_edited h names next

theorem edited_builtins : edited E builtins = builtins := by
  simp only [builtins, edited, List.map_cons, List.map_nil, Binding.edited, Class.edited_top]
  rfl

theorem find?_edited (n : Namespace) (name : Text) : (n.edited E).find? name = (n.find? name).map (Binding.edited E) := by
  have hbuiltins : builtins.get? name = (builtins.get? name).map (Binding.edited E) := by
    rw [← get?_edited, edited_builtins]
  unfold find?
  rw [get?_edited]
  cases n.get? name with
  | some b => rfl
  | none => exact hbuiltins

theorem resolve_edited {inModule inModule' : Text → Text → Except Failure Binding}
    (h : ∀ moduleName name, inModule' moduleName name = (inModule moduleName name).map (Binding.edited E))
    (n : Namespace) (name : Text) :
    resolve inModule' (n.edited E) name = (resolve inModule n name).map (Binding.edited E) := by
  unfold resolve
  split
  · rfl
  · next first more _ =>
    rw [find?_edited]
    cases n.find? first with
    | none => rfl
    | some b => exact foldlM_member_edited h more b

theorem classes_edited (n : Namespace) : (n.edited E).classes = n.classes.map (Class.edited E) := by
  unfold classes edited
  rw [List.foldl_map]
  show List.foldl _ (List.map (Class.edited E) []) n = _
  refine List.foldl_hom (List.map (Class.edited E)) fun found entry => ?_
  rw [Binding.class?_edited]
  cases entry.2.class? with
  | none => rfl
  | some c =>
    -- Classes are told apart by their stamps, which stay.
    have hstamp : (fun x : Class => x.stamp == c.stamp) ∘ (Class.edited E) = fun x => x.stamp == c.stamp :=
      funext fun x => by simp
    simp only [Option.map_some, List.any_map, Class.stamp_edited, hstamp]
    split
    · rfl
    · simp

end Namespace

/-! ### The generator of a module -/

/-- Whose a class is depends on names that stay. -/
theorem owns_edited (m : Module) (c : Class) : owns (m.edited E) (c.edited E) = owns m c := by
  simp only [owns, Module.edited, Namespace.get?_edited, Class.owner_edited]
  cases m.bindings.get? Module.nameName with
  | none => rfl
  | some name => cases name <;> cases c.owner <;> simp [Binding.edited, Binding.isSame, Binding.kindName, Binding.holder]

theorem ownedOf_edited (m : Module) (cs : List Class) :
    ownedOf (m.edited E) (cs.map (Class.edited E)) = (ownedOf m cs).map (List.map (Class.edited E)) := by
  induction cs with
  | nil => rfl
  | cons c cs ih =>
    simp only [List.map_cons, ownedOf, owns_edited, ih]
    cases owns m c with
    | error e => rfl
    | ok isOwned =>
      cases ownedOf m cs with
      | error e => rfl
      | ok others => cases isOwned <;> rfl

theorem candidates_edited (m : Module) : candidates (m.edited E) = (candidates m).map (List.map (Class.edited E)) := by
  have hconcrete : (m.edited E).bindings.classes.filter (·.isConcrete) =
      (m.bindings.classes.filter (·.isConcrete)).map (Class.edited E) := by
    simp only [Module.edited, Namespace.classes_edited, List.filter_map]
    exact congrArg (List.map (Class.edited E)) (List.filter_congr fun c _ => Class.isConcrete_edited c)
  rw [candidates, hconcrete]
  exact ownedOf_edited m _

theorem displayName_edited (m : Module) : displayName (m.edited E) = displayName m := by
  have htrue : (fun b : Binding => b.isTrue) ∘ Binding.edited E = fun b => b.isTrue := funext Binding.isTrue_edited
  simp only [displayName, Module.edited, Namespace.get?_edited, Option.filter_map, htrue]
  cases (m.bindings.get? Module.fileName).filter (·.isTrue) with
  | some file => simp only [Option.map_some, Binding.shown_edited]
  | none =>
    cases m.bindings.get? Module.nameName with
    | some name => simp only [Option.map_none, Option.map_some, Binding.shown_edited]
    | none => rfl

def Resolution.edited (E : Edit) (r : Resolution) : Resolution :=
  ⟨r.chosen.edited E, r.candidates.map (Class.edited E), r.warning⟩

theorem choose_edited (display : Text) (cs : List Class) :
    choose display (cs.map (Class.edited E)) = (choose display cs).map (Resolution.edited E) := by
  match cs with
  | [] => rfl
  | [_] => rfl
  | chosen :: second :: others =>
    simp only [List.map_cons, choose, Except.map, Resolution.edited, ambiguity, Class.qualifiedName_edited]

theorem resolve_edited (m : Module) : resolve (m.edited E) = (resolve m).map (Resolution.edited E) := by
  unfold resolve
  rw [candidates_edited, displayName_edited]
  cases candidates m with
  | error e => rfl
  | ok cs =>
    cases displayName m with
    | error e => rfl
    | ok display => exact choose_edited display cs

/-- A generator answers with the name that its class gives it, or with that of the class. -/
theorem name_of_instantiate {c : Class} {g : Generator} (h : instantiate c = .ok g) :
    g.name = c.shownName.getD (.text c.name) := by
  unfold instantiate at h
  split at h
  · cases h
  · unfold construct at h
    cases hc : c.constructor with
    | free =>
      rw [hc] at h
      cases h
      rfl
    | needsArgument className =>
      rw [hc] at h
      cases h
    | fails failure =>
      rw [hc] at h
      cases h

theorem construct_edited (c : Class) :
    construct (c.edited E) =
      (construct c).map fun g => ⟨(c.shownName.map (GeneratorName.edited E)).getD (.text c.name), g.className, E.script g.script⟩ := by
  unfold construct
  rw [Class.constructor_edited]
  cases c.constructor with
  | needsArgument className => rfl
  | fails failure => rfl
  | free =>
    have hscript : (if c.isScripted then E.script c.script else []) =
        E.script (if c.isScripted then c.script else []) := by
      split
      · rfl
      · exact E.script_nil.symm
    simp only [Except.map, Class.name_edited, Class.shownName_edited, Class.isScripted_edited, Class.script_edited,
      hscript]

/-- The generator of an edited class runs the edited script. -/
theorem instantiate_edited (c : Class) :
    instantiate (c.edited E) =
      (instantiate c).map fun g => ⟨(c.shownName.map (GeneratorName.edited E)).getD (.text c.name), g.className, E.script g.script⟩ := by
  unfold instantiate
  rw [Class.isAbstract_edited]
  split
  · simp only [abstractMessage, Class.name_edited, Class.abstractMethods_edited, Except.map]
  · exact construct_edited c

end Plugin
end GeneratorHost
