import GeneratorHost.Plugin.Loading
import GeneratorHost.Proofs.Act.Simulation
import GeneratorHost.Proofs.FileTree.Bytes
import GeneratorHost.Proofs.Plugin.Edit

/-! Importing plug-ins whose classes are edited. Editing the files and the registry before a plug-in is imported comes
    to the same as editing the registry afterwards. -/

namespace GeneratorHost

variable {E : Plugin.Edit}

theorem Content.keepsBytes_edited : Content.KeepsBytes (Content.edited E) := ⟨Content.toBytes_edited, fun _ => rfl⟩

/-- A file tree whose plug-ins are edited. -/
def FileTree.edited (E : Plugin.Edit) (t : FileTree) : FileTree := t.mapContent (Content.edited E)

namespace Plugin
/-! ### What a module says -/

namespace Module

variable (m : Module)

theorem textOf?_edited (name : Text) : (m.edited E).textOf? name = m.textOf? name := by
  simp only [textOf?, edited, Namespace.get?_edited]
  cases m.bindings.get? name with
  | none => rfl
  | some b => cases b <;> rfl

theorem showsUnfinished_edited : (m.edited E).showsUnfinished = m.showsUnfinished := by
  simp only [showsUnfinished, edited, Namespace.get?_edited]
  cases m.bindings.get? specName with
  | none => rfl
  | some b => cases b <;> rfl

theorem holder_edited : (m.edited E).holder = m.holder := by
  simp only [holder, textOf?_edited, showsUnfinished_edited]

/-- What a module says about itself before its statements is not edited. -/
theorem edited_registered (name package : Text) (searchPath source : Option Path) (isUnfinished : Bool) :
    (registered name package searchPath source isUnfinished).edited E =
      registered name package searchPath source isUnfinished := by
  simp only [registered, edited]
  refine congrArg (Module.mk name searchPath · isUnfinished) ?_
  cases source with
  | none => rfl
  | some source => cases searchPath <;> rfl

end Module

namespace Registry

open Act

/-! ### Looking up -/

section Lookup
variable (r : Registry)

theorem find?_edited (name : Text) : (r.edited E).find? name = (r.find? name).map (Module.edited E) := by
  simp only [find?, edited, List.find?_map]
  rfl

theorem bindings_edited (name : Text) : (r.edited E).bindings name = (r.bindings name).edited E := by
  unfold bindings
  rw [find?_edited]
  cases r.find? name <;> rfl

theorem isSome_find?_edited (name : Text) : ((r.edited E).find? name).isSome = (r.find? name).isSome := by
  rw [find?_edited, Option.isSome_map]

theorem get?_bindings_edited (moduleName name : Text) :
    ((r.edited E).bindings moduleName).get? name = ((r.bindings moduleName).get? name).map (Binding.edited E) := by
  rw [bindings_edited, Namespace.get?_edited]

theorem member_edited (moduleName name : Text) :
    (r.edited E).member moduleName name = (r.member moduleName name).map (Binding.edited E) := by
  have hholder : (((r.edited E).find? moduleName).map Module.holder) = (r.find? moduleName).map Module.holder := by
    rw [find?_edited, Option.map_map]
    exact congrArg (Option.map · (r.find? moduleName)) (funext Module.holder_edited)
  unfold member
  rw [get?_bindings_edited, hholder]
  cases (r.bindings moduleName).get? name <;> rfl

theorem resolve_edited (moduleName name : Text) :
    (r.edited E).resolve moduleName name = (r.resolve moduleName name).map (Binding.edited E) := by
  unfold resolve
  rw [bindings_edited]
  exact Namespace.resolve_edited r.member_edited _ name

theorem baseClass_edited (moduleName : Text) (base : Base) :
    (r.edited E).baseClass moduleName base = (r.baseClass moduleName base).map (Class.edited E) := by
  cases base with
  | generator => simp only [baseClass, Except.map, Class.edited_scriptedBase]
  | abstract => simp only [baseClass, Except.map, Class.edited_abstractBase]
  | plain => simp only [baseClass, Except.map, Class.edited_top]
  | named name =>
    simp only [baseClass]
    rw [resolve_edited]
    cases r.resolve moduleName name with
    | error e => rfl
    | ok b =>
      have hkind := Binding.kindName_edited (E := E) b
      cases b with
      | «class» c => rfl
      | _ => rfl

theorem ownerIn_edited (moduleName : Text) : (r.edited E).ownerIn moduleName = (r.ownerIn moduleName).edited E := by
  unfold ownerIn
  rw [get?_bindings_edited]
  cases (r.bindings moduleName).get? Module.nameName <;> rfl

theorem noName_edited (m : Module) (name : Text) : noName (m.edited E) name = noName m name := by
  have hget : ((m.edited E).bindings.get? Module.nameName).isNone = (m.bindings.get? Module.nameName).isNone := by
    rw [Module.edited, Namespace.get?_edited, Option.isNone_map]
  simp only [noName, hget, Module.textOf?_edited, Module.showsUnfinished_edited]

end Lookup

/-! ### What imports start from -/

section Bases
variable (r : Registry)

theorem present?_edited (n : Namespace) (name : Text) :
    present? (n.edited E) name = (present? n name).map (Binding.edited E) := by
  have hnothing : (fun b : Binding => !b.isNothing) ∘ Binding.edited E = fun b => !b.isNothing :=
    funext fun b => congrArg (!·) (Binding.isNothing_edited b)
  rw [present?, Namespace.get?_edited, Option.filter_map, hnothing, present?]

/-- What is looked up in anything is the same before and after it is edited. -/
theorem look_edited (b : Binding) (name : Text) :
    Namespace.member (r.edited E).member (b.edited E) name = (Namespace.member r.member b name).map (Binding.edited E) :=
  Namespace.member_edited r.member_edited b name

theorem parentOf_edited (b : Binding) : (r.edited E).parentOf (b.edited E) = (r.parentOf b).map (Binding.edited E) := by
  have hlook := r.look_edited (E := E) b "parent"
  cases b with
  | part moduleName p =>
    cases p with
    | spec parent => rfl
    | _ => exact hlook
  | _ => exact hlook

theorem packageOf_edited (n : Namespace) : (r.edited E).packageOf (n.edited E) = r.packageOf n := by
  have hspec : ∀ (spec : Binding) (package : Text), ((r.edited E).parentOf (Binding.edited E spec)).map (fun _ => package) =
      (r.parentOf spec).map fun _ => package := by
    intro spec package
    rw [parentOf_edited]
    cases r.parentOf spec <;> rfl
  simp only [packageOf, present?_edited, Namespace.get?_edited, Option.isSome_map]
  cases present? n Module.packageName with
  | some package =>
    cases package with
    | text package =>
      cases present? n Module.specName with
      | none => rfl
      | some spec => exact hspec spec package
    | _ => rfl
  | none =>
    cases present? n Module.specName with
    | some spec =>
      simp only [Option.map_none, Option.map_some, parentOf_edited]
      cases r.parentOf spec with
      | error e => rfl
      | ok b => cases b <;> rfl
    | none =>
      cases n.get? Module.nameName with
      | none => rfl
      | some b => cases b <;> rfl

theorem known_edited (moduleName name : Text) : (r.edited E).known moduleName name = r.known moduleName name := by
  simp only [known, isSome_find?_edited]

theorem importBase_edited (moduleName : Text) : (r.edited E).importBase moduleName = r.importBase moduleName := by
  simp only [importBase, bindings_edited, packageOf_edited, known_edited]

theorem goesBy_edited (moduleName : Text) : (r.edited E).goesBy moduleName = r.goesBy moduleName := by
  unfold goesBy
  rw [member_edited]
  cases r.member moduleName Module.nameName with
  | error e => rfl
  | ok b =>
    show (r.edited E).known moduleName (b.edited E).shown = r.known moduleName b.shown
    rw [known_edited, Binding.shown_edited]

theorem placeIn_edited (parent full : Text) : (r.edited E).placeIn parent full = r.placeIn parent full := by
  unfold placeIn
  rw [find?_edited]
  cases r.find? parent with
  | none => rfl
  | some m =>
    simp only [Option.map_some, Module.edited, Namespace.get?_edited, member_edited]
    cases m.bindings.get? Module.pathName with
    | none => rfl
    | some b =>
      simp only [Option.map_some]
      cases r.member parent Module.specName with
      | error e => rfl
      | ok spec =>
        have hkind := Binding.kindName_edited (E := E) b
        cases b with
        | «class» c =>
          show Except.error (.importing (.notNames (Binding.edited E (.class c)).kindName true)) =
            (Except.error (.importing (.notNames (Binding.class c).kindName true)) : Except Failure _)
          rw [hkind]
        | part owner p => cases p <;> rfl
        | _ => rfl

theorem noteIn_edited (parent : Text) : (r.edited E).noteIn parent = r.noteIn parent := by
  have hlook : ∀ b : Binding,
      (if (b.edited E).isTrue then (Namespace.member (r.edited E).member (b.edited E) "_uninitialized_submodules").map
        fun _ => () else .ok ()) =
      if b.isTrue then (Namespace.member r.member b "_uninitialized_submodules").map fun _ => () else .ok () := by
    intro b
    rw [look_edited, Binding.isTrue_edited]
    cases Namespace.member r.member b "_uninitialized_submodules" <;> rfl
  unfold noteIn
  rw [member_edited]
  cases r.member parent Module.specName with
  | error e => rfl
  | ok b =>
    have hother := hlook b
    cases b with
    | part owner p =>
      cases p with
      | spec parent => rfl
      | _ => exact hother
    | _ => exact hother

end Bases

/-! ### Changing the registry -/

section Changes

theorem commutes_add (m : Module) : Commutes (edited E) id (add m) (add (m.edited E)) :=
  commutes_modify fun r => by simp [edited]

theorem commutes_remove (name : Text) : Commutes (edited E) id (remove name) (remove name) :=
  commutes_modify fun r => by
    simp only [edited, List.filter_map]
    rfl

theorem commutes_update (name : Text) {change change' : Module → Module}
    (h : ∀ m, change' (m.edited E) = (change m).edited E) :
    Commutes (edited E) id (update name change) (update name change') :=
  commutes_modify fun r => by
    simp only [edited, List.map_map]
    refine congrArg (fun modules => { r with modules }) (List.map_congr_left fun m _ => ?_)
    show (if m.name == name then change' (m.edited E) else m.edited E) =
      (if m.name == name then change m else m).edited E
    split
    · exact h m
    · rfl

theorem commutes_bind (moduleName name : Text) (b : Binding) :
    Commutes (edited E) id (bind moduleName name b) (bind moduleName name (b.edited E)) :=
  commutes_update moduleName fun m => by
    simp only [Module.edited, Namespace.bind_edited]

theorem commutes_freshStamp : Commutes (edited E) id freshStamp freshStamp := fun _ => rfl

theorem commutes_define (moduleName : Text) (d : ClassStatement) :
    Commutes (edited E) id (define moduleName d) (define moduleName (d.edited E)) := by
  refine commutes_get.bind fun r => (commutes_ofExcept (r.baseClass_edited moduleName d.base)).bind fun base =>
    commutes_get.bind fun r => ?_
  rw [ownerIn_edited]
  refine (commutes_ofExcept ((r.ownerIn moduleName).continued_edited d.moduleSuffix)).bind fun owner =>
    commutes_freshStamp.bind fun stamp => ?_
  rw [Class.define_edited]
  simp only [ClassStatement.edited]
  cases d.within with
  | none => exact commutes_bind moduleName d.name _
  | some outer =>
    refine commutes_freshStamp.bind fun stamp' => ?_
    rw [Class.enclosing_edited]
    exact commutes_bind moduleName outer _

theorem commutes_unbind (moduleName name : Text) :
    Commutes (edited E) id (unbind moduleName name) (unbind moduleName name) := by
  refine commutes_get.bind fun r => ?_
  rw [get?_bindings_edited, Option.isSome_map]
  split
  · exact commutes_update moduleName fun m => by simp only [Module.edited, Namespace.unbind_edited]
  · exact commutes_throw _

theorem supplied?_edited (name : Text) : (supplied? name).map (Class.edited E) = supplied? name := by
  have hbase : ∀ c ∈ [Class.externalBase, Class.scriptedBase, Class.abstractBase], c.edited E = c := by simp
  unfold supplied?
  cases h : List.find? (fun c => c.name == name) [Class.externalBase, Class.scriptedBase, Class.abstractBase] with
  | none => rfl
  | some c => exact congrArg some (hbase c (List.mem_of_find?_eq_some h))

end Changes

/-! ### Imports within a package -/

section Imports
variable {load load' : Text → Text → Act Registry Unit}

theorem commutes_ensure (h : ∀ parent name, Commutes (edited E) id (load parent name) (load' parent name))
    (package : Text) :
    ∀ names, Commutes (edited E) id (ensure load package names) (ensure load' package names)
  | [] => commutes_pure package
  | name :: outer => by
    rw [ensure, ensure]
    refine commutes_get.bind fun r => ?_
    rw [find?_edited, Option.isNone_map]
    split
    · refine (commutes_ensure h package outer).bind fun parent => commutes_get.bind fun r => ?_
      rw [find?_edited, Option.isNone_map]
      split
      · exact (h parent name).bind fun _ => commutes_pure _
      · exact commutes_pure _
    · exact commutes_pure _

theorem commutes_bindAll (moduleName : Text) :
    ∀ n : Namespace, Commutes (edited E) id (bindAll moduleName n) (bindAll moduleName (n.edited E))
  | [] => commutes_pure ()
  | (name, b) :: rest => by
    show Commutes (edited E) id (do
      if !(name.letters.head? == some (.char '_')) then bind moduleName name b
      bindAll moduleName rest) (do
      if !(name.letters.head? == some (.char '_')) then bind moduleName name (b.edited E)
      bindAll moduleName (Namespace.edited E rest))
    split
    · exact (commutes_bind moduleName name b).bind fun _ => commutes_bindAll moduleName rest
    · exact commutes_bindAll moduleName rest

theorem commutes_bindPublic (moduleName source : Text) :
    Commutes (edited E) id (bindPublic moduleName source) (bindPublic moduleName source) := by
  refine commutes_get.bind fun r => ?_
  simp only [bindings_edited, Namespace.get?_edited, Option.isSome_map]
  cases (r.bindings source).get? publicNames with
  | some b =>
    simp only [Option.map_some, Binding.kindName_edited]
    exact commutes_throw _
  | none => exact commutes_bindAll moduleName _

theorem commutes_loadNamed (h : ∀ parent name, Commutes (edited E) id (load parent name) (load' parent name))
    (package name : Text) : Commutes (edited E) id (loadNamed load package name) (loadNamed load' package name) := by
  intro r
  unfold loadNamed
  rw [isSome_find?_edited]
  split
  · rfl
  · cases hl : load package name r with
    | ok a s =>
      rw [(h package name).ok hl]
    | error e s =>
      rw [(h package name).error hl]
      simp only []
      split <;> rfl

theorem commutes_bindFound (moduleName source name : Text) :
    Commutes (edited E) id (bindFound moduleName source name) (bindFound moduleName source name) := by
  refine commutes_get.bind fun r => ?_
  rw [get?_bindings_edited, find?_edited]
  cases (r.bindings source).get? name with
  | some b => exact commutes_bind moduleName name b
  | none =>
    cases r.find? source with
    | none => exact commutes_throw _
    | some m =>
      simp only [Option.map_none, Option.map_some, Module.textOf?_edited, noName_edited, find?_edited]
      cases m.textOf? Module.nameName with
      | none => exact commutes_throw _
      | some shown =>
        simp only [Option.bind_some]
        cases r.find? (shown ++ "." ++ name) with
        | some found => exact commutes_bind moduleName name (.module found.name)
        | none => exact commutes_throw _

theorem commutes_bindFrom (h : ∀ parent name, Commutes (edited E) id (load parent name) (load' parent name))
    (moduleName source name : Text) :
    Commutes (edited E) id (bindFrom load moduleName source name) (bindFrom load' moduleName source name) := by
  unfold bindFrom
  split
  · exact commutes_bindPublic moduleName source
  · refine commutes_get.bind fun r => ?_
    simp only [get?_bindings_edited, Option.isSome_map, Option.isNone_map]
    split
    · refine commutes_get.bind fun r => ?_
      rw [goesBy_edited]
      exact (commutes_ofExcept_self _).bind fun package =>
        (commutes_loadNamed h package name).bind fun _ => commutes_bindFound moduleName source name
    · exact commutes_bindFound moduleName source name

/-! ### Statements -/

theorem commutes_importFrom (h : ∀ parent name, Commutes (edited E) id (load parent name) (load' parent name))
    (moduleName : Text) (names : List Text) (name : Text) :
    Commutes (edited E) id (importFrom load moduleName names name) (importFrom load' moduleName names name) := by
  refine commutes_get.bind fun r => ?_
  rw [importBase_edited]
  exact (commutes_ofExcept_self _).bind fun package =>
    (commutes_ensure h package names.reverse).bind fun target => commutes_bindFrom h moduleName target name

/-- A statement is executed alike before and after it is edited. -/
theorem commutes_execute (h : ∀ parent name, Commutes (edited E) id (load parent name) (load' parent name))
    (moduleName : Text) (s : Statement) :
    Commutes (edited E) id (execute load moduleName s) (execute load' moduleName (s.edited E)) := by
  cases s with
  | define d => exact commutes_define moduleName d
  | «alias» name target =>
    exact commutes_get.bind fun r => (commutes_ofExcept (r.resolve_edited moduleName target)).bind fun b =>
      commutes_bind moduleName name b
  | delete name => exact commutes_unbind moduleName name
  | bindValue name => exact commutes_bind moduleName name .one
  | importFrom source name =>
    cases source with
    | external =>
      have hsupplied := supplied?_edited (E := E) name
      simp only [execute, Statement.edited]
      cases hc : supplied? name with
      | none => exact commutes_throw _
      | some c =>
        rw [hc] at hsupplied
        have hbind := commutes_bind (E := E) moduleName name (.class c)
        rw [Binding.edited, Option.some.inj hsupplied] at hbind
        exact hbind
    | package => exact commutes_importFrom h moduleName [] name
    | submodule names => exact commutes_importFrom h moduleName names name
  | setFile file => cases file <;> exact commutes_bind moduleName Module.fileName _
  | raise failure => exact commutes_throw failure

theorem commutes_executeAll (h : ∀ parent name, Commutes (edited E) id (load parent name) (load' parent name))
    (moduleName : Text) : ∀ statements : List Statement, Commutes (edited E) id (executeAll load moduleName statements)
      (executeAll load' moduleName (statements.map (Statement.edited E)))
  | [] => commutes_pure ()
  | s :: rest => (commutes_execute h moduleName s).bind fun _ => commutes_executeAll h moduleName rest

end Imports

/-! ### Modules -/

theorem statements_edited (c : Content) :
    statements (c.edited E) = (statements c).map (List.map (Statement.edited E)) := by
  cases c with
  | bytes bs => cases bs <;> rfl
  | module ss => rfl

section Modules
variable (files : FileTree)

theorem read_statements_edited (p : Path) : (do statements (← (files.edited E).read p)) =
    (do statements (← files.read p)).map (List.map (Statement.edited E)) := by
  rw [FileTree.edited, FileTree.read_mapContent]
  cases files.read p with
  | error e => rfl
  | ok content => exact statements_edited content

/-- Whether a path names an entry of some kind. -/
def holds (files : FileTree) (p : Path) (isWanted : Entry → Bool) : Bool :=
  match files.entryAt p with
  | .ok (some e) => isWanted e
  | _ => false

theorem locate_eq (files : FileTree) (directory : Path) (name : Text) :
    locate files directory name =
      if holds files ((directory.child name).child "__init__.py") (!·.isDirectory) then
        some (.package (directory.child name) ((directory.child name).child "__init__.py"))
      else if holds files (directory.child (name ++ ".py")) (!·.isDirectory) then
        some (.file (directory.child (name ++ ".py")))
      else if holds files (directory.child name) (·.isDirectory) then some (.directory (directory.child name))
      else none := rfl

theorem holds_edited (p : Path) (isWanted : Entry → Bool)
    (h : ∀ e, isWanted (e.mapContent (Content.edited E)) = isWanted e) :
    holds (files.edited E) p isWanted = holds files p isWanted := by
  unfold holds
  rw [FileTree.edited, FileTree.entryAt_mapContent]
  cases files.entryAt p with
  | error e => rfl
  | ok e =>
    cases e with
    | none => rfl
    | some entry => exact h entry

theorem locate_edited (directory : Path) (name : Text) :
    locate (files.edited E) directory name = locate files directory name := by
  have hdirectory : ∀ e : Entry, (e.mapContent (Content.edited E)).isDirectory = e.isDirectory :=
    Entry.isDirectory_mapContent
  have hfile : ∀ e : Entry, (!(e.mapContent (Content.edited E)).isDirectory) = !e.isDirectory :=
    fun e => congrArg (!·) (hdirectory e)
  simp only [locate_eq, holds_edited files _ (fun e => !e.isDirectory) hfile,
    holds_edited files _ (fun e => e.isDirectory) hdirectory]

theorem statements_found_edited (found : Found) :
    found.statements (files.edited E) = (found.statements files).map (List.map (Statement.edited E)) := by
  cases found with
  | package folder source => exact read_statements_edited files source
  | file source => exact read_statements_edited files source
  | directory folder => rfl

theorem toModule_edited (found : Found) (name parent : Text) :
    (found.toModule name parent).edited E = found.toModule name parent := by
  cases found <;> rfl

theorem commutes_orRemove (name : Text) {step step' : Act Registry Unit} (h : Commutes (edited E) id step step') :
    Commutes (edited E) id (orRemove name step) (orRemove name step') := by
  intro r
  unfold orRemove
  cases hs : step r with
  | ok a s => rw [h.ok hs]
  | error e s =>
    rw [h.error hs]
    simp only []
    cases hr : remove name s with
    | ok u t => rw [(commutes_remove name).ok hr]
    | error e' t => rw [(commutes_remove name).error hr]

theorem commutes_orRemoveOrdinary (name : Text) {step step' : Act Registry Unit}
    (h : Commutes (edited E) id step step') :
    Commutes (edited E) id (orRemoveOrdinary name step) (orRemoveOrdinary name step') := by
  intro r
  unfold orRemoveOrdinary
  cases hs : step r with
  | ok a s => rw [h.ok hs]
  | error e s =>
    rw [h.error hs]
    simp only []
    split
    · cases hr : remove name s with
      | ok u t => rw [(commutes_remove name).ok hr]
      | error e' t => rw [(commutes_remove name).error hr]
    · rfl

theorem commutes_loadSubmodule : ∀ (fuel : Nat) (parent name : Text),
    Commutes (edited E) id (loadSubmodule files fuel parent name) (loadSubmodule (files.edited E) fuel parent name)
  | 0, _, _ => commutes_throw _
  | fuel + 1, parent, name => by
    rw [loadSubmodule, loadSubmodule]
    refine commutes_get.bind fun r => ?_
    rw [placeIn_edited]
    refine (commutes_ofExcept_self _).bind fun directory => ?_
    simp only [locate_edited, id_eq]
    cases directory.bind (locate files · name) with
    | none => exact commutes_throw _
    | some found =>
      have hadd := commutes_add (E := E) (found.toModule (parent ++ "." ++ name) parent)
      rw [toModule_edited] at hadd
      have hfinish : Commutes (edited E) id (update (parent ++ "." ++ name) fun m => { m with isUnfinished := false })
          (update (parent ++ "." ++ name) fun m => { m with isUnfinished := false }) :=
        commutes_update _ fun m => rfl
      refine commutes_get.bind fun r => ?_
      rw [noteIn_edited]
      refine (commutes_ofExcept_self _).bind fun _ => hadd.bind fun _ => (commutes_orRemove _ ?_).bind fun _ =>
        hfinish.bind fun _ => commutes_bind parent name (.module (parent ++ "." ++ name))
      exact (commutes_ofExcept (statements_found_edited files found)).bind fun statements =>
        commutes_executeAll (commutes_loadSubmodule fuel) _ statements

theorem origin_edited (p : Path) : origin (files.edited E) p = origin files p := by
  simp only [origin, FileTree.edited, FileTree.exists_mapContent, FileTree.isDirectory_mapContent,
    FileTree.isFile_mapContent]

theorem commutes_freshToken : Commutes (edited E) id freshToken freshToken := fun _ => rfl

theorem commutes_importOrigin (resolved : Path) (o : Origin) :
    Commutes (edited E) id (importOrigin files resolved o) (importOrigin (files.edited E) resolved o) := by
  -- There are as many entries as before, and so imports may go as deep.
  have hfuel : (files.edited E).entries.length = files.entries.length := FileTree.length_entries_mapContent files
  unfold importOrigin
  rw [hfuel]
  refine commutes_freshToken.bind fun token => ?_
  have hadd := commutes_add (E := E) (.registered (moduleName resolved token)
    (if o.package.isSome then moduleName resolved token else .empty) o.package o.file false)
  rw [Module.edited_registered] at hadd
  refine hadd.bind fun _ => (commutes_orRemoveOrdinary _ ?_).bind fun _ => commutes_pure _
  exact (commutes_ofExcept (read_statements_edited files o.file)).bind fun statements =>
    commutes_executeAll (commutes_loadSubmodule files _) _ statements

/-- A plug-in is loaded alike before and after its classes are edited. -/
theorem commutes_load (p : Path) : Commutes (edited E) id (load files p) (load (files.edited E) p) := by
  have hresolve : (files.edited E).resolve p = files.resolve p := FileTree.resolve_mapContent files p
  unfold load
  rw [hresolve]
  refine (commutes_ofExcept_self _).bind fun resolved => ?_
  rw [origin_edited]
  exact (commutes_ofExcept_self _).bind fun o => commutes_importOrigin files resolved o

end Modules

end Registry
end Plugin
end GeneratorHost
