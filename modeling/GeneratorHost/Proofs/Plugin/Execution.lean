import GeneratorHost.Proofs.Act
import GeneratorHost.Proofs.Plugin.Course

/-! Executing the statements of a module is a course of changes to its plug-in, whether it fails or not. -/

namespace GeneratorHost
namespace Plugin
namespace Registry

open Act

variable {r s : Registry} {moduleName name : Text}

/-! ### What names lead to -/

theorem leads_of_class?_eq_none {b : Binding} (h : b.class? = none) : r.Leads b := by
  rintro c rfl
  cases h

theorem leads_of_get? {b : Binding} (h : (r.bindings moduleName).get? name = some b) : r.Leads b := by
  rintro c rfl
  obtain ⟨m, hm, hc⟩ := mem_bindings (Namespace.mem_of_get? h)
  exact .bound hm hc

theorem leads_of_member {b b' : Binding} (hb : r.Leads b) (h : Namespace.member r.member b name = .ok b') :
    r.Leads b' := by
  cases b with
  | «class» c =>
    simp only [Namespace.member] at h
    split at h
    · next hfind =>
      obtain rfl := Except.ok.inj h
      rintro inner rfl
      exact (hb c rfl).member (List.mem_of_find?_eq_some hfind)
    · cases h
  | module other =>
    simp only [Namespace.member, member] at h
    split at h
    · next hget =>
      obtain rfl := Except.ok.inj h
      exact leads_of_get? hget
    · cases h
  | _ => cases h

theorem leads_of_members {names : List Text} {b b' : Binding} (hb : r.Leads b)
    (h : names.foldlM (Namespace.member r.member) b = .ok b') : r.Leads b' := by
  induction names generalizing b with
  | nil =>
    obtain rfl := Except.ok.inj h
    exact hb
  | cons name names ih =>
    rw [List.foldlM_cons] at h
    cases hm : Namespace.member r.member b name with
    | error e =>
      rw [hm] at h
      cases h
    | ok next =>
      rw [hm] at h
      exact ih (leads_of_member hb hm) h

/-- Of the names that need no binding one leads to a class, and that is a supplied one. -/
theorem leads_of_builtins {b : Binding} (h : Namespace.builtins.get? name = some b) : r.Leads b := by
  rintro c rfl
  have hmem := Namespace.mem_of_get? h
  simp only [Namespace.builtins, List.mem_cons, Prod.mk.injEq, Binding.class.injEq, List.not_mem_nil, or_false] at hmem
  rcases hmem with ⟨-, rfl⟩ | ⟨-, h⟩ | ⟨-, h⟩ | ⟨-, h⟩
  · exact .supplied List.mem_cons_self
  · cases h
  · cases h
  · cases h

theorem leads_of_resolve {b : Binding} (h : r.resolve moduleName name = .ok b) : r.Leads b := by
  unfold resolve Namespace.resolve at h
  split at h
  · cases h
  · next first more _ =>
    split at h
    · cases h
    · next b₀ hfirst =>
      refine leads_of_members (b := b₀) ?_ h
      unfold Namespace.find? at hfirst
      cases hget : (r.bindings moduleName).get? first with
      | some b₁ =>
        rw [hget, Option.orElse_some] at hfirst
        obtain rfl := Option.some.inj hfirst
        exact leads_of_get? hget
      | none =>
        rw [hget, Option.orElse_none] at hfirst
        exact leads_of_builtins hfirst

/-- What a module goes by leads to nothing new, and neither does that with more behind it. -/
theorem leads_ownerIn (r : Registry) (moduleName : Text) : r.Leads (r.ownerIn moduleName) := by
  unfold ownerIn
  cases h : (r.bindings moduleName).get? Module.nameName with
  | none => exact leads_of_class?_eq_none rfl
  | some b => exact leads_of_get? h

theorem leads_of_continued {b b' : Binding} {suffix : Text} (hb : r.Leads b) (h : b.continued suffix = .ok b') :
    r.Leads b' := by
  unfold Binding.continued at h
  split at h
  · obtain rfl := Except.ok.inj h
    exact leads_of_class?_eq_none rfl
  · split at h
    · obtain rfl := Except.ok.inj h
      exact hb
    · cases h

theorem reachable_of_baseClass {base : Base} {c : Class} (h : r.baseClass moduleName base = .ok c) : r.Reachable c := by
  cases base with
  | generator =>
    obtain rfl := Except.ok.inj h
    exact .supplied (by simp [Class.supplied])
  | abstract =>
    obtain rfl := Except.ok.inj h
    exact .supplied (by simp [Class.supplied])
  | plain =>
    obtain rfl := Except.ok.inj h
    exact .supplied (by simp [Class.supplied])
  | named name =>
    simp only [baseClass] at h
    cases hb : r.resolve moduleName name with
    | error e =>
      rw [hb] at h
      cases h
    | ok b =>
      rw [hb] at h
      cases b with
      | «class» c' =>
        obtain rfl := Except.ok.inj h
        exact leads_of_resolve hb c' rfl
      | _ => cases h

theorem reachable_of_supplied? {c : Class} (h : supplied? name = some c) : r.Reachable c := by
  have hc := List.mem_of_find?_eq_some h
  have hsub : ∀ c ∈ [Class.externalBase, Class.scriptedBase, Class.abstractBase], c ∈ Class.supplied := by
    simp [Class.supplied]
  exact .supplied (hsub c hc)

/-! ### Single steps -/

variable {top : Text} {loses : Text → Prop}

/-- Two steps in a row take the course of the first and then that of the second. -/
theorem Course.bind {α β : Type} {x : Act Registry α} {f : α → Act Registry β} (hx : Course top loses r (x.after r))
    (hf : ∀ a s, x r = .ok a s → Course top loses s ((f a).after s)) : Course top loses r ((x >>= f).after r) := by
  cases h : x r with
  | ok a s =>
    rw [after_of_ok h] at hx
    rw [after_bind_of_ok h]
    exact hx.trans (hf a s h)
  | error e s =>
    rw [after_of_error h] at hx
    rwa [after_bind_of_error h]

theorem course_bind (hmodule : Within top moduleName) {b : Binding} (hb : r.Leads b) :
    Course top loses r ((Registry.bind moduleName name b).after r) := by
  have hfits : (Change.bound [(name, b)]).Fits r (loses moduleName) := by
    intro name' c hc
    cases List.mem_singleton.mp hc
    exact hb c rfl
  exact .changed hmodule hfits

theorem course_ofExcept {α β : Type} {result : Except Failure α} {f : α → Act Registry β}
    (h : ∀ a, result = .ok a → Course top loses r ((f a).after r)) :
    Course top loses r ((Act.ofExcept result >>= f).after r) := by
  cases hresult : result with
  | error e => exact .refl r
  | ok a => exact h a hresult

/-- A class statement defines a class, unless it is derived from none, or what the module goes by cannot be continued. -/
theorem after_define (moduleName : Text) (d : ClassStatement) (r : Registry) :
    (define moduleName d).after r = r ∨ ∃ base owner, r.baseClass moduleName d.base = .ok base ∧
      (r.ownerIn moduleName).continued d.moduleSuffix = .ok owner ∧
        (define moduleName d).after r = r.withClass moduleName (r.ownerIn moduleName) owner base d := by
  rw [define, after_get_bind]
  cases hbase : r.baseClass moduleName d.base with
  | error e => exact Or.inl rfl
  | ok base =>
    have hok : (Act.ofExcept (.ok base) : Act Registry Class) r = .ok base r := rfl
    rw [after_bind_of_ok hok, after_get_bind]
    simp only []
    cases howner : (r.ownerIn moduleName).continued d.moduleSuffix with
    | error e => exact Or.inl rfl
    | ok owner =>
      refine Or.inr ⟨base, owner, rfl, rfl, ?_⟩
      cases hw : d.within <;> simp only [withClass, newEntries, newClasses, hw] <;> rfl

theorem course_define (hmodule : Within top moduleName) (d : ClassStatement) :
    Course top loses r ((define moduleName d).after r) := by
  rcases after_define moduleName d r with h | ⟨base, owner, hbase, howner, h⟩
  · exact h.symm ▸ .refl r
  · have hown := leads_ownerIn r moduleName
    exact h ▸ .defined d hmodule hown (leads_of_continued hown howner) (reachable_of_baseClass hbase)

/-- Deleting a name takes it from the module, if it is bound there. -/
theorem after_unbind (moduleName name : Text) (r : Registry) :
    (unbind moduleName name).after r = r.withChange moduleName (.unbound name) ∨
      (unbind moduleName name).after r = r := by
  rw [unbind, after_get_bind]
  split
  · exact Or.inl rfl
  · exact Or.inr rfl

theorem course_unbind (hmodule : Within top moduleName) (hl : loses moduleName) :
    Course top loses r ((unbind moduleName name).after r) := by
  have hunbound : (Change.unbound name).Fits r (loses moduleName) := hl
  rcases after_unbind moduleName name r with h | h
  · exact h ▸ .changed hmodule hunbound
  · exact h.symm ▸ .refl r

/-- Binding names in turn changes the module once. -/
theorem withChange_bound (bs bs' : List (Text × Binding)) :
    (r.withChange moduleName (.bound bs)).withChange moduleName (.bound bs') =
      r.withChange moduleName (.bound (bs ++ bs')) := by
  simp only [withChange, List.map_map]
  refine congrArg (fun modules => { r with modules }) (List.map_congr_left fun m _ => ?_)
  simp only [Function.comp_apply]
  by_cases hm : m.name = moduleName
  · simp [hm, Change.apply, Namespace.bindEach, List.foldl_append]
  · simp [hm]

/-- A name that is bound by an import of all names. -/
def isPublic (entry : Text × Binding) : Bool := !(entry.1.letters.head? == some (.char '_'))

theorem after_bindAll (n : Namespace) :
    (bindAll moduleName n).after r = r.withChange moduleName (.bound (n.filter isPublic)) := by
  induction n generalizing r with
  | nil =>
    have hid : (fun m : Module => if m.name == moduleName then (Change.bound []).apply m else m) = id := by
      funext m
      split <;> rfl
    show r = _
    rw [List.filter_nil, withChange, hid, List.map_id]
  | cons entry rest ih =>
    obtain ⟨name, b⟩ := entry
    show Act.after (if isPublic (name, b) then _ else _) r = _
    by_cases hpublic : isPublic (name, b)
    · rw [List.filter_cons_of_pos hpublic, ← List.singleton_append, ← withChange_bound, if_pos hpublic]
      exact ih
    · rw [List.filter_cons_of_neg hpublic, if_neg hpublic]
      exact ih

theorem course_bindPublic (hmodule : Within top moduleName) (source : Text) :
    Course top loses r ((bindPublic moduleName source).after r) := by
  rw [bindPublic, after_get_bind]
  simp only []
  cases (r.bindings source).get? publicNames with
  | some b => exact .refl r
  | none =>
    simp only [after_bindAll]
    refine .changed hmodule ?_
    intro name c hc
    obtain ⟨m, hm, hc⟩ := mem_bindings (List.mem_filter.mp hc).1
    exact .bound hm hc

/-! ### Imports within a package -/

/-- A way to import submodules that takes a course within the plug-in. -/
def Loads (top : Text) (loses : Text → Prop) (load : Text → Text → Act Registry Unit) : Prop :=
  ∀ parent name r, Within top parent → parent ++ "." ++ name ∉ r.names → Course top loses r ((load parent name).after r)

section Imports
variable {load : Text → Text → Act Registry Unit} {package : Text}

theorem fullName_nil (package : Text) : fullName package [] = package :=
  congrArg Text.mk (List.append_nil _)

theorem fullName_cons (package name : Text) (outer : List Text) :
    fullName package (name :: outer) = fullName package outer ++ "." ++ name := by
  rw [fullName, List.reverse_cons, Text.intercalate_concat]
  rfl

theorem within_fullName (hp : Within top package) (names : List Text) : Within top (fullName package names) := by
  induction names with
  | nil =>
    rw [fullName_nil]
    exact hp
  | cons name outer ih =>
    rw [fullName_cons]
    exact Or.inr (ih.submodule name)

theorem ensure_ok {names : List Text} {full : Text} (h : ensure load package names r = .ok full s) :
    full = fullName package names := by
  cases names with
  | nil =>
    cases h
    exact (fullName_nil package).symm
  | cons name outer =>
    rw [ensure, get_bind] at h
    split at h
    · obtain ⟨parent, t, -, h⟩ := bind_eq_ok.mp h
      rw [get_bind] at h
      split at h
      · obtain ⟨_, u, -, hfull⟩ := bind_eq_ok.mp h
        cases hfull
        rfl
      · cases h
        rfl
    · cases h
      rfl

theorem course_ensure (hload : Loads top loses load) (hp : Within top package) (names : List Text) :
    Course top loses r ((ensure load package names).after r) := by
  induction names generalizing r with
  | nil => exact .refl r
  | cons name outer ih =>
    rw [ensure, after_get_bind]
    split
    · refine ih.bind fun parent s hs => ?_
      obtain rfl := ensure_ok hs
      rw [after_get_bind]
      split
      · next hfree =>
        rw [fullName_cons, Option.isNone_iff_eq_none, find?_eq_none_iff] at hfree
        exact (hload _ name s (within_fullName hp outer) hfree).bind fun _ t _ => .refl t
      · exact .refl s
    · exact .refl r

theorem after_loadNamed :
    (loadNamed load package name).after r =
      if (r.find? (package ++ "." ++ name)).isSome then r else (load package name).after r := by
  unfold loadNamed
  by_cases hfound : (r.find? (package ++ "." ++ name)).isSome
  · simp only [after, hfound, if_true]
  · cases hl : load package name r with
    | ok a s =>
      simp only [after, hfound, hl]
      rfl
    | error e s =>
      -- Whether the failure is passed on or not, the registry is the same.
      rw [if_neg hfound, after_of_error hl]
      simp only [after, hfound, hl]
      cases tellsMissing (package ++ "." ++ name) e <;> rfl

theorem course_loadNamed (hload : Loads top loses load) (hp : Within top package) :
    Course top loses r ((loadNamed load package name).after r) := by
  rw [after_loadNamed]
  split
  · exact .refl r
  · next hfree =>
    rw [Bool.not_eq_true, Option.isSome_eq_false_iff, Option.isNone_iff_eq_none, find?_eq_none_iff] at hfree
    exact hload package name r hp hfree

theorem course_bindFound (hmodule : Within top moduleName) (source : Text) :
    Course top loses r ((bindFound moduleName source name).after r) := by
  rw [bindFound, after_get_bind]
  cases hb : (r.bindings source).get? name with
  | some b => exact course_bind hmodule (leads_of_get? hb)
  | none =>
    cases r.find? source with
    | none => exact .refl r
    | some m =>
      simp only []
      cases (m.textOf? Module.nameName).bind fun shown => r.find? (shown ++ "." ++ name) with
      | some found => exact course_bind hmodule (leads_of_class?_eq_none rfl)
      | none => exact .refl r

/-- An import finds nothing but modules of the same plug-in. -/
theorem within_of_known {found : Text} (hdot : .char '.' ∉ top.letters) (hmodule : Within top moduleName)
    (h : r.known moduleName name = .ok found) : Within top found := by
  unfold known at h
  split at h
  · next hknown =>
    obtain rfl := Except.ok.inj h
    have hroot := (Bool.and_eq_true_iff.mp hknown).2
    exact (within_iff_rootOf hdot).mpr ((beq_iff_eq.mp hroot).trans ((within_iff_rootOf hdot).mp hmodule))
  · cases h

theorem within_of_importBase (hdot : .char '.' ∉ top.letters) (hmodule : Within top moduleName)
    (h : r.importBase moduleName = .ok package) : Within top package := by
  obtain ⟨said, -, h⟩ := except_bind_eq_ok.mp h
  split at h
  · cases h
  · exact within_of_known hdot hmodule h

theorem within_of_goesBy (hdot : .char '.' ∉ top.letters) (hmodule : Within top moduleName)
    (h : r.goesBy moduleName = .ok package) : Within top package := by
  obtain ⟨own, -, h⟩ := except_bind_eq_ok.mp h
  exact within_of_known hdot hmodule h

theorem course_bindFrom (hdot : .char '.' ∉ top.letters) (hload : Loads top loses load)
    (hmodule : Within top moduleName) {source : Text} (hs : Within top source) :
    Course top loses r ((bindFrom load moduleName source name).after r) := by
  unfold bindFrom
  split
  · exact course_bindPublic hmodule source
  · rw [after_get_bind]
    simp only []
    split
    · rw [after_get_bind]
      refine course_ofExcept fun package hpackage => ?_
      have hwithin := within_of_goesBy hdot hs hpackage
      exact (course_loadNamed hload hwithin).bind fun _ s _ => course_bindFound hmodule source
    · exact course_bindFound hmodule source

theorem course_importFrom (hdot : .char '.' ∉ top.letters) (hload : Loads top loses load)
    (hmodule : Within top moduleName) (names : List Text) :
    Course top loses r ((importFrom load moduleName names name).after r) := by
  rw [importFrom, after_get_bind]
  refine course_ofExcept fun package hpackage => ?_
  have hwithin := within_of_importBase hdot hmodule hpackage
  refine (course_ensure hload hwithin names.reverse).bind fun target s hs => ?_
  obtain rfl := ensure_ok hs
  exact course_bindFrom hdot hload hmodule (within_fullName hwithin _)

/-! ### Statements -/

/-- A statement that may be executed in a module: one that takes a name away only where that may be. -/
theorem course_execute (hdot : .char '.' ∉ top.letters) (hload : Loads top loses load)
    (hmodule : Within top moduleName) (statement : Statement) (hl : (∃ name, statement = .delete name) → loses moduleName) :
    Course top loses r ((execute load moduleName statement).after r) := by
  cases statement with
  | define d => exact course_define hmodule d
  | «alias» name target =>
    rw [execute, after_get_bind]
    exact course_ofExcept fun b hb => course_bind hmodule (leads_of_resolve hb)
  | delete name => exact course_unbind hmodule (hl ⟨name, rfl⟩)
  | bindValue name => exact course_bind hmodule (leads_of_class?_eq_none rfl)
  | importFrom source name =>
    cases source with
    | external =>
      simp only [execute]
      cases hc : supplied? name with
      | none => exact .refl r
      | some c =>
        refine course_bind hmodule ?_
        rintro c' hc'
        cases hc'
        exact reachable_of_supplied? hc
    | package => exact course_importFrom hdot hload hmodule []
    | submodule names => exact course_importFrom hdot hload hmodule names
  | setFile file => cases file <;> exact course_bind hmodule (leads_of_class?_eq_none rfl)
  | raise failure => exact .refl r

theorem course_executeAll (hdot : .char '.' ∉ top.letters) (hload : Loads top loses load)
    (hmodule : Within top moduleName) (hl : loses moduleName) (statements : List Statement) :
    Course top loses r ((executeAll load moduleName statements).after r) := by
  induction statements generalizing r with
  | nil => exact .refl r
  | cons statement rest ih =>
    exact (course_execute hdot hload hmodule statement fun _ => hl).bind fun _ s _ => ih

/-- Statements end where their last one ends, or where one before it fails. -/
theorem after_executeAll_concat (statements : List Statement) (statement : Statement) :
    (executeAll load moduleName (statements ++ [statement])).after r =
        (executeAll load moduleName statements).after r ∨
      (executeAll load moduleName (statements ++ [statement])).after r =
        (execute load moduleName statement).after ((executeAll load moduleName statements).after r) := by
  induction statements generalizing r with
  | nil =>
    refine Or.inr ?_
    show (execute load moduleName statement >>= fun _ => pure ()).after r = (execute load moduleName statement).after r
    exact after_bind_of_forall_after (fun _ _ => rfl) r
  | cons first rest ih =>
    simp only [List.cons_append, executeAll]
    cases hs : execute load moduleName first r with
    | ok a s => simpa only [after_bind_of_ok hs] using ih
    | error e s => exact Or.inl ((after_bind_of_error hs).trans (after_bind_of_error hs).symm)

end Imports

/-! ### Submodules -/

theorem name_toModule (found : Found) (full parent : Text) : (found.toModule full parent).name = full := by
  cases found <;> rfl

theorem bare_registered (name package : Text) (searchPath source : Option Path) (isUnfinished : Bool) :
    (Module.registered name package searchPath source isUnfinished).Bare := by
  have hnames : (Module.registered name package searchPath source isUnfinished).bindings.names =
      if source.isNone then
        [Module.nameName, Module.docName, Module.packageName, Module.loaderName, Module.specName, Module.fileName,
          Module.pathName]
      else [Module.nameName, Module.docName, Module.packageName, Module.loaderName, Module.specName] ++
        (if searchPath.isSome then [Module.pathName] else []) ++
          [Module.fileName, Module.cachedName, Module.builtinsName] := by
    cases source with
    | none => rfl
    | some source => cases searchPath <;> rfl
  refine ⟨?_, ?_⟩
  · cases source <;> cases searchPath <;> simp [Module.registered, Module.attributes, Binding.nothing]
  · rw [hnames]
    cases source.isNone <;> cases searchPath.isSome <;> decide

theorem fresh_toModule {parent : Text} (found : Found) (hparent : Within top parent)
    (hfree : parent ++ "." ++ name ∉ r.names) :
    Fresh top r (found.toModule (parent ++ "." ++ name) parent) := by
  refine ⟨?_, ?_, ?_⟩
  · rw [name_toModule]
    exact hparent.submodule name
  · rw [name_toModule]
    exact hfree
  · cases found <;> exact bare_registered ..

/-- A module that was registered for a step is finished, or it is taken out with a failure. -/
theorem course_orRemove {m : Module} {full : Text} (hname : m.name = full) (hm : Fresh top r m)
    {step rest : Act Registry Unit} (hstep : Course top loses (r.withModule m) (step.after (r.withModule m)))
    (hrest : ∀ s, Course top loses s (rest.after s)) :
    Course top loses r ((do
      orRemove full step
      update full fun m => { m with isUnfinished := false }
      rest).after (r.withModule m)) := by
  subst hname
  cases hs : step (r.withModule m) with
  | ok a s =>
    have hok : orRemove m.name step (r.withModule m) = .ok a s := by rw [orRemove, hs]
    rw [after_of_ok hs] at hstep
    rw [after_bind_of_ok hok]
    exact (Course.imported hm hstep).trans (hrest _)
  | error e s =>
    have herror : orRemove m.name step (r.withModule m) = .error e (s.without m.name) := by
      rw [orRemove, hs]
      rfl
    rw [after_of_error hs] at hstep
    rw [after_bind_of_error herror]
    exact .refused hm hstep

/-- Importing a submodule takes a course within the plug-in if all modules below the plug-in may lose names. -/
theorem loads_loadSubmodule (files : FileTree) (hdot : .char '.' ∉ top.letters)
    (hl : ∀ name, Below top name → loses name) (fuel : Nat) : Loads top loses (loadSubmodule files fuel) := by
  induction fuel with
  | zero => exact fun _ _ r _ _ => .refl r
  | succ fuel ih =>
    intro parent name r hparent hfree
    rw [loadSubmodule, after_get_bind]
    refine course_ofExcept fun directory _ => ?_
    cases directory.bind (locate files · name) with
    | none => exact .refl r
    | some found =>
      simp only []
      rw [after_get_bind]
      refine course_ofExcept fun _ _ => ?_
      have hfresh := fresh_toModule found hparent hfree
      have hbelow := hparent.submodule name
      refine course_orRemove (name_toModule found _ _) hfresh ?_ fun s => course_bind hparent (leads_of_class?_eq_none rfl)
      exact course_ofExcept fun statements _ => course_executeAll hdot ih (Or.inr hbelow) (hl _ hbelow) statements

end Registry
end Plugin
end GeneratorHost
