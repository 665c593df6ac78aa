import GeneratorHost.Proofs.FileTree.Apart
import GeneratorHost.Proofs.Plugin.Loaded
import GeneratorHost.Proofs.Plugin.Located
import GeneratorHost.Proofs.Plugin.Origin

/-! Loading a plug-in with other files around it. Whatever is imported lies at the path of the plug-in or below it, so a
    plug-in is loaded alike wherever it holds the same. How many files there are elsewhere bounds how many imports may be
    going on at once, but no import comes near to that bound. -/

namespace GeneratorHost
namespace Plugin

def ImportSource.names : ImportSource → List Text
  | submodule names => names
  | _ => []

/-- A statement that imports nothing but by names that can be imported. -/
def Statement.Importable : Statement → Prop
  | importFrom source name => name.Importable ∧ ∀ n ∈ source.names, n.Importable
  | _ => True

/-- The modules at a route and below it import nothing but by names that can be imported. -/
def ImportsByName (files : FileTree) (place : Route) : Prop :=
  ∀ x statements, place <+: x → files.lookup x = some (.file (.module statements)) → ∀ s ∈ statements, s.Importable

namespace Registry

open Act

variable {top moduleName name : Text} {kind : Registry → Prop} {r s : Registry}

/-! ### Kinds of registries -/

/-- A kind of registries that changes of single modules keep. -/
structure Kind (kind : Registry → Prop) : Prop where
  withChange : ∀ {r : Registry} (moduleName : Text) (ch : Change), kind r → kind (r.withChange moduleName ch)
  withStamp : ∀ {r : Registry} (n : Nat), kind r → kind (r.withStamp n)

namespace Kind

variable (K : Kind kind) (hr : kind r)
include K hr

theorem bind (moduleName name : Text) (b : Binding) : kind ((Registry.bind moduleName name b).after r) :=
  K.withChange moduleName (.bound [(name, b)]) hr

theorem define (moduleName : Text) (d : ClassStatement) : kind ((Registry.define moduleName d).after r) := by
  rcases after_define moduleName d r with h | ⟨base, owner, -, -, h⟩
  · exact h.symm ▸ hr
  · exact h ▸ K.withChange _ _ (K.withStamp _ hr)

theorem unbind (moduleName name : Text) : kind ((Registry.unbind moduleName name).after r) := by
  rcases after_unbind moduleName name r with h | h
  · exact h ▸ K.withChange _ _ hr
  · exact h.symm ▸ hr

theorem bindPublic (moduleName source : Text) : kind ((Registry.bindPublic moduleName source).after r) := by
  rw [Registry.bindPublic, after_get_bind]
  simp only []
  cases (r.bindings source).get? publicNames with
  | some b => exact hr
  | none =>
    simp only [after_bindAll]
    exact K.withChange _ _ hr

theorem bindFound (moduleName source name : Text) : kind ((Registry.bindFound moduleName source name).after r) := by
  rw [Registry.bindFound, after_get_bind]
  cases (r.bindings source).get? name with
  | some b => exact K.bind hr _ _ _
  | none =>
    cases r.find? source with
    | none => exact hr
    | some m =>
      simp only []
      cases (m.textOf? Module.nameName).bind fun shown => r.find? (shown ++ "." ++ name) with
      | some found => exact K.bind hr _ _ _
      | none => exact hr

end Kind

/-! ### Steps that do the same -/

/-- Two steps do the same to a registry, and leave one of a kind. -/
def AlikeAt {α : Type} (kind : Registry → Prop) (r : Registry) (x y : Act Registry α) : Prop :=
  y r = x r ∧ kind (x.after r)

theorem AlikeAt.bind {α β : Type} {x y : Act Registry α} {f g : α → Act Registry β} (h : AlikeAt kind r x y)
    (hf : ∀ a s, x r = .ok a s → kind s → AlikeAt kind s (f a) (g a)) : AlikeAt kind r (x >>= f) (y >>= g) := by
  obtain ⟨hsame, hkind⟩ := h
  cases hx : x r with
  | ok a s =>
    rw [after_of_ok hx] at hkind
    rw [AlikeAt, bind_ok hx, bind_ok (hsame.trans hx), after_bind_of_ok hx]
    exact hf a s hx hkind
  | error e s =>
    rw [after_of_error hx] at hkind
    rw [AlikeAt, bind_error hx, bind_error (hsame.trans hx), after_bind_of_error hx]
    exact ⟨rfl, hkind⟩

theorem AlikeAt.get {α : Type} {f g : Registry → Act Registry α} (h : AlikeAt kind r (f r) (g r)) :
    AlikeAt kind r (get >>= f) (get >>= g) := h

theorem alike_ofExcept {α : Type} (result : Except Failure α) (hr : kind r) :
    AlikeAt kind r (Act.ofExcept result) (Act.ofExcept result) :=
  ⟨rfl, by rw [reads_ofExcept result r]; exact hr⟩

/-- Two ways to import submodules that do the same, if the submodule is a new one. -/
def LoadsAlike (top : Text) (kind : Registry → Prop) (load load' : Text → Text → Act Registry Unit) : Prop :=
  ∀ parent name r, Within top parent → name.Importable → kind r → parent ++ "." ++ name ∉ r.names →
    AlikeAt kind r (load parent name) (load' parent name)

section Imports
variable {load load' : Text → Text → Act Registry Unit} {package source : Text}

theorem alike_ensure (hload : LoadsAlike top kind load load') (hp : Within top package) {names : List Text}
    (hn : ∀ n ∈ names, n.Importable) (hr : kind r) :
    AlikeAt kind r (ensure load package names) (ensure load' package names) := by
  induction names generalizing r with
  | nil => exact ⟨rfl, hr⟩
  | cons name outer ih =>
    obtain ⟨hname, houter⟩ := List.forall_mem_cons.mp hn
    rw [ensure, ensure]
    refine AlikeAt.get ?_
    split
    · refine (ih houter hr).bind fun parent s hs hkind => AlikeAt.get ?_
      obtain rfl := ensure_ok hs
      split
      · next hfree =>
        rw [fullName_cons, Option.isNone_iff_eq_none, find?_eq_none_iff] at hfree
        exact (hload _ name s (within_fullName hp outer) hname hkind hfree).bind fun _ _ _ hk => ⟨rfl, hk⟩
      · exact ⟨rfl, hkind⟩
    · exact ⟨rfl, hr⟩

theorem alike_loadNamed (hload : LoadsAlike top kind load load') (hp : Within top package) (hn : name.Importable)
    (hr : kind r) : AlikeAt kind r (loadNamed load package name) (loadNamed load' package name) := by
  rw [AlikeAt, after_loadNamed]
  by_cases hfound : (r.find? (package ++ "." ++ name)).isSome
  · rw [loadNamed, loadNamed, if_pos hfound, if_pos hfound, if_pos hfound]
    exact ⟨rfl, hr⟩
  · have hfree := hfound
    rw [Bool.not_eq_true, Option.isSome_eq_false_iff, Option.isNone_iff_eq_none, find?_eq_none_iff] at hfree
    obtain ⟨hsame, hkind⟩ := hload package name r hp hn hr hfree
    rw [loadNamed, loadNamed, if_neg hfound, if_neg hfound, if_neg hfound, hsame]
    exact ⟨rfl, hkind⟩

theorem alike_bindFrom (K : Kind kind) (hdot : .char '.' ∉ top.letters) (hload : LoadsAlike top kind load load')
    (hs : Within top source) (hn : name.Importable) (hr : kind r) (moduleName : Text) :
    AlikeAt kind r (bindFrom load moduleName source name) (bindFrom load' moduleName source name) := by
  unfold bindFrom
  split
  · exact ⟨rfl, K.bindPublic hr _ _⟩
  · refine AlikeAt.get ?_
    simp only []
    split
    · refine AlikeAt.get ((alike_ofExcept _ hr).bind fun package s hpackage hk => ?_)
      have hwithin := within_of_goesBy hdot hs (ofExcept_eq_ok.mp hpackage).1
      exact (alike_loadNamed hload hwithin hn hk).bind fun _ _ _ hk => ⟨rfl, K.bindFound hk _ _ _⟩
    · exact ⟨rfl, K.bindFound hr _ _ _⟩

theorem alike_importFrom (K : Kind kind) (hdot : .char '.' ∉ top.letters) (hload : LoadsAlike top kind load load')
    (hmodule : Within top moduleName) {names : List Text} (hns : ∀ n ∈ names, n.Importable) (hn : name.Importable)
    (hr : kind r) :
    AlikeAt kind r (importFrom load moduleName names name) (importFrom load' moduleName names name) := by
  refine AlikeAt.get ((alike_ofExcept _ hr).bind fun package s hpackage hk => ?_)
  have hwithin := within_of_importBase hdot hmodule (ofExcept_eq_ok.mp hpackage).1
  refine (alike_ensure hload hwithin (fun n h => hns n (List.mem_reverse.mp h)) hk).bind fun target s hs hk => ?_
  obtain rfl := ensure_ok hs
  exact alike_bindFrom K hdot hload (within_fullName hwithin _) hn hk moduleName

theorem alike_execute (K : Kind kind) (hdot : .char '.' ∉ top.letters) (hload : LoadsAlike top kind load load')
    (hmodule : Within top moduleName) (hr : kind r) {statement : Statement} (hs : statement.Importable) :
    AlikeAt kind r (execute load moduleName statement) (execute load' moduleName statement) := by
  cases statement with
  | define d => exact ⟨rfl, K.define hr moduleName d⟩
  | «alias» name target =>
    refine ⟨rfl, ?_⟩
    show kind ((Act.ofExcept (r.resolve moduleName target) >>= _).after r)
    cases r.resolve moduleName target with
    | error e => exact hr
    | ok b => exact K.bind hr moduleName name b
  | delete name => exact ⟨rfl, K.unbind hr moduleName name⟩
  | bindValue name => exact ⟨rfl, K.bind hr moduleName name _⟩
  | importFrom source name =>
    cases source with
    | external =>
      refine ⟨rfl, ?_⟩
      simp only [execute]
      cases supplied? name with
      | none => exact hr
      | some c => exact K.bind hr moduleName name _
    | package => exact alike_importFrom K hdot hload hmodule (List.forall_mem_nil _) hs.1 hr
    | submodule names => exact alike_importFrom K hdot hload hmodule hs.2 hs.1 hr
  | setFile file => exact ⟨rfl, K.bind hr moduleName Module.fileName _⟩
  | raise failure => exact ⟨rfl, hr⟩

theorem alike_executeAll (K : Kind kind) (hdot : .char '.' ∉ top.letters) (hload : LoadsAlike top kind load load')
    (hmodule : Within top moduleName) (hr : kind r) {statements : List Statement} (hs : ∀ s ∈ statements, s.Importable) :
    AlikeAt kind r (executeAll load moduleName statements) (executeAll load' moduleName statements) := by
  induction statements generalizing r with
  | nil => exact ⟨rfl, hr⟩
  | cons statement rest ih =>
    obtain ⟨hfirst, hrest⟩ := List.forall_mem_cons.mp hs
    exact (alike_execute K hdot hload hmodule hr hfirst).bind fun _ _ _ hk => ih hk hrest

end Imports

/-! ### Submodules in their places -/

/-- The registry while a plug-in is imported: its packages are where their names say, and the imports that have begun
    are registered. -/
structure Placed (top : Text) (p : Path) (begun : List Text) (r : Registry) : Prop where
  searchPath : ∀ m ∈ r.modules, Within top m.name → ∀ directory, m.searchPath = some directory →
    ∃ back : List Text, (∀ n ∈ back, n.Importable) ∧ m.name = fullName top back ∧ directory = p.descend back.reverse
  begun : ∀ name ∈ begun, name ∈ r.names

namespace Placed

variable {p : Path} {begun : List Text}

theorem withChange (h : Placed top p begun r) (moduleName : Text) (ch : Change) :
    Placed top p begun (r.withChange moduleName ch) := by
  refine ⟨fun m hm hname directory hd => ?_, fun name hn => ?_⟩
  · rcases mem_withChange hm with hm | ⟨m₀, hm₀, -, rfl⟩
    · exact h.searchPath m hm hname directory hd
    · rw [Change.name_apply] at hname ⊢
      rw [Change.searchPath_apply] at hd
      exact h.searchPath m₀ hm₀ hname directory hd
  · rw [names_withChange]
    exact h.begun name hn

theorem isKind (top : Text) (p : Path) (begun : List Text) : Kind (Placed top p begun) :=
  ⟨fun moduleName ch h => h.withChange moduleName ch, fun _ h => ⟨h.searchPath, h.begun⟩⟩

/-- Once a submodule was found and registered, its import is one that has begun. -/
theorem withModule (h : Placed top p begun r) {parent : Text} {back : List Text} (hback : ∀ n ∈ back, n.Importable)
    (hparent : parent = fullName top back) (hname : name.Importable) {files : FileTree} {found : Found}
    (hfound : locate files (p.descend back.reverse) name = some found) :
    Placed top p ((parent ++ "." ++ name) :: begun) (r.withModule (found.toModule (parent ++ "." ++ name) parent)) := by
  have hfull : parent ++ "." ++ name = fullName top (name :: back) := by rw [hparent, fullName_cons]
  have hdirectory : (p.descend back.reverse).child name = p.descend (name :: back).reverse := by
    rw [Path.child_descend, List.reverse_cons]
  refine ⟨fun m hm hn directory hd => ?_, fun n hn => ?_⟩
  · rcases List.mem_append.mp hm with hm | hm
    · exact h.searchPath m hm hn directory hd
    · obtain rfl := List.mem_singleton.mp hm
      refine ⟨name :: back, List.forall_mem_cons.mpr ⟨hname, hback⟩, by rw [name_toModule, hfull], ?_⟩
      rw [← hdirectory]
      rcases locate_cases hfound with ⟨rfl, -⟩ | ⟨rfl, -⟩ | ⟨rfl, -⟩
      · exact (Option.some.inj hd).symm
      · cases hd
      · exact (Option.some.inj hd).symm
  · rw [names_withModule, name_toModule, List.mem_append]
    exact (List.mem_cons.mp hn).elim (fun he => Or.inr (he ▸ List.mem_cons_self)) fun hn => Or.inl (h.begun n hn)

theorem without {full : Text} (h : Placed top p (full :: begun) r) (hfull : full ∉ begun) :
    Placed top p begun (r.without full) := by
  refine ⟨fun m hm => h.searchPath m (List.mem_filter.mp hm).1, fun n hn => ?_⟩
  rw [names_without, List.mem_filter]
  exact ⟨h.begun n (List.mem_cons_of_mem _ hn), bne_iff_ne.mpr fun he => hfull (he ▸ hn)⟩

theorem of_cons {full : Text} (h : Placed top p (full :: begun) r) : Placed top p begun r :=
  ⟨h.searchPath, fun n hn => h.begun n (List.mem_cons_of_mem _ hn)⟩

end Placed

/-! ### Files elsewhere -/

section Files
variable {aside : Route → Prop} {t u : FileTree} {p q : Path} {begun : List Text}

/-- Two file trees with the same entries at a path and below it, whose modules there import by names. -/
structure SameAt (aside : Route → Prop) (p : Path) (t u : FileTree) : Prop where
  direct : p.Direct
  same : FileTree.SameBut aside t u
  elsewhere : ∀ x, aside x → ¬p.place <+: x
  importsByName : ImportsByName t p.place

namespace SameAt

/-- Whether a path lies at that of the plug-in or below it. -/
def Inside (p q : Path) : Prop := q.Direct ∧ p.place <+: q.place

theorem inside_descend (hp : p.Direct) {names : List Text} (hn : ∀ n ∈ names, n.Importable) :
    Inside p (p.descend names) :=
  ⟨hp.descend hn, Path.place_descend hn ▸ List.prefix_append _ _⟩

theorem Inside.child (h : Inside p q) {name : Text} (hn : name ≠ Path.parentName) : Inside p (q.child name) := by
  refine ⟨h.1.child hn, h.2.trans ?_⟩
  rw [Path.place, Path.place, Path.child, List.map_append]
  exact List.prefix_append _ _

theorem notAside (h : SameAt aside p t u) (hq : Inside p q) : ¬aside (q.placeFrom t.workingDirectory) := by
  rw [hq.1.placeFrom_eq]
  exact fun ha => h.elsewhere _ ha hq.2

theorem entryAt (h : SameAt aside p t u) (hq : Inside p q) : u.entryAt q = t.entryAt q := h.same.entryAt (h.notAside hq)

/-- The statements of a file are the same in both trees, and they import by names. -/
theorem statements (h : SameAt aside p t u) (hq : Inside p q) {e : Entry} (he : t.entryAt q = .ok (some e)) :
    (do Registry.statements (← u.read q)) = (do Registry.statements (← t.read q) : Except Failure (List Statement)) ∧
      ∀ ss, (do Registry.statements (← t.read q)) = Except.ok ss → ∀ s ∈ ss, s.Importable := by
  refine ⟨by rw [h.same.read (h.notAside hq) he], fun ss hss => ?_⟩
  cases hread : t.read q with
  | error e' =>
    rw [hread] at hss
    cases hss
  | ok content =>
    rw [hread] at hss
    replace hss : Registry.statements content = .ok ss := hss
    cases content with
    | bytes bs =>
      cases bs with
      | nil =>
        cases hss
        exact fun s hs => absurd hs List.not_mem_nil
      | cons b bs => cases hss
    | module ss' =>
      cases hss
      exact h.importsByName q.place ss hq.2 (FileTree.lookup_of_read hq.1 hread)

theorem locate (h : SameAt aside p t u) {back : List Text} (hback : ∀ n ∈ back, n.Importable) (hname : name.Importable) :
    Registry.locate u (p.descend back.reverse) name = Registry.locate t (p.descend back.reverse) name := by
  have hholds : ∀ {q : Path}, Inside p q → ∀ isWanted, holds u q isWanted = holds t q isWanted := fun hq isWanted => by
    rw [holds, holds, h.entryAt hq]
  have hdirectory : Inside p (p.descend back.reverse) :=
    inside_descend h.direct fun n hn => hback n (List.mem_reverse.mp hn)
  rw [locate_eq, locate_eq, hholds ((hdirectory.child hname.forward).child (by decide)),
    hholds (hdirectory.child hname.file.forward), hholds (hdirectory.child hname.forward)]

theorem found (h : SameAt aside p t u) {back : List Text} (hback : ∀ n ∈ back, n.Importable) (hname : name.Importable)
    {found : Found} (hfound : Registry.locate t (p.descend back.reverse) name = some found) :
    found.statements u = found.statements t ∧ ∀ ss, found.statements t = .ok ss → ∀ s ∈ ss, s.Importable := by
  have hdirectory : Inside p (p.descend back.reverse) :=
    inside_descend h.direct fun n hn => hback n (List.mem_reverse.mp hn)
  rcases locate_cases hfound with ⟨rfl, hh⟩ | ⟨rfl, hh⟩ | ⟨rfl, -⟩
  · obtain ⟨e, he, -⟩ := entryAt_of_holds hh
    exact h.statements ((hdirectory.child hname.forward).child (by decide)) he
  · obtain ⟨e, he, -⟩ := entryAt_of_holds hh
    exact h.statements (hdirectory.child hname.file.forward) he
  · refine ⟨rfl, fun ss hss => ?_⟩
    cases hss
    exact fun s hs => absurd hs List.not_mem_nil

end SameAt

/-- A submodule that was registered for a step is finished, or it is taken out if the step fails. -/
theorem alike_finish {parent full : Text} {m : Module} (hbegun : full ∉ begun) {step step' : Act Registry Unit}
    (h : AlikeAt (Placed top p (full :: begun)) (r.withModule m) step step') :
    AlikeAt (Placed top p begun) (r.withModule m)
      (do orRemove full step; update full fun m => { m with isUnfinished := false }; bind parent name (.module full))
      (do orRemove full step'; update full fun m => { m with isUnfinished := false }; bind parent name (.module full)) := by
  obtain ⟨hsame, hkind⟩ := h
  rw [AlikeAt]
  cases hs : step (r.withModule m) with
  | ok a s =>
    have hok : orRemove full step (r.withModule m) = .ok a s := by rw [orRemove, hs]
    have hok' : orRemove full step' (r.withModule m) = .ok a s := by rw [orRemove, hsame, hs]
    rw [after_of_ok hs] at hkind
    rw [bind_ok hok, bind_ok hok', after_bind_of_ok hok]
    exact ⟨rfl, ((hkind.withChange full .finished).withChange parent (.bound [(name, .module full)])).of_cons⟩
  | error e s =>
    have herror : orRemove full step (r.withModule m) = .error e (s.without full) := by
      rw [orRemove, hs]
      rfl
    have herror' : orRemove full step' (r.withModule m) = .error e (s.without full) := by
      rw [orRemove, hsame, hs]
      rfl
    rw [after_of_error hs] at hkind
    rw [bind_error herror, bind_error herror', after_bind_of_error herror]
    exact ⟨rfl, hkind.without hbegun⟩

/-- Submodules are looked for where the module was found, or nowhere. -/
theorem searchPath_of_placeIn {parent full : Text} {directory : Path} (h : r.placeIn parent full = .ok (some directory)) :
    ∃ m, r.find? parent = some m ∧ m.searchPath = some directory := by
  unfold placeIn at h
  cases hm : r.find? parent with
  | none =>
    rw [hm] at h
    cases h
  | some m =>
    refine ⟨m, rfl, ?_⟩
    simp only [hm] at h
    cases hpath : m.bindings.get? Module.pathName with
    | none =>
      rw [hpath] at h
      cases h
    | some b =>
      rw [hpath] at h
      obtain ⟨spec, -, h⟩ := except_bind_eq_ok.mp h
      cases b with
      | part owner p =>
        cases p with
        | path kind =>
          replace h : (if owner == m.name then m.searchPath else none) = some directory := Except.ok.inj h
          split at h
          · exact h
          · cases h
        | _ => cases h
      | value kind place =>
        change (if _ then Except.ok none else _) = _ at h
        split at h <;> cases h
      | text t => cases Except.ok.inj h
      | _ => cases h

/-- Importing a submodule does the same with both trees, whatever bounds there are on the imports going on at once, as
    long as there is room below them. -/
theorem loadsAlike_loadSubmodule (hdot : .char '.' ∉ top.letters) (h : SameAt aside p t u) {fuel fuel' : Nat}
    (hroom : room t top p.place begun < fuel) (hroom' : room u top p.place begun < fuel') :
    LoadsAlike top (Placed top p begun) (loadSubmodule t fuel) (loadSubmodule u fuel') := by
  induction fuel generalizing fuel' begun with
  | zero => exact absurd hroom (Nat.not_lt_zero _)
  | succ fuel ih =>
    obtain ⟨fuel', rfl⟩ : ∃ n, fuel' = n + 1 := Nat.exists_eq_add_one.mpr (Nat.zero_lt_of_lt hroom')
    intro parent name r hwithin hname hr hfree
    rw [loadSubmodule, loadSubmodule]
    refine AlikeAt.get ((alike_ofExcept _ hr).bind fun place s hs hr => ?_)
    obtain ⟨hplace, rfl⟩ := ofExcept_eq_ok.mp hs
    cases place with
    | none => exact ⟨rfl, hr⟩
    | some directory =>
      obtain ⟨m, hm, hdirectory⟩ := searchPath_of_placeIn hplace
      obtain ⟨back, hback, hparent, rfl⟩ :=
        hr.searchPath m (mem_of_find? hm) ((name_of_find? hm).symm ▸ hwithin) directory hdirectory
      rw [name_of_find? hm] at hparent
      simp only [Option.bind_some, h.locate hback hname]
      cases hfound : Registry.locate t (p.descend back.reverse) name with
      | none => exact ⟨rfl, hr⟩
      | some found =>
        simp only []
        refine AlikeAt.get ((alike_ofExcept _ hr).bind fun _ s hs hr => ?_)
        obtain ⟨-, rfl⟩ := ofExcept_eq_ok.mp hs
        have hbegun : parent ++ "." ++ name ∉ begun := fun hb => hfree (hr.begun _ hb)
        have hplaced := hr.withModule hback hparent hname hfound
        -- The submodule has an entry in both trees, so there is less room in both once its import has begun.
        have hentry : parent ++ "." ++ name = fullName top (name :: back) := by rw [hparent, fullName_cons]
        have hless := room_cons_lt (hentry ▸ entry_of_locate h.direct hback hname hfound) hbegun
        have hless' := room_cons_lt
          (hentry ▸ entry_of_locate h.direct hback hname ((h.locate hback hname).trans hfound)) hbegun
        have hload := ih (Nat.lt_of_lt_of_le hless (Nat.lt_succ_iff.mp hroom))
          (Nat.lt_of_lt_of_le hless' (Nat.lt_succ_iff.mp hroom'))
        refine alike_finish hbegun ?_
        obtain ⟨hstatements, himports⟩ := h.found hback hname hfound
        rw [hstatements]
        refine (alike_ofExcept _ hplaced).bind fun statements s hs hk => ?_
        obtain ⟨hs, -⟩ := ofExcept_eq_ok.mp hs
        exact alike_executeAll (Placed.isKind top p _) hdot hload (Or.inr (hwithin.submodule name)) hk
          (himports statements hs)

end Files

/-! ### Whole plug-ins -/

section Loading
variable {aside : Route → Prop} {t u : FileTree} {p q : Path}

theorem origin_same (h : SameAt aside q t u) : origin u q = origin t q := by
  have hself : SameAt.Inside q q := ⟨h.direct, List.prefix_refl _⟩
  have hinit : SameAt.Inside q (q.child "__init__.py") := hself.child (by decide)
  simp only [origin, FileTree.exists, FileTree.isDirectory, FileTree.isFile, h.entryAt hself, h.entryAt hinit]

/-- What is executed for a path that was accepted is there, at the path or below it. -/
theorem file_of_origin {o : Origin} (hd : q.Direct) (ha : q.anchor = .root) (h : origin t q = .ok o) :
    SameAt.Inside q o.file ∧ (∃ e, t.entryAt o.file = .ok (some e)) ∧
      ∀ directory, o.package = some directory → directory = q := by
  have hself : SameAt.Inside q q := ⟨hd, List.prefix_refl _⟩
  obtain ⟨e, he⟩ : ∃ e, t.entryAt q = .ok (some e) := by
    rw [origin, FileTree.exists] at h
    cases he : t.entryAt q with
    | error e =>
      rw [he] at h
      cases h
    | ok entry =>
      rw [he] at h
      cases entry with
      | none => cases h
      | some e => exact ⟨e, rfl⟩
  obtain ⟨hn, hf⟩ := FileTree.nameable_of_entryAt hd he
  cases (accepts_iff hd ha hn hf).mpr h with
  | file hl hs => exact ⟨hself, ⟨e, he⟩, by simp⟩
  | @package content hl hfi hi =>
    refine ⟨hself.child (by decide), ⟨.file content, ?_⟩, fun _ hp => (Option.some.inj hp).symm⟩
    rw [FileTree.entryAt_of_direct (direct_initial hd) ha (nameable_initial hn), if_pos hfi, hi]

/-- Before its first statement a plug-in is registered in its place, and none of its submodules is. -/
theorem placed_start {x : Execution} (hx : Named x.before)
    (hp : ∀ directory, x.origin.package = some directory → directory = x.path) : Placed x.name x.path [] x.start := by
  refine ⟨fun m hm hname directory hd => ?_, fun _ hn => absurd hn List.not_mem_nil⟩
  rcases List.mem_append.mp hm with hm | hm
  · exact absurd hname (hx.not_within m hm)
  · obtain rfl := List.mem_singleton.mp hm
    refine ⟨[], fun _ hn => absurd hn List.not_mem_nil, (fullName_nil _).symm, ?_⟩
    rw [hp directory hd, List.reverse_nil, Path.descend_nil]

theorem body_same {x : Execution} (hx : Named x.before) (ho : origin x.files x.path = .ok x.origin)
    (ha : x.path.anchor = .root) (h : SameAt aside x.path x.files u) :
    Execution.body { x with files := u } x.start = x.body x.start := by
  obtain ⟨hinside, ⟨e, he⟩, hpackage⟩ := file_of_origin h.direct ha ho
  obtain ⟨hstatements, himports⟩ := h.statements hinside he
  have hload : LoadsAlike x.name (Placed x.name x.path []) x.load (Execution.load { x with files := u }) :=
    loadsAlike_loadSubmodule x.dot_notMem_name h (Nat.lt_succ_of_le (room_le ..)) (Nat.lt_succ_of_le (room_le ..))
  have hsame := (alike_ofExcept _ (placed_start hx hpackage)).bind fun ss s hs hk =>
    alike_executeAll (Placed.isKind _ _ _) x.dot_notMem_name hload (Or.inl rfl) hk (himports ss (ofExcept_eq_ok.mp hs).1)
  rw [Execution.body, Execution.body, hstatements]
  exact hsame.1

/-- A plug-in is loaded alike with other files around it. -/
theorem load_same (hr : Named r) (hresolve : u.resolve p = t.resolve p)
    (h : ∀ q, t.resolve p = .ok q → SameAt aside q t u) : load u p r = load t p r := by
  cases hq : t.resolve p with
  | error e =>
    rw [load_eq, load_eq, execution?, execution?, hresolve, hq]
    rfl
  | ok q =>
    have hsame := h q hq
    have ha : q.anchor = .root := by rw [FileTree.resolve_eq_ok hq]; rfl
    rw [load_eq, load_eq, execution?_of_resolve hq, execution?_of_resolve (hresolve.trans hq), origin_same hsame]
    cases ho : origin t q with
    | error e => rfl
    | ok o =>
      have hbody := body_same (x := ⟨t, q, o, r⟩) hr ho ha hsame
      have hremove : orRemoveOrdinary (⟨t, q, o, r⟩ : Execution).name (⟨u, q, o, r⟩ : Execution).body
          (⟨t, q, o, r⟩ : Execution).start =
            orRemoveOrdinary (⟨t, q, o, r⟩ : Execution).name (⟨t, q, o, r⟩ : Execution).body
              (⟨t, q, o, r⟩ : Execution).start := by
        rw [orRemoveOrdinary, orRemoveOrdinary, hbody]
      -- The name and the registry before the first statement have nothing to do with the files.
      show (orRemoveOrdinary (⟨t, q, o, r⟩ : Execution).name (⟨u, q, o, r⟩ : Execution).body >>= fun _ =>
        pure (⟨t, q, o, r⟩ : Execution).name) (⟨t, q, o, r⟩ : Execution).start = _
      rw [bind_eq, hremove, ← bind_eq]
      rfl

end Loading
end Registry
end Plugin
end GeneratorHost
