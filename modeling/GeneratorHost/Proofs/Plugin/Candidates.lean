import GeneratorHost.Proofs.Plugin.Loaded

/-! The generators of a plug-in. Whatever its statements did to names, they are the concrete generators that some name
    of the module is bound to and that claim to be from the module or from below it, each of them once. What the module
    goes by is what its statements left its name bound to; whose a class is cannot be told of everything. -/

namespace GeneratorHost
namespace Plugin

open Act

/-! ### Owners -/

/-- What a class claims to be from is what a module goes by, or the name of something below it. -/
def OwnedBy (own owner : Binding) : Prop :=
  owner = own ∨ ∃ top below, own = .text top ∧ owner = .text below ∧ Below top below

/-- What a class claims to be from and what a module goes by differ, and one of them is no text. -/
def Incomparable (own owner : Binding) : Prop := owner ≠ own ∧ ∀ top below, own = .text top → owner ≠ .text below

/-- A class that can be run as a generator of a module. -/
structure Qualifies (m : Module) (c : Class) : Prop where
  bound : ∃ name, m.bindings.get? name = some (.class c)
  concrete : c.ConcreteGenerator
  owned : ∃ own, m.bindings.get? Module.nameName = some own ∧ OwnedBy own c.owner

/-- A class that could be run as a generator if it could be told whose it is. -/
structure Untold (m : Module) (c : Class) : Prop where
  bound : ∃ name, m.bindings.get? name = some (.class c)
  concrete : c.ConcreteGenerator
  untold : ∀ own, m.bindings.get? Module.nameName = some own → Incomparable own c.owner

section Owns
variable {m : Module} {c : Class} {own : Binding}

/-- Of two texts it can be told whose a class is, and of anything else if they are the same. -/
theorem owns_of_get? (h : m.bindings.get? Module.nameName = some own) (hsame : c.owner.isSame own = true ↔ c.owner = own) :
    (owns m c = .ok true ↔ OwnedBy own c.owner) ∧ ((∃ e, owns m c = .error e) ↔ Incomparable own c.owner) := by
  unfold OwnedBy Incomparable
  by_cases htexts : ∃ top below, own = .text top ∧ c.owner = .text below
  · obtain ⟨top, below, rfl, howner⟩ := htexts
    simp [owns, h, howner, belongsTo_iff, Within]
  · have hnot : ∀ top below, own = .text top → c.owner ≠ .text below := fun top below ht hb => htexts ⟨top, below, ht, hb⟩
    have howns : ∃ e, owns m c = if c.owner.isSame own then .ok true else .error e := by
      unfold owns
      rw [h]
      cases own <;> cases howner : c.owner <;> first | exact ⟨_, rfl⟩ | exact absurd howner (hnot _ _ rfl)
    obtain ⟨e, howns⟩ := howns
    by_cases he : c.owner.isSame own = true
    · rw [howns, if_pos he]
      simp [hsame.mp he]
    · have hne : c.owner ≠ own := fun heq => he (hsame.mpr heq)
      rw [howns, if_neg he]
      refine ⟨?_, fun _ => ⟨hne, hnot⟩, fun _ => ⟨e, rfl⟩⟩
      simp only [reduceCtorEq, hne, false_or, false_iff]
      rintro ⟨top, below, ht, hb, -⟩
      exact hnot top below ht hb

theorem owns_of_nameless (h : m.bindings.get? Module.nameName = none) : owns m c = .error nameless := by
  unfold owns
  rw [h]

end Owns

theorem ownedOf_eq_error_iff {m : Module} {cs : List Class} :
    (∃ e, ownedOf m cs = .error e) ↔ ∃ c ∈ cs, ∃ e, owns m c = .error e := by
  induction cs with
  | nil => simp [ownedOf]
  | cons c cs ih =>
    rw [List.exists_mem_cons_iff, ← ih, ownedOf]
    simp only [except_bind_eq_error, exists_or]
    refine or_congr_right' fun htold => ?_
    cases howns : owns m c with
    | error e => exact absurd ⟨e, howns⟩ htold
    | ok isOwned => simp [pure, Except.pure]

/-- The classes that are owned, in their order. -/
theorem ownedOf_eq_ok {m : Module} {cs found : List Class} (h : ownedOf m cs = .ok found) :
    found.Sublist cs ∧ ∀ c, c ∈ found ↔ c ∈ cs ∧ owns m c = .ok true := by
  induction cs generalizing found with
  | nil =>
    obtain rfl := Except.ok.inj h
    simp
  | cons first cs ih =>
    obtain ⟨isOwned, hfirst, h⟩ := except_bind_eq_ok.mp h
    obtain ⟨others, hothers, h⟩ := except_bind_eq_ok.mp h
    obtain rfl := Except.ok.inj h
    obtain ⟨hsub, hmem⟩ := ih hothers
    cases isOwned with
    | true =>
      refine ⟨hsub.cons_cons first, fun c => ?_⟩
      simp only [if_true, List.mem_cons, hmem]
      constructor
      · rintro (rfl | hc)
        · exact ⟨Or.inl rfl, hfirst⟩
        · exact ⟨Or.inr hc.1, hc.2⟩
      · exact fun hc => hc.1.imp_right fun hmem => ⟨hmem, hc.2⟩
    | false =>
      refine ⟨hsub.cons first, fun c => ?_⟩
      simp only [Bool.false_eq_true, if_false, List.mem_cons, hmem]
      constructor
      · exact fun hc => ⟨Or.inr hc.1, hc.2⟩
      · rintro ⟨rfl | hc, howns⟩
        · cases hfirst.symm.trans howns
        · exact ⟨hc, howns⟩

/-! ### What is picked of the candidates -/

section Candidates
variable {m : Module} {cs : List Class} {c : Class} {res : Resolution} {display : Text} {e : Failure}

theorem mem_of_mem_candidates (h : candidates m = .ok cs) (hc : c ∈ cs) :
    c ∈ m.bindings.classes ∧ c.isConcrete = true ∧ owns m c = .ok true := by
  obtain ⟨hc, howns⟩ := ((ownedOf_eq_ok h).2 c).mp hc
  exact ⟨(List.mem_filter.mp hc).1, (List.mem_filter.mp hc).2, howns⟩

theorem nodup_candidates (h : candidates m = .ok cs) : (cs.map (·.stamp)).Nodup :=
  (Namespace.nodup_stamp_classes m.bindings).sublist (((ownedOf_eq_ok h).1.trans List.filter_sublist).map _)

theorem choose_eq_error_iff : choose display cs = .error e ↔ cs = [] ∧ e = .plugin (.noGenerator display) := by
  unfold choose
  split <;> simp [eq_comm]

theorem head?_of_choose (h : choose display cs = .ok res) : cs.head? = some res.chosen := by
  unfold choose at h
  split at h <;> cases h <;> rfl

theorem candidates_of_choose (h : choose display cs = .ok res) : res.candidates = cs := by
  unfold choose at h
  split at h <;> cases h <;> rfl

/-- If there are several candidates, a warning tells which of them is taken. -/
theorem warning_of_choose (h : choose display cs = .ok res) :
    res.warning = if 1 < cs.length then some (ambiguity display res.chosen) else none := by
  unfold choose at h
  split at h
  · cases h
  · cases h
    rfl
  · next chosen others hseveral =>
    cases h
    have hothers : 0 < others.length := List.length_pos_iff.mpr (by simpa using hseveral)
    simp [hothers]

/-- A module that cannot be told in messages goes by nothing. -/
theorem nameless_of_displayName (h : displayName m = .error e) : m.bindings.get? Module.nameName = none := by
  unfold displayName at h
  split at h
  · cases h
  · cases h
  · assumption

theorem resolve_of_candidates (hcs : candidates m = .ok cs) : resolve m = displayName m >>= (choose · cs) := by
  rw [resolve, hcs]
  rfl

theorem resolve_eq_ok_iff (hcs : candidates m = .ok cs) :
    resolve m = .ok res ↔ ∃ display, displayName m = .ok display ∧ choose display cs = .ok res := by
  rw [resolve_of_candidates hcs, except_bind_eq_ok]

theorem resolve_eq_error_iff (hcs : candidates m = .ok cs) :
    resolve m = .error e ↔ displayName m = .error e ∨
      ∃ display, displayName m = .ok display ∧ cs = [] ∧ e = .plugin (.noGenerator display) := by
  simp only [resolve_of_candidates hcs, except_bind_eq_error, choose_eq_error_iff]

end Candidates

theorem instantiate_of_isConcrete {c : Class} (h : c.isConcrete = true) : instantiate c = construct c := by
  have hnot : ¬c.isAbstract = true := by
    simp only [Class.isConcrete, Class.isAbstract, Bool.and_eq_true, Bool.not_eq_true'] at h ⊢
    simp [h.2]
  rw [instantiate, if_neg hnot]

theorem one_lt_length_iff {α : Type} {l : List α} (h : l.Nodup) : 1 < l.length ↔ ∃ a b, a ∈ l ∧ b ∈ l ∧ a ≠ b := by
  constructor
  · intro hl
    match l, h, hl with
    | a :: b :: rest, h, _ =>
      have hne : a ≠ b := fun he => (List.nodup_cons.mp h).1 (he ▸ List.mem_cons_self)
      exact ⟨a, b, by simp, by simp, hne⟩
  · rintro ⟨a, b, ha, hb, hne⟩
    match l, ha, hb with
    | [c], ha, hb => exact absurd ((List.mem_singleton.mp ha).trans (List.mem_singleton.mp hb).symm) hne
    | _ :: _ :: rest, _, _ => simp

namespace Registry

variable {files : FileTree} {p : Path} {r s : Registry} {m : Module} {name : Text}

/-- What is listed once is what a name is bound to, if no two classes have the same stamp. -/
theorem Sound.mem_classes (hs : Sound s) (hm : m ∈ s.modules) {c : Class} :
    c ∈ m.bindings.classes ↔ ∃ name, m.bindings.get? name = some (.class c) := by
  simp only [Namespace.get?_eq_some_iff (hs.nodup m hm)]
  refine ⟨Namespace.exists_of_mem_classes, ?_⟩
  rintro ⟨name, hname⟩
  -- The list holds a class of the same stamp, which may have been met under another name.
  obtain ⟨c', hc', hstamp⟩ := List.mem_map.mp (Namespace.stamp_mem_classes hname)
  obtain ⟨name', hname'⟩ := Namespace.exists_of_mem_classes hc'
  rwa [← hs.eq_of_stamp (.bound hm hname') (.bound hm hname) hstamp]

/-- Two things are the same if they are equal, as a stamp tells a class from every other one. -/
theorem Sound.isSame_iff (hs : Sound s) {b b' : Binding} (hb : s.Leads b) (hb' : s.Leads b') :
    b.isSame b' = true ↔ b = b' := by
  cases b with
  | «class» c =>
    cases b' with
    | «class» c' =>
      simp only [Binding.isSame, beq_iff_eq, Binding.class.injEq]
      exact ⟨hs.eq_of_stamp (hb c rfl) (hb' c' rfl), fun he => he ▸ rfl⟩
    | _ => simp [Binding.isSame]
  | _ => cases b' <;> simp [Binding.isSame]

theorem Sound.leads_owner (hs : Sound s) {c : Class} (hc : s.Reachable c) : s.Leads c.owner := by
  obtain ⟨ds, root, hdescends⟩ := hs.descends hc
  obtain ⟨name, hname⟩ := hdescends.owner_mem
  exact fun owner howner => hc.member (howner ▸ hname)

theorem Sound.isConcrete_iff (hs : Sound s) {c : Class} (hc : s.Reachable c) : c.isConcrete = true ↔ c.ConcreteGenerator := by
  obtain ⟨ds, root, hdescends⟩ := hs.descends hc
  exact hdescends.isConcrete_iff

theorem Sound.owns_iff (hs : Sound s) (hm : m ∈ s.modules) {c : Class} (hc : s.Reachable c) :
    (owns m c = .ok true ↔ ∃ own, m.bindings.get? Module.nameName = some own ∧ OwnedBy own c.owner) ∧
      ((∃ e, owns m c = .error e) ↔ ∀ own, m.bindings.get? Module.nameName = some own → Incomparable own c.owner) := by
  cases hown : m.bindings.get? Module.nameName with
  | none => simp [owns_of_nameless hown]
  | some own =>
    have hleads : s.Leads own := fun c' hc' => .bound hm (Namespace.mem_of_get? (hc' ▸ hown))
    simpa using owns_of_get? hown (hs.isSame_iff (hs.leads_owner hc) hleads)

theorem Sound.mem_candidates (hs : Sound s) (hm : m ∈ s.modules) {cs : List Class} (h : candidates m = .ok cs) {c : Class} :
    c ∈ cs ↔ Qualifies m c := by
  rw [(ownedOf_eq_ok h).2, List.mem_filter, hs.mem_classes hm]
  constructor
  · rintro ⟨⟨⟨name, hname⟩, hconcrete⟩, howns⟩
    have hc : s.Reachable c := .bound hm (Namespace.mem_of_get? hname)
    exact ⟨⟨name, hname⟩, (hs.isConcrete_iff hc).mp hconcrete, (hs.owns_iff hm hc).1.mp howns⟩
  · rintro ⟨⟨name, hname⟩, hconcrete, howned⟩
    have hc : s.Reachable c := .bound hm (Namespace.mem_of_get? hname)
    exact ⟨⟨⟨name, hname⟩, (hs.isConcrete_iff hc).mpr hconcrete⟩, (hs.owns_iff hm hc).1.mpr howned⟩

theorem Sound.candidates_eq_error_iff (hs : Sound s) (hm : m ∈ s.modules) :
    (∃ e, candidates m = .error e) ↔ ∃ c, Untold m c := by
  rw [candidates, ownedOf_eq_error_iff]
  simp only [List.mem_filter, hs.mem_classes hm]
  refine exists_congr fun c => ⟨?_, ?_⟩
  · rintro ⟨⟨⟨name, hname⟩, hconcrete⟩, howns⟩
    have hc : s.Reachable c := .bound hm (Namespace.mem_of_get? hname)
    exact ⟨⟨name, hname⟩, (hs.isConcrete_iff hc).mp hconcrete, (hs.owns_iff hm hc).2.mp howns⟩
  · rintro ⟨⟨name, hname⟩, hconcrete, huntold⟩
    have hc : s.Reachable c := .bound hm (Namespace.mem_of_get? hname)
    exact ⟨⟨⟨name, hname⟩, (hs.isConcrete_iff hc).mpr hconcrete⟩, (hs.owns_iff hm hc).2.mpr huntold⟩

/-- The module of a plug-in that was loaded is found under the name that is given back. -/
theorem find?_of_load (hr : Reached r) (h : load files p r = .ok name s) : ∃ m, s.find? name = some m := by
  obtain ⟨x, hx, rfl, rfl⟩ := load_ok h
  obtain rfl := before_of_execution? hx
  exact exists_find? (mem_names_registryAt x _)

theorem Reached.of_load (hr : Reached r) (h : Registry.load files p r = .ok name s) : Reached s :=
  Act.after_of_ok h ▸ hr.load files p

end Registry

/-- A class statement that gives a name and a base and says nothing else. -/
def ClassStatement.plain (name : Text) (base : Base) : ClassStatement where
  name := name
  base := base
  script := none
  shownName := none
  abstractMethods := []
  implemented := []
  requiresArgument := false
  creationFailure := none
  moduleSuffix := ""
  within := none

/-- A package with classes derived from one another, one of which is found under its second name alone, and with classes
    from below it and from elsewhere. -/
def layered : FileTree :=
  ⟨[], [("g", .directory
    [("__init__.py", .file (.module
      [.define { ClassStatement.plain "Base" .generator with abstractMethods := ["extra"] },
        .define (.plain "Half" (.named "Base")),
        .define { ClassStatement.plain "Full" (.named "Half") with implemented := ["extra"] },
        .alias "Again" "Full", .bindValue "Full", .importFrom (.submodule ["a"]) "A",
        .importFrom .external "ScriptedGenerator"])),
      ("a.py", .file (.module [.define (.plain "A" .generator)]))])]⟩

/-- A plug-in that defines a generator and then binds the name of its module to a number. -/
def renumbered : FileTree := ⟨[], [("g.py", .file (.module [.define (.plain "A" .generator), .bindValue "__name__"]))]⟩

end Plugin
end GeneratorHost
