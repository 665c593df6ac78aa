import GeneratorHost.Proofs.Plugin.Loaded

/-! What a plug-in that could not be loaded leaves in the registry. A path that is refused leaves nothing. Otherwise the
    submodules whose import was finished stay, and the module itself stays after a failure that is not an ordinary one. -/

namespace GeneratorHost
namespace Plugin
namespace Registry

variable {files : FileTree} {p : Path} {r s : Registry} {x : Execution} {e : Failure}

/-- When the execution has ended, the module itself is there, and below it the submodules that were finished. -/
theorem modules_stop (h : Named x.before) :
    ∃ own more, x.stop.modules = x.before.modules ++ own ∧ own.map (·.name) = x.name :: more ∧
      (∀ name ∈ more, Below x.name name) ∧ ∀ m ∈ own, m.isUnfinished = false := by
  obtain ⟨own, hown⟩ := exists_modules_registryAt h x.statements.length
  obtain ⟨more, hmore, hbelow⟩ := names_registryAt x x.statements.length
  have hnames : own.map (·.name) = x.name :: more := by
    rw [names, hown, List.map_append] at hmore
    exact List.append_cancel_left hmore
  have hwithin : ∀ m ∈ own, Within x.name m.name := by
    intro m hm
    rcases List.mem_cons.mp (hnames ▸ List.mem_map_of_mem hm : m.name ∈ x.name :: more) with hname | hname
    · exact Or.inl hname
    · exact Or.inr (hbelow _ hname)
  refine ⟨own, more, hown, hnames, hbelow, fun m hm => ?_⟩
  by_contra hunfinished
  rw [Bool.not_eq_false] at hunfinished
  have hstop : (x.registryAt x.statements.length).Unfinished m.name :=
    ⟨m, hown ▸ List.mem_append_right _ hm, rfl, hunfinished⟩
  -- Nothing of the plug-in was being imported when the first statement was executed.
  obtain ⟨m', hm', hname, hu⟩ := (course_registryAt x _).unfinished hstop
  rcases List.mem_append.mp hm' with hm' | hm'
  · exact h.not_within m' hm' (hname ▸ hwithin m hm)
  · obtain rfl := List.mem_singleton.mp hm'
    cases hu

/-- What is left when the module itself is taken out, and when it is not. -/
theorem exists_left (h : Named x.before) (isTaken : Bool) :
    ∃ left, (if isTaken then x.stop.without x.name else x.stop).modules = x.before.modules ++ left ∧
      (∀ name, name ∈ left.map (·.name) ↔ name = x.name ∧ isTaken = false ∨ Below x.name name ∧ name ∈ x.stop.names) ∧
      ∀ m ∈ left, m.isUnfinished = false := by
  obtain ⟨own, more, hown, hnames, hbelow, hfinished⟩ := modules_stop h
  have hbefore : ∀ m ∈ x.before.modules, m.name ≠ x.name := fun m hm he => h.not_within m hm (Or.inl he)
  have hstop : x.stop.names = x.before.names ++ x.name :: more := by rw [names, hown, List.map_append, hnames, names]
  have hmem : ∀ name, name ∈ more ↔ Below x.name name ∧ name ∈ x.stop.names := by
    intro name
    rw [hstop, List.mem_append, List.mem_cons]
    refine ⟨fun hname => ⟨hbelow name hname, Or.inr (Or.inr hname)⟩, ?_⟩
    rintro ⟨hb, hname | rfl | hname⟩
    · obtain ⟨m, hm, rfl⟩ := List.mem_map.mp hname
      exact absurd (Or.inr hb) (h.not_within m hm)
    · exact absurd rfl hb.ne
    · exact hname
  cases isTaken with
  | false =>
    refine ⟨own, hown, fun name => ?_, hfinished⟩
    rw [hnames, List.mem_cons, hmem]
    simp
  | true =>
    refine ⟨own.filter fun m => m.name != x.name, ?_, fun name => ?_, fun m hm => ?_⟩
    · have hkept : (x.before.modules.filter fun m => m.name != x.name) = x.before.modules :=
        List.filter_eq_self.mpr fun m hm => bne_iff_ne.mpr (hbefore m hm)
      rw [if_pos rfl, without, hown, List.filter_append, hkept]
    · have hleft : (own.filter fun m => m.name != x.name).map (·.name) = (own.map (·.name)).filter (· != x.name) := by
        rw [List.filter_map]
        rfl
      have hne : Below x.name name → name ≠ x.name := Below.ne
      rw [hleft, hnames, List.mem_filter, List.mem_cons, hmem]
      grind
    · exact hfinished m (List.mem_filter.mp hm).1

/-- A failed load leaves every module that was there, and of the plug-in the submodules whose import was finished; its own
    module is left by failures that are not ordinary. So the modules are those before the call if and only if the
    path was refused, or the failure is ordinary and no submodule was finished. -/
theorem load_error_leaves (hr : Reached r) (h : load files p r = .error e s) :
    (execution? files p r = .error e ∧ s = r) ∨
      ∃ x left, execution? files p r = .ok x ∧ s.modules = r.modules ++ left ∧
        (∀ name, name ∈ left.map (·.name) ↔
          name = x.name ∧ e.isOrdinary = false ∨ Below x.name name ∧ name ∈ x.stop.names) ∧
        (∀ m ∈ left, m.isUnfinished = false) ∧
        (∀ n, ∀ name ∈ (x.registryAt n).names, Below x.name name → name ∈ left.map (·.name)) ∧
        ((∀ name, name ∈ s.names ↔ name ∈ r.names) ↔
          e.isOrdinary = true ∧ ∀ name ∈ x.stop.names, ¬Below x.name name) := by
  rcases load_error h with hrefused | ⟨x, hx, hs⟩
  · exact Or.inl hrefused
  · obtain rfl := before_of_execution? hx
    obtain ⟨-, hnamed⟩ := hr.sound_named
    obtain ⟨left, hmodules, hleft, hfinished⟩ := exists_left hnamed e.isOrdinary
    rw [← hs] at hmodules
    refine Or.inr ⟨x, left, hx, hmodules, hleft, hfinished, fun n name hname hbelow => ?_, ?_⟩
    · exact (hleft name).mpr (Or.inr ⟨hbelow, mem_names_stop hname⟩)
    · have hnames : s.names = x.before.names ++ left.map (·.name) := by rw [names, hmodules, List.map_append, names]
      have hnew : ∀ name ∈ left.map (·.name), name ∉ x.before.names := by
        intro name hname hold
        obtain ⟨m, hm, rfl⟩ := List.mem_map.mp hold
        refine hnamed.not_within m hm ?_
        rcases (hleft m.name).mp hname with ⟨he, -⟩ | ⟨hbelow, -⟩
        · exact Or.inl he
        · exact Or.inr hbelow
      -- Nothing is left if and only if no name is new.
      have hsame : (∀ name, name ∈ s.names ↔ name ∈ x.before.names) ↔ ∀ name, name ∉ left.map (·.name) := by
        simp only [hnames, List.mem_append]
        constructor
        · exact fun h name hname => hnew name hname ((h name).mp (Or.inr hname))
        · exact fun h name => ⟨fun hname => hname.resolve_right (h name), Or.inl⟩
      rw [hsame]
      simp only [hleft, not_or, not_and, Bool.not_eq_false]
      constructor
      · exact fun h => ⟨(h x.name).1 rfl, fun name hname hbelow => (h name).2 hbelow hname⟩
      · exact fun h name => ⟨fun _ => h.1, fun hbelow hname => h.2 name hname hbelow⟩

/-- A package that imports a submodule and then leaves the program. -/
def quitting : FileTree :=
  ⟨[], [("g", .directory
    [("__init__.py", .file (.module [.importFrom (.submodule ["a"]) "A", .raise (.exit .null)])),
      ("a.py", .file (.module [.bindValue "A"]))])]⟩

/-- The package stays registered, and so does the submodule. -/
theorem load_error_leaves_quitting :
    Reached empty ∧ ∃ e s, load quitting (.ofText "g") empty = .error e s ∧ e.isOrdinary = false ∧
      s.names.length = 2 ∧ ¬∀ name, name ∈ s.names ↔ name ∈ empty.names := by
  have hfails : (match load quitting (.ofText "g") empty with
    | .ok _ _ => false
    | .error e s => !e.isOrdinary && s.names.length == 2) = true := by decide +kernel
  cases h : load quitting (.ofText "g") empty with
  | ok name s =>
    rw [h] at hfails
    cases hfails
  | error e s =>
    simp only [h, Bool.and_eq_true, Bool.not_eq_true', beq_iff_eq] at hfails
    refine ⟨.empty, e, s, rfl, hfails.1, hfails.2, fun hsame => ?_⟩
    rcases load_error_leaves .empty h with ⟨-, rfl⟩ | ⟨x, left, -, -, -, -, -, hiff⟩
    · exact absurd hfails.2 (by decide)
    · rw [(hiff.mp hsame).1] at hfails
      cases hfails.1

end Registry
end Plugin
end GeneratorHost
