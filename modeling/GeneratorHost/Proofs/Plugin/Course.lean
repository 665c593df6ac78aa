import GeneratorHost.Proofs.Plugin.Change
import GeneratorHost.Proofs.Plugin.Name

/-! What an import does to the registry, one change after the other. Only modules of the plug-in are touched; those that
    were registered stay, and a submodule is there afterwards if its import was finished. -/

namespace GeneratorHost
namespace Plugin

/-- A change that binds only to classes that can be reached, and takes a name away only where that may be. -/
def Change.Fits (r : Registry) (mayLose : Prop) : Change → Prop
  | bound bs => ∀ name c, (name, .class c) ∈ bs → r.Reachable c
  | unbound _ => mayLose
  | _ => True

namespace Registry

/-- A submodule of a plug-in that is about to be imported. -/
structure Fresh (top : Text) (r : Registry) (m : Module) : Prop where
  below : Below top m.name
  notMem : m.name ∉ r.names
  bare : m.Bare

/-- The changes of an import within a plug-in. Which of its modules may lose a name is given. -/
inductive Course (top : Text) (loses : Text → Prop) : Registry → Registry → Prop
  | refl (r : Registry) : Course top loses r r
  | trans {r s t : Registry} (h : Course top loses r s) (h' : Course top loses s t) : Course top loses r t
  | changed {r : Registry} {moduleName : Text} {ch : Change} (hmodule : Within top moduleName)
    (hch : ch.Fits r (loses moduleName)) : Course top loses r (r.withChange moduleName ch)
  | defined {r : Registry} {moduleName : Text} {own owner : Binding} {base : Class} (d : ClassStatement)
    (hmodule : Within top moduleName) (hown : r.Leads own) (howner : r.Leads owner) (hbase : r.Reachable base) :
    Course top loses r (r.withClass moduleName own owner base d)
  | imported {r s : Registry} {m : Module} (hm : Fresh top r m) (h : Course top loses (r.withModule m) s) :
    Course top loses r (s.withChange m.name .finished)
  | refused {r s : Registry} {m : Module} (hm : Fresh top r m) (h : Course top loses (r.withModule m) s) :
    Course top loses r (s.without m.name)

namespace Course

variable {top : Text} {loses : Text → Prop} {r s : Registry}

/-! ### The modules that there are -/

/-- No module is taken out that was there before, and those that come are below the plug-in. -/
theorem names (h : Course top loses r s) :
    ∃ more, s.names = r.names ++ more ∧ ∀ name ∈ more, name ∉ r.names ∧ Below top name := by
  induction h with
  | refl r => exact ⟨[], (List.append_nil _).symm, by simp⟩
  | trans h h' ih ih' =>
    obtain ⟨more, hmore, hbelow⟩ := ih
    obtain ⟨more', hmore', hbelow'⟩ := ih'
    rw [hmore] at hmore' hbelow'
    refine ⟨more ++ more', hmore'.trans (List.append_assoc _ _ _), fun name hname => ?_⟩
    rcases List.mem_append.mp hname with hname | hname
    · exact hbelow name hname
    · obtain ⟨hnot, hb⟩ := hbelow' name hname
      exact ⟨fun hr => hnot (List.mem_append_left _ hr), hb⟩
  | changed hmodule hch => exact ⟨[], by rw [names_withChange, List.append_nil], by simp⟩
  | defined d hmodule hown howner hbase => exact ⟨[], by rw [withClass, names_withChange, List.append_nil]; rfl, by simp⟩
  | @imported r s m hm h ih =>
    obtain ⟨more, hmore, hbelow⟩ := ih
    rw [names_withModule] at hmore hbelow
    refine ⟨m.name :: more, ?_, fun name hname => ?_⟩
    · rw [names_withChange, hmore, List.append_assoc, List.singleton_append]
    · rcases List.mem_cons.mp hname with rfl | hname
      · exact ⟨hm.notMem, hm.below⟩
      · obtain ⟨hnot, hb⟩ := hbelow name hname
        exact ⟨fun hr => hnot (List.mem_append_left _ hr), hb⟩
  | @refused r s m hm h ih =>
    obtain ⟨more, hmore, hbelow⟩ := ih
    rw [names_withModule] at hmore hbelow
    have hother : ∀ name ∈ more, name ∉ r.names ++ [m.name] := fun name hname => (hbelow name hname).1
    -- Only the submodule itself goes: its name is neither an older one nor that of a module it imported.
    refine ⟨more, ?_, fun name hname => ⟨fun hr => hother name hname (List.mem_append_left _ hr), (hbelow name hname).2⟩⟩
    have hkept : r.names.filter (· != m.name) = r.names :=
      List.filter_eq_self.mpr fun name hname => bne_iff_ne.mpr fun he => hm.notMem (he ▸ hname)
    have hkept' : more.filter (· != m.name) = more :=
      List.filter_eq_self.mpr fun name hname => bne_iff_ne.mpr fun he =>
        hother name hname (List.mem_append_right _ (List.mem_singleton.mpr he))
    rw [names_without, hmore, List.filter_append, List.filter_append, hkept, hkept']
    simp

theorem mem_names (h : Course top loses r s) {name : Text} (hname : name ∈ r.names) : name ∈ s.names := by
  obtain ⟨more, hmore, -⟩ := h.names
  exact hmore ▸ List.mem_append_left _ hname

theorem issued (h : Course top loses r s) : s.issued = r.issued := by
  induction h with
  | refl r => rfl
  | trans h h' ih ih' => exact ih'.trans ih
  | changed hmodule hch => rfl
  | defined d hmodule hown howner hbase => rfl
  | imported hm h ih => exact ih
  | refused hm h ih => exact ih

/-- Whatever is not of the plug-in stays as it is, and where it is. -/
theorem modules_eq (h : Course top loses r s) {others own : List Module} (hr : r.modules = others ++ own)
    (ho : ∀ m ∈ others, ¬Within top m.name) : ∃ own', s.modules = others ++ own' := by
  have hchange : ∀ (r : Registry) (own : List Module) (moduleName : Text) (ch : Change), r.modules = others ++ own →
      Within top moduleName → ∃ own', (r.withChange moduleName ch).modules = others ++ own' := by
    intro r own moduleName ch hr hmodule
    refine ⟨own.map fun m => if m.name == moduleName then ch.apply m else m, ?_⟩
    rw [withChange, hr, List.map_append]
    refine congrArg (· ++ _) ((List.map_congr_left fun m hm => ?_).trans (List.map_id _))
    have hne : m.name ≠ moduleName := fun he => ho m hm (he ▸ hmodule)
    simp [hne]
  have hmodule : ∀ (r : Registry) (own : List Module) (m : Module), r.modules = others ++ own →
      (r.withModule m).modules = others ++ (own ++ [m]) := by
    intro r own m hr
    rw [withModule, hr, List.append_assoc]
  induction h generalizing own with
  | refl r => exact ⟨own, hr⟩
  | trans h h' ih ih' =>
    obtain ⟨own', hs⟩ := ih hr
    exact ih' hs
  | changed hmodule' hch => exact hchange _ own _ _ hr hmodule'
  | defined d hmodule' hown howner hbase => exact hchange (withStamp _ _) own _ _ hr hmodule'
  | imported hm h ih =>
    obtain ⟨own', hs⟩ := ih (hmodule _ own _ hr)
    exact hchange _ own' _ _ hs (Or.inr hm.below)
  | @refused r s m hm h ih =>
    obtain ⟨own', hs⟩ := ih (hmodule _ own _ hr)
    refine ⟨own'.filter fun m' => m'.name != m.name, ?_⟩
    have hkept : (others.filter fun m' => m'.name != m.name) = others :=
      List.filter_eq_self.mpr fun m' hm' => bne_iff_ne.mpr fun he => ho m' hm' (he ▸ Or.inr hm.below)
    rw [without, hs, List.filter_append, hkept]

end Course

/-! ### Unfinished imports -/

/-- A submodule whose import is going on. -/
def Unfinished (r : Registry) (name : Text) : Prop := ∃ m ∈ r.modules, m.name = name ∧ m.isUnfinished = true

theorem Unfinished.of_withChange {r : Registry} {moduleName name : Text} {ch : Change}
    (h : (r.withChange moduleName ch).Unfinished name) : r.Unfinished name := by
  obtain ⟨m, hm, rfl, hu⟩ := h
  rcases mem_withChange hm with hm | ⟨m₀, hm₀, -, rfl⟩
  · exact ⟨m, hm, rfl, hu⟩
  · exact ⟨m₀, hm₀, (Change.name_apply ch m₀).symm, Change.isUnfinished_of_apply hu⟩

theorem Unfinished.of_withModule {r : Registry} {m : Module} {name : Text} (h : (r.withModule m).Unfinished name)
    (hne : name ≠ m.name) : r.Unfinished name := by
  obtain ⟨m', hm', rfl, hu⟩ := h
  rcases List.mem_append.mp hm' with hm' | hm'
  · exact ⟨m', hm', rfl, hu⟩
  · exact absurd (congrArg Module.name (List.mem_singleton.mp hm')) hne

namespace Course

variable {top : Text} {loses : Text → Prop} {r s : Registry}

/-- A submodule that was not being imported before is not being imported afterwards. -/
theorem unfinished (h : Course top loses r s) {name : Text} (hname : s.Unfinished name) : r.Unfinished name := by
  induction h with
  | refl r => exact hname
  | trans h h' ih ih' => exact ih (ih' hname)
  | changed hmodule hch => exact hname.of_withChange
  | defined d hmodule hown howner hbase => exact Unfinished.of_withChange (r := withStamp _ _) hname
  | @imported r s m hm h ih =>
    refine (ih hname.of_withChange).of_withModule ?_
    rintro rfl
    -- The module itself has been marked as finished.
    obtain ⟨m', hm', hname', hu⟩ := hname
    obtain ⟨m₀, -, rfl⟩ := List.mem_map.mp hm'
    split at hu
    · cases hu
    · next hne =>
      rw [if_neg hne] at hname'
      exact hne (beq_iff_eq.mpr hname')
  | @refused r s m hm h ih =>
    obtain ⟨m', hm', rfl, hu⟩ := hname
    obtain ⟨hm', hne⟩ := List.mem_filter.mp hm'
    exact (ih ⟨m', hm', rfl, hu⟩).of_withModule (bne_iff_ne.mp hne)

/-- A module that may not lose a name keeps its names in their order, and those that come are the last. -/
theorem names_bindings (h : Course top loses r s) {moduleName : Text} (hm : moduleName ∈ r.names)
    (hl : ¬loses moduleName) : ∃ fresh, (s.bindings moduleName).names = (r.bindings moduleName).names ++ fresh := by
  -- A change of the module itself adds names behind those that it has, as none is deleted; any other leaves them alone.
  have hchange : ∀ (r : Registry) (other : Text) (ch : Change), moduleName ∈ r.names →
      (∀ name, ch = .unbound name → loses other) →
      ∃ fresh, ((r.withChange other ch).bindings moduleName).names = (r.bindings moduleName).names ++ fresh := by
    intro r other ch hm hch
    by_cases hother : moduleName = other
    · obtain rfl := hother
      obtain ⟨m, hfind⟩ := exists_find? hm
      rw [bindings_withChange_self hfind, bindings_of_find? hfind]
      cases ch with
      | bound bs => exact Namespace.names_bindEach bs m.bindings
      | unbound name => exact absurd (hch name rfl) hl
      | finished => exact ⟨[], (List.append_nil _).symm⟩
    · exact ⟨[], by rw [bindings_withChange_of_ne hother, List.append_nil]⟩
  have hmodule : ∀ (r : Registry) (m : Module), moduleName ∈ r.names →
      moduleName ∈ (r.withModule m).names ∧ (r.withModule m).bindings moduleName = r.bindings moduleName := by
    intro r m hm
    rw [names_withModule, bindings, bindings, find?_withModule_of_mem hm]
    exact ⟨List.mem_append_left _ hm, rfl⟩
  induction h with
  | refl r => exact ⟨[], (List.append_nil _).symm⟩
  | trans h h' ih ih' =>
    obtain ⟨fresh, hfresh⟩ := ih hm
    obtain ⟨fresh', hfresh'⟩ := ih' (h.mem_names hm)
    exact ⟨fresh ++ fresh', by rw [hfresh', hfresh, List.append_assoc]⟩
  | changed hmodule' hch =>
    refine hchange _ _ _ hm fun name he => ?_
    subst he
    exact hch
  | defined d hmodule' hown howner hbase =>
    refine hchange (withStamp _ _) _ _ hm fun name he => ?_
    cases he
  | @imported r s m hm' h ih =>
    obtain ⟨hin, hsame⟩ := hmodule r m hm
    obtain ⟨fresh, hfresh⟩ := ih hin
    obtain ⟨fresh', hfresh'⟩ := hchange s m.name .finished (h.mem_names hin) (by simp)
    exact ⟨fresh ++ fresh', by rw [hfresh', hfresh, hsame, List.append_assoc]⟩
  | @refused r s m hm' h ih =>
    obtain ⟨hin, hsame⟩ := hmodule r m hm
    obtain ⟨fresh, hfresh⟩ := ih hin
    have hne : moduleName ≠ m.name := fun he => hm'.notMem (he ▸ hm)
    refine ⟨fresh, ?_⟩
    rw [bindings, find?_without_of_ne hne, ← hsame]
    exact hfresh

end Course
end Registry
end Plugin
end GeneratorHost
