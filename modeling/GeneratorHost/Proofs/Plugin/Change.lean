import GeneratorHost.Plugin.Registry
import GeneratorHost.Proofs.Plugin.Inheritance
import GeneratorHost.Proofs.Plugin.Namespace

/-! What one change makes of the registry: a module is registered, taken out or changed, or a class is defined in it. For
    each is said which modules there are after it, and which classes a name can lead to. -/

namespace GeneratorHost
namespace Plugin

/-- A module whose names lead to no classes, as before its statements are executed. -/
structure Module.Bare (m : Module) : Prop where
  notClass : ∀ name c, (name, .class c) ∉ m.bindings
  nodup : m.bindings.names.Nodup

/-- What can happen to a module while it is registered. -/
inductive Change
  | bound (bs : List (Text × Binding))
  | unbound (name : Text)
  | finished

def Change.apply : Change → Module → Module
  | bound bs, m => { m with bindings := m.bindings.bindEach bs }
  | unbound name, m => { m with bindings := m.bindings.unbind name }
  | finished, m => { m with isUnfinished := false }

namespace Change

@[simp] theorem name_apply (ch : Change) (m : Module) : (ch.apply m).name = m.name := by cases ch <;> rfl

@[simp] theorem searchPath_apply (ch : Change) (m : Module) : (ch.apply m).searchPath = m.searchPath := by
  cases ch <;> rfl

/-- The names that a change binds. -/
def entries : Change → List (Text × Binding)
  | bound bs => bs
  | _ => []

theorem mem_of_mem_bindings_apply {ch : Change} {m : Module} {entry : Text × Binding}
    (h : entry ∈ (ch.apply m).bindings) : entry ∈ ch.entries ∨ entry ∈ m.bindings := by
  cases ch with
  | bound bs => exact Namespace.mem_of_mem_bindEach h
  | unbound name => exact Or.inr (Namespace.mem_of_mem_unbind h)
  | finished => exact Or.inr h

theorem nodup_names_apply (ch : Change) {m : Module} (h : m.bindings.names.Nodup) :
    (ch.apply m).bindings.names.Nodup := by
  cases ch with
  | bound bs => exact Namespace.nodup_bindEach h bs
  | unbound name => exact Namespace.nodup_unbind h name
  | finished => exact h

/-- No change lets an import start again. -/
theorem isUnfinished_of_apply {ch : Change} {m : Module} (h : (ch.apply m).isUnfinished = true) :
    m.isUnfinished = true := by
  cases ch with
  | finished => cases h
  | _ => exact h

end Change

namespace Registry

variable {r s : Registry} {m : Module} {name moduleName : Text}

def names (r : Registry) : List Text := r.modules.map (·.name)

def withModule (r : Registry) (m : Module) : Registry := { r with modules := r.modules ++ [m] }

def without (r : Registry) (name : Text) : Registry := { r with modules := r.modules.filter fun m => m.name != name }

def withChange (r : Registry) (moduleName : Text) (ch : Change) : Registry :=
  { r with modules := r.modules.map fun m => if m.name == moduleName then ch.apply m else m }

/-- The class that a statement defines, and the one around it, if there is one. What the module goes by is given, and what
    the class claims to be from. -/
def newClasses (r : Registry) (own owner : Binding) (base : Class) (d : ClassStatement) : List Class :=
  let c := Class.define r.nextStamp owner base d
  c :: match d.within with
    | none => []
    | some outer => [Class.enclosing (r.nextStamp + 1) outer own c]

/-- What a class statement binds. -/
def newEntries (r : Registry) (own owner : Binding) (base : Class) (d : ClassStatement) : List (Text × Binding) :=
  (r.newClasses own owner base d).getLast?.toList.map fun c => (c.name, .class c)

def withStamp (r : Registry) (nextStamp : Nat) : Registry := { r with nextStamp }

def withClass (r : Registry) (moduleName : Text) (own owner : Binding) (base : Class) (d : ClassStatement) : Registry :=
  (r.withStamp (r.nextStamp + (r.newClasses own owner base d).length)).withChange moduleName
    (.bound (r.newEntries own owner base d))

/-! ### The modules that there are -/

theorem find?_eq_none_iff : r.find? name = none ↔ name ∉ r.names := by
  simp only [find?, names, List.find?_eq_none, beq_iff_eq, List.mem_map, not_exists, not_and]

theorem mem_of_find? (h : r.find? name = some m) : m ∈ r.modules := List.mem_of_find?_eq_some h

theorem name_of_find? (h : r.find? name = some m) : m.name = name := by
  have hname := List.find?_some h
  exact beq_iff_eq.mp hname

theorem exists_find? (h : name ∈ r.names) : ∃ m, r.find? name = some m := by
  cases hm : r.find? name with
  | none => exact absurd h (find?_eq_none_iff.mp hm)
  | some m => exact ⟨m, rfl⟩

theorem bindings_of_find? (h : r.find? name = some m) : r.bindings name = m.bindings := by
  rw [bindings, h]

theorem mem_bindings {entry : Text × Binding} (h : entry ∈ r.bindings name) :
    ∃ m ∈ r.modules, entry ∈ m.bindings := by
  cases hm : r.find? name with
  | none =>
    rw [bindings, hm] at h
    cases h
  | some m => exact ⟨m, mem_of_find? hm, bindings_of_find? hm ▸ h⟩

theorem issued_without (r : Registry) (name : Text) : (r.without name).issued = r.issued := rfl

theorem names_withModule (r : Registry) (m : Module) : (r.withModule m).names = r.names ++ [m.name] := by
  simp [names, withModule]

theorem names_without (r : Registry) (name : Text) : (r.without name).names = r.names.filter (· != name) := by
  simp only [names, without, List.filter_map]
  rfl

theorem names_withChange (r : Registry) (moduleName : Text) (ch : Change) :
    (r.withChange moduleName ch).names = r.names := by
  simp only [names, withChange, List.map_map]
  refine List.map_congr_left fun m _ => ?_
  simp only [Function.comp_apply]
  split <;> simp

theorem find?_withModule_of_mem (h : name ∈ r.names) : (r.withModule m).find? name = r.find? name := by
  obtain ⟨m', hm'⟩ := exists_find? h
  have happend : (r.withModule m).find? name = (r.find? name).or ([m].find? (·.name == name)) := List.find?_append
  rw [happend, hm', Option.some_or]

theorem find?_without_of_ne {other : Text} (h : name ≠ other) : (r.without other).find? name = r.find? name := by
  simp only [find?, without, List.find?_filter]
  refine congrArg (fun p => List.find? p r.modules) (funext fun m => ?_)
  by_cases hm : m.name = name
  · simp [hm, h]
  · simp [hm]

theorem find?_withChange (r : Registry) (moduleName name : Text) (ch : Change) :
    (r.withChange moduleName ch).find? name =
      (r.find? name).map fun m => if m.name == moduleName then ch.apply m else m := by
  have hname : (fun m : Module => m.name == name) ∘ (fun m => if m.name == moduleName then ch.apply m else m) =
      fun m => m.name == name := by
    funext m
    simp only [Function.comp_apply]
    split <;> simp
  simp only [find?, withChange, List.find?_map, hname]

theorem bindings_withChange_of_ne (h : name ≠ moduleName) (ch : Change) :
    (r.withChange moduleName ch).bindings name = r.bindings name := by
  unfold bindings
  rw [find?_withChange]
  cases hm : r.find? name with
  | none => rfl
  | some m =>
    have hne : m.name ≠ moduleName := name_of_find? hm ▸ h
    simp [hne]

theorem bindings_withChange_self (h : r.find? name = some m) (ch : Change) :
    (r.withChange name ch).bindings name = (ch.apply m).bindings := by
  have hfind : (r.withChange name ch).find? name = some (ch.apply m) := by
    rw [find?_withChange, h]
    simp [name_of_find? h]
  exact bindings_of_find? hfind

theorem mem_withChange {ch : Change} (h : m ∈ (r.withChange moduleName ch).modules) :
    m ∈ r.modules ∨ ∃ m₀ ∈ r.modules, m₀.name = moduleName ∧ m = ch.apply m₀ := by
  obtain ⟨m₀, hm₀, rfl⟩ := List.mem_map.mp h
  split
  · next hname => exact Or.inr ⟨m₀, hm₀, beq_iff_eq.mp hname, rfl⟩
  · exact Or.inl hm₀

/-! ### The classes that a name can lead to -/

/-- A class that a name can lead to. -/
inductive Reachable (r : Registry) : Class → Prop
  | supplied {c : Class} (h : c ∈ Class.supplied) : Reachable r c
  | bound {m : Module} {name : Text} {c : Class} (hm : m ∈ r.modules) (h : (name, .class c) ∈ m.bindings) :
    Reachable r c
  | member {outer c : Class} {name : Text} (ho : Reachable r outer) (h : (name, .class c) ∈ outer.members) :
    Reachable r c

/-- If every name is bound to what could be reached before, then nothing else can be reached. -/
theorem Reachable.of_entries {c : Class}
    (hbound : ∀ m ∈ s.modules, ∀ name c, (name, .class c) ∈ m.bindings → r.Reachable c) (h : s.Reachable c) :
    r.Reachable c := by
  induction h with
  | supplied h => exact .supplied h
  | bound hm h => exact hbound _ hm _ _ h
  | member ho h ih => exact ih.member h

theorem Reachable.of_withModule {c : Class} (hm : m.Bare) (h : (r.withModule m).Reachable c) :
    r.Reachable c := by
  refine h.of_entries fun m' hm' name c hc => ?_
  rcases List.mem_append.mp hm' with hm' | hm'
  · exact .bound hm' hc
  · obtain rfl := List.mem_singleton.mp hm'
    exact absurd hc (hm.notClass name c)

theorem Reachable.of_without {c : Class} (h : (r.without name).Reachable c) : r.Reachable c :=
  h.of_entries fun _ hm _ _ hc => .bound (List.mem_filter.mp hm).1 hc

theorem Reachable.of_withChange {ch : Change} {c : Class}
    (hch : ∀ name c, (name, .class c) ∈ ch.entries → r.Reachable c) (h : (r.withChange moduleName ch).Reachable c) :
    r.Reachable c := by
  refine h.of_entries fun m hm name c hc => ?_
  rcases mem_withChange hm with hm | ⟨m₀, hm₀, -, rfl⟩
  · exact .bound hm hc
  · rcases Change.mem_of_mem_bindings_apply hc with hc | hc
    · exact hch name c hc
    · exact .bound hm₀ hc

/-- A binding that leads to no other classes than those that can be reached. -/
def Leads (r : Registry) (b : Binding) : Prop := ∀ c, b = .class c → r.Reachable c

/-- Besides what could be reached before, a class statement leads to its new classes. -/
theorem Reachable.of_withClass {own owner : Binding} {base c : Class} {d : ClassStatement} (hown : r.Leads own)
    (howner : r.Leads owner) (hb : r.Reachable base) (h : (r.withClass moduleName own owner base d).Reachable c) :
    r.Reachable c ∨ c ∈ r.newClasses own owner base d := by
  induction h with
  | supplied h => exact Or.inl (.supplied h)
  | bound hm h =>
    rcases mem_withChange hm with hm | ⟨m₀, hm₀, -, rfl⟩
    · exact Or.inl (.bound hm h)
    · rcases Change.mem_of_mem_bindings_apply h with h | h
      · obtain ⟨c, hc, he⟩ := List.mem_map.mp h
        cases he
        exact Or.inr (List.mem_of_getLast? (Option.mem_toList.mp hc))
      · exact Or.inl (.bound hm₀ h)
  | member ho h ih =>
    have hdefined : ∀ {c name}, (name, .class c) ∈ (Class.define r.nextStamp owner base d).members → r.Reachable c :=
      fun h => (Class.mem_members_define h).elim (howner _) hb.member
    rcases ih with ih | ih
    · exact Or.inl (ih.member h)
    · rw [newClasses] at ih ⊢
      rcases List.mem_cons.mp ih with rfl | ih
      · exact Or.inl (hdefined h)
      · split at ih
        · cases ih
        · obtain rfl := List.mem_singleton.mp ih
          rcases Class.mem_members_enclosing h with h | rfl
          · exact Or.inl (hown _ h)
          · exact Or.inr List.mem_cons_self

end Registry
end Plugin
end GeneratorHost
