import GeneratorHost.Plugin.Class

/-! What is inherited. A class is a generator if the class that it descends from is one, and what is said first of a
    method, from the class itself on down, tells whether it is abstract. -/

namespace GeneratorHost
namespace Plugin

/-- A class statement that says something of a name. -/
def ClassStatement.Says (d : ClassStatement) (name : Text) : Prop := ∃ kind, (name, kind) ∈ Class.definedMembers d

namespace Class

/-! ### Members -/

/-- The only class that a class has of its own is the one that it claims to be from, if it claims that of one. -/
theorem owner_of_mem_ownMembers {name qualifiedName entry : Text} {owner : Binding} {c : Class}
    (h : (entry, .class c) ∈ ownMembers name qualifiedName owner) : owner = .class c := by
  simp only [ownMembers, List.mem_cons, Prod.mk.injEq, reduceCtorEq, and_false, List.not_mem_nil, or_false,
    false_or] at h
  exact h.2.symm

theorem notMem_membersOf {stamp : Nat} {kinds : List (Text × String)} {name : Text} {c : Class} :
    (name, .class c) ∉ membersOf stamp kinds := by
  rintro h
  obtain ⟨entry, -, he⟩ := List.mem_map.mp h
  cases he

/-- The classes that can be looked up in a class are what it claims to be from and those that can be looked up in what it
    is derived from. -/
theorem mem_members_define {stamp : Nat} {name : Text} {owner : Binding} {base c : Class} {d : ClassStatement}
    (h : (name, .class c) ∈ (define stamp owner base d).members) : owner = .class c ∨ (name, .class c) ∈ base.members := by
  rcases List.mem_append.mp h with h | h
  · exact Or.inl (owner_of_mem_ownMembers h)
  · rcases List.mem_append.mp h with h | h
    · exact absurd (List.mem_reverse.mp h) notMem_membersOf
    · exact Or.inr h

/-! ### Descent -/

/-- The classes that no statement defines. -/
def supplied : List Class := [top, abstractBase, scriptedBase, externalBase]

/-- A class, the statements that it comes from, its own first, and the class that the last of them is derived from. -/
inductive Descends : Class → List ClassStatement → Class → Prop
  | supplied {c : Class} (h : c ∈ supplied) : Descends c [] c
  | enclosing (stamp : Nat) (name : Text) (owner : Binding) (inner : Class) :
    Descends (enclosing stamp name owner inner) [] (enclosing stamp name owner inner)
  | defined {base root : Class} {ds : List ClassStatement} (stamp : Nat) (owner : Binding) (d : ClassStatement)
    (h : Descends base ds root) : Descends (define stamp owner base d) (d :: ds) root

/-- No class can be looked up in a class that is made of texts and values and inherits no class. -/
theorem notMem_members_ready {stamp : Nat} {name owner entry : Text} {kinds : List (Text × String)}
    {inherited : List (Text × Binding)} {inner : Class} (h : (entry, .class inner) ∉ inherited) :
    (entry, .class inner) ∉ (ready stamp name owner kinds inherited).members := by
  intro hm
  rcases List.mem_append.mp hm with hm | hm
  · cases owner_of_mem_ownMembers hm
  · rcases List.mem_append.mp hm with hm | hm
    · exact notMem_membersOf hm
    · exact h hm

theorem notMem_members_supplied {c inner : Class} (h : c ∈ supplied) (name : Text) :
    (name, .class inner) ∉ c.members := by
  have htop : (name, .class inner) ∉ top.members := notMem_members_ready List.not_mem_nil
  have hbase : (name, .class inner) ∉ abstractBase.members := notMem_members_ready htop
  simp only [supplied, List.mem_cons, List.not_mem_nil, or_false] at h
  rcases h with rfl | rfl | rfl | rfl
  · exact htop
  · exact hbase
  · exact notMem_members_ready hbase
  · exact notMem_members_ready hbase

theorem mem_members_enclosing {stamp : Nat} {outer name : Text} {owner : Binding} {inner c : Class}
    (h : (name, .class c) ∈ (enclosing stamp outer owner inner).members) : owner = .class c ∨ c = inner := by
  rcases List.mem_append.mp h with h | h
  · exact Or.inl (owner_of_mem_ownMembers h)
  · rcases List.mem_cons.mp h with h | h
    · cases h
      exact Or.inr rfl
    · exact absurd h (notMem_members_supplied (List.mem_cons_self) name)

theorem Descends.isGenerator {c root : Class} {ds : List ClassStatement} (h : Descends c ds root) :
    c.isGenerator = root.isGenerator := by
  induction h with
  | supplied h => rfl
  | enclosing stamp name owner inner => rfl
  | defined stamp owner d h ih => exact ih

/-- What a class claims to be from can be looked up in it. -/
theorem Descends.owner_mem {c root : Class} {ds : List ClassStatement} (h : Descends c ds root) :
    ∃ name, (name, c.owner) ∈ c.members := by
  have hown : ∀ (name qualifiedName : Text) (owner : Binding) (more : List (Text × Binding)),
      ∃ entry, (entry, owner) ∈ ownMembers name qualifiedName owner ++ more := fun name qualifiedName owner more =>
    ⟨"__module__", List.mem_append_left _ (by simp [ownMembers])⟩
  cases h with
  | supplied h =>
    simp only [Class.supplied, List.mem_cons, List.not_mem_nil, or_false] at h
    rcases h with rfl | rfl | rfl | rfl
    · exact hown ..
    · exact hown ..
    · exact hown ..
    · exact hown ..
  | enclosing stamp name owner inner => exact hown ..
  | defined stamp owner d h => exact hown ..

/-! ### Abstract methods -/

/-- A method is left abstract if the first statement that says something of it declares it abstract and does not make
    it concrete, or if none says anything of it and it is abstract to begin with. -/
def LeftAbstract (root : Class) (ds : List ClassStatement) (method : Text) : Prop :=
  (∃ above d below, ds = above ++ d :: below ∧ (∀ d' ∈ above, ¬d'.Says method) ∧ method ∈ d.abstractMethods ∧
      method ∉ d.implemented) ∨
    (∀ d ∈ ds, ¬d.Says method) ∧ method ∈ root.abstractMethods

theorem says_of_mem_implemented {d : ClassStatement} {method : Text} (h : method ∈ d.implemented) : d.Says method :=
  ⟨methodKind, by simp [definedMembers, h]⟩

theorem leftAbstract_nil {root : Class} {method : Text} : LeftAbstract root [] method ↔ method ∈ root.abstractMethods := by
  simp [LeftAbstract]

theorem leftAbstract_cons {root : Class} {d : ClassStatement} {ds : List ClassStatement} {method : Text} :
    LeftAbstract root (d :: ds) method ↔
      (method ∈ d.abstractMethods ∧ method ∉ d.implemented) ∨ ¬d.Says method ∧ LeftAbstract root ds method := by
  constructor
  · rintro (⟨above, first, below, hds, habove, hfirst⟩ | ⟨hds, hroot⟩)
    · cases above with
      | nil =>
        obtain ⟨rfl, rfl⟩ := List.cons.inj hds
        exact Or.inl hfirst
      | cons d' above =>
        obtain ⟨rfl, rfl⟩ := List.cons.inj hds
        rw [List.forall_mem_cons] at habove
        exact Or.inr ⟨habove.1, Or.inl ⟨above, first, below, rfl, habove.2, hfirst⟩⟩
    · rw [List.forall_mem_cons] at hds
      exact Or.inr ⟨hds.1, Or.inr ⟨hds.2, hroot⟩⟩
  · rintro (hd | ⟨hd, ⟨above, first, below, rfl, habove, hfirst⟩ | ⟨hds, hroot⟩⟩)
    · exact Or.inl ⟨[], d, ds, rfl, List.forall_mem_nil _, hd⟩
    · exact Or.inl ⟨d :: above, first, below, rfl, List.forall_mem_cons.mpr ⟨hd, habove⟩, hfirst⟩
    · exact Or.inr ⟨List.forall_mem_cons.mpr ⟨hd, hds⟩, hroot⟩

theorem mem_abstractMethodsOf {base : Class} {d : ClassStatement} {method : Text} :
    method ∈ abstractMethodsOf base d ↔
      (method ∈ d.abstractMethods ∧ method ∉ d.implemented) ∨ ¬d.Says method ∧ method ∈ base.abstractMethods := by
  have hsays : ((definedMembers d).any fun m => m.1 == method) = true ↔ d.Says method := by
    simp [ClassStatement.Says]
  have himplemented : ¬d.Says method → method ∉ d.implemented := fun h hm => h (says_of_mem_implemented hm)
  simp only [abstractMethodsOf, List.mem_filter, List.mem_append, Bool.not_eq_true', ← Bool.not_eq_true, hsays,
    List.contains_iff_mem]
  grind

/-- The abstract methods of a class are those that its statements leave abstract. -/
theorem Descends.mem_abstractMethods {c root : Class} {ds : List ClassStatement} (h : Descends c ds root)
    (method : Text) : method ∈ c.abstractMethods ↔ LeftAbstract root ds method := by
  induction h with
  | supplied h => exact leftAbstract_nil.symm
  | enclosing stamp name owner inner => exact leftAbstract_nil.symm
  | defined stamp owner d h ih => rw [leftAbstract_cons, ← ih, ← mem_abstractMethodsOf, define]

/-- A class descended from a generator, of which no method is left abstract. -/
def ConcreteGenerator (c : Class) : Prop :=
  ∃ ds root, Descends c ds root ∧ root.isGenerator = true ∧ ∀ method, ¬LeftAbstract root ds method

theorem Descends.isConcrete_iff {c root : Class} {ds : List ClassStatement} (h : Descends c ds root) :
    c.isConcrete = true ↔ ConcreteGenerator c := by
  rw [isConcrete, Bool.and_eq_true, List.isEmpty_iff, List.eq_nil_iff_forall_not_mem]
  constructor
  · rintro ⟨hgenerator, habstract⟩
    refine ⟨ds, root, h, h.isGenerator.symm.trans hgenerator, fun method hm => ?_⟩
    exact habstract method ((h.mem_abstractMethods method).mpr hm)
  · rintro ⟨ds', root', h', hgenerator, hleft⟩
    refine ⟨h'.isGenerator.trans hgenerator, fun method hm => ?_⟩
    exact hleft method ((h'.mem_abstractMethods method).mp hm)

end Class
end Plugin
end GeneratorHost
