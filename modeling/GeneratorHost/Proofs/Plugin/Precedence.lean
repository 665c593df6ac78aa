import GeneratorHost.Proofs.Plugin.Candidates

/-! The order of the generators of a plug-in. They come in the order in which their oldest names were bound; a name that
    was deleted is as old as its next binding, and a name that is bound again stays as old as it was. The names that every
    module has before its statements are older than all others. That is the order of the class statements as long as no
    class goes by a name that is older than its statement. -/

namespace GeneratorHost
namespace Plugin
namespace Registry

open Act

variable {x : Execution} {name : Text} {n : Nat}

namespace Execution

/-- The names of the module itself after a number of statements. -/
def namesAt (x : Execution) (n : Nat) : List Text := ((x.registryAt n).bindings x.name).names

/-- A name that was bound after a number of statements, not before the last of them, and that stayed bound from then on. -/
structure Since (x : Execution) (name : Text) (n : Nat) : Prop where
  le : n ≤ x.statements.length
  before : ∀ k, n = k + 1 → name ∉ x.namesAt k
  after : ∀ k, n ≤ k → k ≤ x.statements.length → name ∈ x.namesAt k

/-- A name that leads to a class when the execution has ended. -/
def GoesBy (x : Execution) (c : Class) (name : Text) : Prop := (x.stop.bindings x.name).get? name = some (.class c)

/-- A class goes by a name that is older than all the names of another one. Names that one statement bound are as old as
    one another, and come in the order in which it bound them. -/
def Older (x : Execution) (c₁ c₂ : Class) : Prop :=
  ∃ first n, x.GoesBy c₁ first ∧ x.Since first n ∧ ∀ name k, x.GoesBy c₂ name → x.Since name k →
    n < k ∨ n = k ∧ Precedes (x.namesAt n) first name

/-- The class that a statement defines. -/
def DefinedBy (x : Execution) (n : Nat) (c : Class) : Prop :=
  ∃ d base owner, x.statements[n]? = some (.define d) ∧ (x.registryAt n).baseClass x.name d.base = .ok base ∧
    ((x.registryAt n).ownerIn x.name).continued d.moduleSuffix = .ok owner ∧
    c = Class.define (x.registryAt n).nextStamp owner base d

/-- The oldest of the names that a class goes by was bound by a statement. -/
def NamedBy (x : Execution) (n : Nat) (c : Class) : Prop :=
  (∃ name, x.GoesBy c name ∧ x.Since name (n + 1)) ∧ ∀ name k, x.GoesBy c name → x.Since name k → n + 1 ≤ k

end Execution

/-! ### Names from statement to statement -/

/-- A statement takes one name away, or it binds new names behind the others. -/
theorem namesAt_succ (x : Execution) (n : Nat) :
    (∃ fresh, x.namesAt (n + 1) = x.namesAt n ++ fresh) ∨
      ∃ gone, x.namesAt (n + 1) = (x.namesAt n).filter (· != gone) := by
  have hmem := mem_names_registryAt x n
  -- A course does not tell which name is lost, so the statement that deletes one is executed here by itself.
  by_cases hdelete : ∃ name, x.statements[n]? = some (.delete name)
  · obtain ⟨gone, hgone⟩ := hdelete
    obtain ⟨m, hm⟩ := exists_find? hmem
    have hsame : x.registryAt (n + 1) = x.registryAt n → x.namesAt (n + 1) = x.namesAt n ++ [] := fun he => by
      rw [Execution.namesAt, he, List.append_nil, Execution.namesAt]
    rcases registryAt_succ x n with hstep | ⟨statement, hstatement, hstep⟩
    · exact Or.inl ⟨[], hsame hstep⟩
    · obtain rfl := Option.some.inj (hgone.symm.trans hstatement)
      change _ = (unbind x.name gone).after (x.registryAt n) at hstep
      rcases after_unbind x.name gone (x.registryAt n) with he | he
      · refine Or.inr ⟨gone, ?_⟩
        rw [Execution.namesAt, hstep, he, bindings_withChange_self hm, Execution.namesAt, bindings_of_find? hm]
        exact Namespace.names_unbind _ _
      · exact Or.inl ⟨[], hsame (hstep.trans he)⟩
  · have hcourse : Course x.name (· ≠ x.name) (x.registryAt n) (x.registryAt (n + 1)) :=
      course_registryAt_succ x n (fun _ hb => hb.ne) fun hd => absurd hd hdelete
    exact Or.inl (hcourse.names_bindings hmem (not_not.mpr rfl))

theorem nodup_namesAt (hs : Sound x.before) (n : Nat) : (x.namesAt n).Nodup := by
  obtain ⟨m, hm⟩ := exists_find? (mem_names_registryAt x n)
  rw [Execution.namesAt, bindings_of_find? hm]
  exact (sound_registryAt hs n).nodup m (mem_of_find? hm)

/-- A statement leaves the order of the names that stay. -/
theorem precedes_namesAt_succ (hs : Sound x.before) {a b : Text} (hb : b ∈ x.namesAt n)
    (ha' : a ∈ x.namesAt (n + 1)) (hb' : b ∈ x.namesAt (n + 1)) :
    Precedes (x.namesAt (n + 1)) a b ↔ Precedes (x.namesAt n) a b := by
  have hnodup := nodup_namesAt hs (n + 1)
  rcases namesAt_succ x n with ⟨fresh, hstep⟩ | ⟨gone, hstep⟩
  · rw [hstep] at hnodup ⊢
    exact Precedes.append_iff hnodup hb
  · rw [hstep] at ha' hb' ⊢
    exact Precedes.filter_iff (List.mem_filter.mp ha').2 (List.mem_filter.mp hb').2

/-- A name that a statement binds comes behind those that stay. -/
theorem precedes_of_new {a b : Text} (ha : a ∈ x.namesAt n) (hb : b ∉ x.namesAt n)
    (hb' : b ∈ x.namesAt (n + 1)) : Precedes (x.namesAt (n + 1)) a b := by
  rcases namesAt_succ x n with ⟨fresh, hstep⟩ | ⟨gone, hstep⟩
  · rw [hstep] at hb' ⊢
    exact .of_mem_append ha ((List.mem_append.mp hb').resolve_left hb)
  · rw [hstep] at hb'
    exact absurd (List.mem_filter.mp hb').1 hb

/-! ### The age of names -/

/-- A name that is bound in the end was there before the first statement or bound by one, and not taken away since. -/
theorem exists_since (hname : name ∈ x.namesAt x.statements.length) : ∃ n, x.Since name n := by
  -- By induction on the number of statements: the last one that bound the name is looked for from the end.
  have hlast : ∀ length, name ∈ x.namesAt length →
      ∃ n ≤ length, (∀ k, n = k + 1 → name ∉ x.namesAt k) ∧ ∀ k, n ≤ k → k ≤ length → name ∈ x.namesAt k := by
    intro length
    induction length with
    | zero =>
      intro hname
      refine ⟨0, Nat.le_refl 0, fun k hk => by omega, fun k _ hk => ?_⟩
      obtain rfl := Nat.le_zero.mp hk
      exact hname
    | succ length ih =>
      intro hname
      by_cases hbefore : name ∈ x.namesAt length
      · obtain ⟨n, hn, hnot, hsince⟩ := ih hbefore
        refine ⟨n, Nat.le_succ_of_le hn, hnot, fun k hk hkl => ?_⟩
        rcases Nat.le_succ_iff.mp hkl with hkl | rfl
        · exact hsince k hk hkl
        · exact hname
      · refine ⟨length + 1, Nat.le_refl _, fun k hk => ?_, fun k hk hkl => ?_⟩
        · obtain rfl : length = k := by omega
          exact hbefore
        · obtain rfl : k = length + 1 := by omega
          exact hname
  obtain ⟨n, hn, hnot, hsince⟩ := hlast _ hname
  exact ⟨n, hn, hnot, hsince⟩

/-- From the moment on that two names are bound, their order stays. -/
theorem precedes_namesAt_iff (hs : Sound x.before) {a b : Text} {i j k l : Nat} (ha : x.Since a i)
    (hb : x.Since b j) (hi : i ≤ k) (hj : j ≤ k) (hkl : k ≤ l) (hl : l ≤ x.statements.length) :
    Precedes (x.namesAt l) a b ↔ Precedes (x.namesAt k) a b := by
  induction l with
  | zero =>
    obtain rfl := Nat.le_zero.mp hkl
    exact Iff.rfl
  | succ l ih =>
    rcases Nat.eq_or_lt_of_le hkl with rfl | hlt
    · exact Iff.rfl
    · rw [← ih (by omega) (by omega)]
      exact precedes_namesAt_succ hs (hb.after l (by omega) (by omega)) (ha.after (l + 1) (by omega) hl)
        (hb.after (l + 1) (by omega) hl)

theorem precedes_of_older (hs : Sound x.before) {a b : Text} {i j : Nat} (ha : x.Since a i) (hb : x.Since b j)
    (hij : i < j) : Precedes (x.namesAt x.statements.length) a b := by
  obtain ⟨k, rfl⟩ : ∃ k, j = k + 1 := Nat.exists_eq_add_one.mpr (Nat.zero_lt_of_lt hij)
  have hle := hb.le
  rw [precedes_namesAt_iff hs ha hb (k := k + 1) (by omega) (Nat.le_refl _) hle (Nat.le_refl _)]
  exact precedes_of_new (ha.after k (by omega) (by omega)) (hb.before k rfl) (hb.after (k + 1) (Nat.le_refl _) hle)

/-- Of two names, the older one comes first. -/
theorem precedes_iff_older (hs : Sound x.before) {a b : Text} {i j : Nat} (ha : x.Since a i) (hb : x.Since b j) :
    Precedes (x.namesAt x.statements.length) a b ↔ i < j ∨ i = j ∧ Precedes (x.namesAt i) a b := by
  rcases Nat.lt_trichotomy i j with hlt | rfl | hlt
  · simp only [hlt, true_or, iff_true]
    exact precedes_of_older hs ha hb hlt
  · simp only [Nat.lt_irrefl, false_or, true_and]
    exact precedes_namesAt_iff hs ha hb (Nat.le_refl i) (Nat.le_refl i) ha.le (Nat.le_refl _)
  · have hnot := (precedes_of_older hs hb ha hlt).asymm (nodup_namesAt hs _)
    have hne : i ≠ j := Nat.ne_of_gt hlt
    simp only [hnot, hne, Nat.not_lt_of_gt hlt, false_and, or_self]

/-! ### The age of classes -/

theorem Execution.GoesBy.mem {c : Class} (h : x.GoesBy c name) : name ∈ x.namesAt x.statements.length :=
  Namespace.mem_names_of_mem (Namespace.mem_of_get? h)

/-- A class is older than another one if one of its names comes before all the names of that one. -/
theorem older_iff (hs : Sound x.before) {c₁ c₂ : Class} :
    x.Older c₁ c₂ ↔ ∃ first, x.GoesBy c₁ first ∧ ∀ name, x.GoesBy c₂ name →
      Precedes (x.namesAt x.statements.length) first name := by
  constructor
  · rintro ⟨first, n, hfirst, hsince, hothers⟩
    refine ⟨first, hfirst, fun name hname => ?_⟩
    obtain ⟨k, hk⟩ := exists_since hname.mem
    exact (precedes_iff_older hs hsince hk).mpr (hothers name k hname hk)
  · rintro ⟨first, hfirst, hothers⟩
    obtain ⟨n, hn⟩ := exists_since hfirst.mem
    refine ⟨first, n, hfirst, hn, fun name k hname hk => ?_⟩
    exact (precedes_iff_older hs hn hk).mp (hothers name hname)

theorem not_older_of_older (hs : Sound x.before) {c₁ c₂ : Class} (h₁ : x.Older c₁ c₂) :
    ¬x.Older c₂ c₁ := by
  intro h₂
  obtain ⟨first, hfirst, hbefore⟩ := (older_iff hs).mp h₁
  obtain ⟨second, hsecond, hbefore'⟩ := (older_iff hs).mp h₂
  exact (hbefore second hsecond).asymm (nodup_namesAt hs _) (hbefore' first hfirst)

/-- The candidates of the module come in the order of their age. -/
theorem pairwise_older (hs : Sound x.before) {m : Module} (hm : x.stop.find? x.name = some m) {cs : List Class}
    (hcs : candidates m = .ok cs) : cs.Pairwise x.Older := by
  have hnodup : m.bindings.names.Nodup := (sound_registryAt hs _).nodup m (mem_of_find? hm)
  have hgoes : ∀ c name, x.GoesBy c name ↔ (name, .class c) ∈ m.bindings := by
    intro c name
    rw [Execution.GoesBy, bindings_of_find? hm]
    exact Namespace.get?_eq_some_iff hnodup
  have hnames : x.namesAt x.statements.length = m.bindings.names := congrArg Namespace.names (bindings_of_find? hm)
  have hsub : cs.Sublist m.bindings.classes := (ownedOf_eq_ok hcs).1.trans List.filter_sublist
  refine ((Namespace.pairwise_classes m.bindings).sublist hsub).imp ?_
  rintro c₁ c₂ ⟨first, hfirst, hbefore⟩
  refine (older_iff hs).mpr ⟨first, (hgoes c₁ first).mpr hfirst, fun name hname => ?_⟩
  rw [hnames]
  exact hbefore name ((hgoes c₂ name).mp hname)

theorem Execution.DefinedBy.unique {c c' : Class} (h : x.DefinedBy n c) (h' : x.DefinedBy n c') : c = c' := by
  obtain ⟨d, base, owner, hd, hbase, howner, rfl⟩ := h
  obtain ⟨d', base', owner', hd', hbase', howner', rfl⟩ := h'
  cases hd.symm.trans hd'
  cases hbase.symm.trans hbase'
  cases howner.symm.trans howner'
  rfl

/-- Of two classes that go by the names that their statements bound, the older one was defined first. -/
theorem lt_of_older {c₁ c₂ : Class} {i j : Nat} (h : x.Older c₁ c₂) (hne : c₁ ≠ c₂) (h₁ : x.DefinedBy i c₁)
    (h₂ : x.DefinedBy j c₂) (hn₁ : x.NamedBy i c₁) (hn₂ : x.NamedBy j c₂) : i < j := by
  -- The name of the older class was bound by its statement or later, and no later than the name of the other one.
  obtain ⟨first, n, hfirst, hsince, hbefore⟩ := h
  obtain ⟨⟨name, hname, hj⟩, -⟩ := hn₂
  have hi : i + 1 ≤ n := hn₁.2 first n hfirst hsince
  have hn : n ≤ j + 1 := by
    rcases hbefore name (j + 1) hname hj with hlt | ⟨he, -⟩
    · exact Nat.le_of_lt hlt
    · exact Nat.le_of_eq he
  refine Nat.lt_of_le_of_ne (Nat.le_of_succ_le_succ (Nat.le_trans hi hn)) ?_
  rintro rfl
  exact hne (h₁.unique h₂)

end Registry

/-- The candidates come in the order of their oldest names, and the one with the oldest name is picked. That is the order
    of their class statements if the oldest name of every class is one that its statement bound. -/
theorem candidates_by_age {files : FileTree} {p : Path} {r s : Registry} {name : Text} (hr : r.Reached)
    (h : Registry.load files p r = .ok name s) :
    ∃ x m, Registry.execution? files p r = .ok x ∧ x.name = name ∧ x.stop = s ∧ s.find? name = some m ∧
      ∀ cs, candidates m = .ok cs →
        (∀ c₁ ∈ cs, ∀ c₂ ∈ cs, c₁ ≠ c₂ → (Precedes cs c₁ c₂ ↔ x.Older c₁ c₂)) ∧
        (∀ res, resolve m = .ok res → ∀ c ∈ cs, c ≠ res.chosen → x.Older res.chosen c) ∧
        ((∀ c ∈ cs, ∀ n, x.DefinedBy n c → x.NamedBy n c) →
          cs.Pairwise fun c₁ c₂ => ∀ i j, x.DefinedBy i c₁ → x.DefinedBy j c₂ → i < j) := by
  obtain ⟨m, hm⟩ := Registry.find?_of_load hr h
  obtain ⟨x, hx, rfl, rfl⟩ := Registry.load_ok h
  obtain rfl := Registry.before_of_execution? hx
  obtain ⟨hs, -⟩ := hr.sound_named
  refine ⟨x, m, hx, rfl, rfl, hm, fun cs hcs => ?_⟩
  have holder := Registry.pairwise_older hs hm hcs
  have hnodup : cs.Pairwise (· ≠ ·) := List.Nodup.of_map _ (nodup_candidates hcs)
  refine ⟨fun c₁ hc₁ c₂ hc₂ hne => ⟨?_, fun h₁ => ?_⟩, fun res hres c hc hne => ?_, fun hnamed => ?_⟩
  · exact List.pairwise_iff_forall_sublist.mp holder
  · refine (Precedes.total hc₁ hc₂ hne).resolve_right fun h₂ => ?_
    exact Registry.not_older_of_older hs h₁ (List.pairwise_iff_forall_sublist.mp holder h₂)
  · obtain ⟨display, -, hres⟩ := (resolve_eq_ok_iff hcs).mp hres
    obtain ⟨others, hothers⟩ := List.head?_eq_some_iff.mp (head?_of_choose hres)
    rw [hothers] at holder hc
    exact (List.pairwise_cons.mp holder).1 c ((List.mem_cons.mp hc).resolve_left hne)
  · refine (holder.and hnodup).imp_of_mem ?_
    rintro c₁ c₂ hc₁ hc₂ ⟨hold, hne⟩ i j hi hj
    exact Registry.lt_of_older hold hne hi hj (hnamed c₁ hc₁ i hi) (hnamed c₂ hc₂ j hj)

/-- A plug-in whose second class is bound to a name that was bound before its first class was defined. -/
def overtaking : FileTree :=
  ⟨[], [("g.py", .file (.module [.bindValue "A", .define (.plain "B" .generator), .define (.plain "A" .generator)]))]⟩

/-- The class that was defined last is listed first, since its name is the older one. -/
theorem candidates_by_age_overtaking :
    Registry.empty.Reached ∧ ∃ name s m x c₁ c₂, Registry.load overtaking (.ofText "g.py") .empty = .ok name s ∧
      Registry.execution? overtaking (.ofText "g.py") .empty = .ok x ∧ s.find? name = some m ∧
      candidates m = .ok [c₁, c₂] ∧ c₁.name = "A" ∧ c₂.name = "B" ∧ c₂.stamp < c₁.stamp ∧ x.Older c₁ c₂ := by
  have hloads : (match Registry.load overtaking (.ofText "g.py") .empty with
    | .ok name s => (s.find? name).any fun m => match candidates m with
      | .ok cs => cs.map (fun c => (c.name, c.stamp)) == ([("A", 5), ("B", 4)] : List (Text × Nat))
      | .error _ => false
    | .error _ _ => false) = true := by decide +kernel
  cases h : Registry.load overtaking (.ofText "g.py") .empty with
  | error e s =>
    rw [h] at hloads
    cases hloads
  | ok name s =>
    obtain ⟨x, m, hx, -, -, hm, horder⟩ := candidates_by_age .empty h
    simp only [h, hm, Option.any_some] at hloads
    split at hloads
    · next cs hcs =>
      obtain ⟨c₁, rest, rfl, h₁, hrest⟩ := List.map_eq_cons_iff.mp (beq_iff_eq.mp hloads)
      obtain ⟨c₂, rest, rfl, h₂, hnil⟩ := List.map_eq_cons_iff.mp hrest
      obtain rfl := List.map_eq_nil_iff.mp hnil
      obtain ⟨hn₁, hs₁⟩ := Prod.mk.inj h₁
      obtain ⟨hn₂, hs₂⟩ := Prod.mk.inj h₂
      have hlt : c₂.stamp < c₁.stamp := by omega
      have hne : c₁ ≠ c₂ := fun he => Nat.lt_irrefl _ (he ▸ hlt)
      have hiff := (horder _ hcs).1 c₁ List.mem_cons_self c₂ (List.mem_cons_of_mem _ List.mem_cons_self) hne
      exact ⟨.empty, name, s, m, x, c₁, c₂, rfl, hx, hm, hcs, hn₁, hn₂, hlt, hiff.mp (List.Sublist.refl _)⟩
    · cases hloads

/-- What a module says about itself is older than anything that its statements bind. -/
example : (match Registry.load ⟨[], [("g.py", .file (.module
      [.define (.plain "A" .generator), .define (.plain "B" .generator), .alias "__doc__" "B"]))]⟩ (.ofText "g.py") .empty with
    | .ok name s => (s.find? name).any fun m => match candidates m with
      | .ok cs => cs.map (·.name) == (["B", "A"] : List Text)
      | .error _ => false
    | .error _ _ => false) = true := by decide +kernel

end Plugin
end GeneratorHost
