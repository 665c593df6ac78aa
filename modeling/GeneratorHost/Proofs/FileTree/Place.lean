import GeneratorHost.Proofs.FileTree.Lookup

/-! Where a path leads to: name by name to a route, if all that lies before it is a directory. For a path without double
    dots that starts from the root this is the route of its names; every resolved path is of that form. -/

namespace GeneratorHost

namespace Path

variable {p : Path}

/-- A path that starts from the root and never goes back. -/
structure Direct (p : Path) : Prop where
  absolute : p.isAbsolute = true
  forward : ∀ name ∈ p.names, name ≠ parentName

/-- The route of a direct path. -/
def place (p : Path) : Route := p.names.map Text.asName

/-! ### Walks -/

/-- Where names lead to from a route; a double dot goes back by one. -/
def walk (route : Route) (names : List Text) : Route :=
  names.foldl (fun route name => if name = parentName then route.dropLast else route ++ [name.asName]) route

/-- Where a path leads to, seen from the working directory. -/
def placeFrom (workingDirectory : Route) (p : Path) : Route :=
  walk (if p.isAbsolute then [] else workingDirectory) p.names

/-- Where the first names of a path lead to, seen from the working directory. -/
def placeAfter (workingDirectory : Route) (p : Path) (count : Nat) : Route :=
  walk (if p.isAbsolute then [] else workingDirectory) (p.names.take count)

/-- Whether a route is one that a path comes to on the way to its end. -/
def OnWay (workingDirectory : Route) (p : Path) (x : Route) : Prop :=
  ∃ steps, x = walk (if p.isAbsolute then [] else workingDirectory) (p.names.take steps)

variable {workingDirectory : Route}

theorem walk_append (route : Route) (names more : List Text) :
    walk route (names ++ more) = walk (walk route names) more := List.foldl_append

theorem walk_singleton (route : Route) {name : Text} (hn : name ≠ parentName) :
    walk route [name] = route ++ [name.asName] := if_neg hn

theorem walk_parentName (route : Route) (names : List Text) :
    walk route (parentName :: names) = walk route.dropLast names := by
  rw [walk, List.foldl_cons, if_pos rfl, walk]

theorem walk_of_forward : ∀ {names : List Text} (route : Route), (∀ name ∈ names, name ≠ parentName) →
    walk route names = route ++ names.map Text.asName
  | [], route, _ => (List.append_nil route).symm
  | name :: names, route, hn => by
    rw [List.forall_mem_cons] at hn
    rw [← List.singleton_append, walk_append, walk_singleton route hn.1, walk_of_forward _ hn.2, List.append_assoc]
    rfl

theorem placeFrom_child (p : Path) {name : Text} (hn : name ≠ parentName) :
    (p.child name).placeFrom workingDirectory = p.placeFrom workingDirectory ++ [name.asName] := by
  show walk _ (p.names ++ [name]) = _
  rw [walk_append, walk_singleton _ hn]
  rfl

theorem onWay_placeFrom (workingDirectory : Route) (p : Path) :
    p.OnWay workingDirectory (p.placeFrom workingDirectory) := ⟨p.names.length, by rw [List.take_length]; rfl⟩

theorem placeAfter_length (workingDirectory : Route) (p : Path) :
    p.placeAfter workingDirectory p.names.length = p.placeFrom workingDirectory := by
  rw [placeAfter, List.take_length, placeFrom]

/-- A path and that of the directory it is in lead to the same by as many names, if there are any left. -/
theorem placeAfter_parent {count : Nat} (h : count < p.names.length) :
    p.parent.placeAfter workingDirectory count = p.placeAfter workingDirectory count := by
  have hcount : min count (p.names.length - 1) = count := by omega
  rw [placeAfter, placeAfter, parent, List.dropLast_eq_take, List.take_take, hcount]
  rfl

theorem OnWay.of_parent {x : Route} (h : p.parent.OnWay workingDirectory x) : p.OnWay workingDirectory x := by
  obtain ⟨steps, rfl⟩ := h
  refine ⟨min steps (p.names.length - 1), ?_⟩
  rw [parent, List.dropLast_eq_take, List.take_take]
  rfl

theorem Direct.placeFrom_eq (h : p.Direct) (workingDirectory : Route) : p.placeFrom workingDirectory = p.place := by
  rw [placeFrom, h.absolute, if_pos rfl, walk_of_forward [] h.forward]
  rfl

theorem Direct.prefix_of_onWay (h : p.Direct) {x : Route} (hx : p.OnWay workingDirectory x) : x <+: p.place := by
  obtain ⟨steps, rfl⟩ := hx
  rw [h.absolute, if_pos rfl, walk_of_forward [] fun name hn => h.forward name (List.mem_of_mem_take hn),
    List.nil_append, List.map_take]
  exact List.take_prefix steps p.place

/-! ### Resolved paths -/

/-- No double dot is left in a route. -/
theorem not_parentName_of_mem_route (workingDirectory : Route) (p : Path) :
    ∀ name ∈ p.route workingDirectory, name ≠ parentName := by
  have hfold : ∀ (names back : List Text), (∀ name ∈ back, name ≠ parentName) →
      ∀ name ∈ names.foldl (fun back name => if name == parentName then back.drop 1 else name :: back) back,
        name ≠ parentName := by
    intro names
    induction names with
    | nil => exact fun back hback => hback
    | cons first names ih =>
      intro back hback
      rw [List.foldl_cons]
      refine ih _ ?_
      split
      · exact fun name hn => hback name (List.mem_of_mem_drop hn)
      · next hf =>
        intro name hn
        rcases List.mem_cons.mp hn with rfl | hn
        · exact fun h => hf (beq_iff_eq.mpr h)
        · exact hback name hn
  intro name hn
  exact hfold _ [] (by simp) name (List.mem_reverse.mp hn)

theorem direct_ofRoute (workingDirectory : Route) (p : Path) : (ofRoute (p.route workingDirectory)).Direct :=
  ⟨rfl, not_parentName_of_mem_route workingDirectory p⟩

end Path

namespace FileTree

variable {t : FileTree} {p : Path} {route next : Route} {e : Option Entry}

theorem isDirectoryAt_iff : t.isDirectoryAt route = true ↔ t.lookup route = some .directory := by
  rw [isDirectoryAt]
  cases t.lookup route with
  | none => simp
  | some entry => cases entry <;> simp [Entry.isDirectory]

theorem checkStart_eq_ok : t.checkStart p = .ok () ↔ t.lookup (t.start p) = some .directory := by
  rw [checkStart, ← isDirectoryAt_iff]
  cases t.isDirectoryAt (t.start p) <;> simp

theorem checkStart_of_not_directory (h : t.lookup (t.start p) ≠ some .directory) :
    t.checkStart p = .error .noWorkingDirectory := by
  rw [checkStart, if_neg fun hd => h (isDirectoryAt_iff.mp hd)]

theorem checkStart_cases (t : FileTree) (p : Path) :
    t.lookup (t.start p) = some .directory ∧ t.checkStart p = .ok () ∨
      t.lookup (t.start p) ≠ some .directory ∧ t.checkStart p = .error .noWorkingDirectory := by
  by_cases h : t.lookup (t.start p) = some .directory
  · exact Or.inl ⟨h, checkStart_eq_ok.mpr h⟩
  · exact Or.inr ⟨h, checkStart_of_not_directory h⟩

theorem checkStart_of_absolute (h : p.isAbsolute = true) (t : FileTree) : t.checkStart p = .ok () := by
  rw [checkStart_eq_ok, start, if_pos h]
  rfl

theorem checkStart_of_directory (h : t.lookup t.workingDirectory = some .directory) (p : Path) :
    t.checkStart p = .ok () := by
  rw [checkStart_eq_ok, start]
  split
  · rfl
  · exact h

theorem resolve_eq_ok {q : Path} (h : t.resolve p = .ok q) : q = .ofRoute (p.route t.workingDirectory) := by
  unfold resolve at h
  cases hc : checkWay (if p.isAbsolute then .root else .relative) [] p.names with
  | error e =>
    rw [hc] at h
    cases h
  | ok u =>
    cases hs : t.checkStart p with
    | error e =>
      rw [hc] at h
      simp only [hs] at h
      cases h
    | ok u =>
      rw [hc] at h
      simp only [hs] at h
      exact (Except.ok.inj h).symm

theorem enter_eq_ok {name : Text} (h : t.enter route name = .ok (next, e)) :
    t.lookup route = some .directory ∧ next = Path.walk route [name] ∧ e = t.lookup next ∧
      (next ≠ [] → t.lookup next.dropLast = some .directory) := by
  unfold enter at h
  split at h
  · cases h
  · cases h
  · next hd =>
    by_cases hn : name = Path.parentName
    · rw [if_pos (beq_iff_eq.mpr hn)] at h
      cases h
      have hback : t.lookup route.dropLast = some .directory := by
        by_cases hr : route = []
        · rw [hr]
          rfl
        · exact lookup_dropLast hd hr
      exact ⟨hd, (if_pos hn).symm, hback.symm, lookup_dropLast hback⟩
    · rw [if_neg fun hp => hn (beq_iff_eq.mp hp)] at h
      split at h
      · cases h
      · cases h
        refine ⟨hd, (Path.walk_singleton route hn).symm, rfl, fun _ => ?_⟩
        rw [List.dropLast_concat]
        exact hd

/-- A step from a directory leads to some route, in every tree in which that is a directory, or its name is too long. -/
theorem enter_cases (name : Text) (route : Route) :
    (∃ cause, ∀ t : FileTree, t.lookup route = some .directory → t.enter route name = .error cause) ∨
      ∃ next, ∀ t : FileTree, t.lookup route = some .directory → t.enter route name = .ok (next, t.lookup next) := by
  by_cases hn : name = Path.parentName
  · refine Or.inr ⟨route.dropLast, fun t hd => ?_⟩
    have hback : t.lookup route.dropLast = some .directory := by
      by_cases hr : route = []
      · rw [hr]
        rfl
      · exact lookup_dropLast hd hr
    simp only [enter, hd, hback]
    rw [if_pos (beq_iff_eq.mpr hn)]
  · by_cases hs : byteCount name > longestName
    · refine Or.inl ⟨.nameTooLong, fun t hd => ?_⟩
      simp only [enter, hd]
      rw [if_neg fun h => hn (beq_iff_eq.mp h), if_pos hs]
    · refine Or.inr ⟨route ++ [name.asName], fun t hd => ?_⟩
      simp only [enter, hd]
      rw [if_neg fun h => hn (beq_iff_eq.mp h), if_neg hs]

theorem follow_cons_of_enter {name : Text} {names : List Text} {next : Route} {e : Option Entry}
    (h : t.enter route name = .ok (next, t.lookup next)) : t.follow route e (name :: names) =
      if (t.lookup next).isNone && !names.isEmpty then .error .missing else t.follow next (t.lookup next) names := by
  rw [follow, h]
  rfl

/-- Names are followed as far as there are directories to go through. -/
theorem follow_eq_ok : ∀ {names : List Text} {route next : Route},
    t.follow route (t.lookup route) names = .ok (next, e) →
    next = Path.walk route names ∧ e = t.lookup next ∧
      (names ≠ [] → next ≠ [] → t.lookup next.dropLast = some .directory)
  | [], route, next, h => by
    cases h
    exact ⟨rfl, rfl, fun h => absurd rfl h⟩
  | name :: names, route, next, h => by
    -- Where the last name leads to need not exist; the directory that it stands in does.
    rw [follow] at h
    cases hs : t.enter route name with
    | error cause =>
      rw [hs] at h
      cases h
    | ok found =>
      obtain ⟨middle, e'⟩ := found
      obtain ⟨-, hmiddle, rfl, hparent⟩ := enter_eq_ok hs
      rw [hs] at h
      replace h : (if (t.lookup middle).isNone && !names.isEmpty then .error .missing
        else t.follow middle (t.lookup middle) names) = .ok (next, e) := h
      split at h
      · cases h
      · obtain ⟨hnext, he, hp⟩ := follow_eq_ok h
        refine ⟨by rw [hnext, hmiddle, ← Path.walk_append, List.singleton_append], he, fun _ => ?_⟩
        cases names with
        | nil =>
          rw [hnext]
          exact hparent
        | cons second names => exact hp (List.cons_ne_nil _ _)

theorem depart_of_directory (h : t.lookup route = some .directory) (names : List Text) :
    t.depart route names = t.follow route (t.lookup route) names := by
  cases names with
  | nil => rw [depart, if_pos (isDirectoryAt_iff.mpr h)]; rfl
  | cons name names => rw [depart, if_pos (isDirectoryAt_iff.mpr h)]

/-- Back is the same way everywhere, from a directory and from where one was. -/
theorem depart_parentName (t : FileTree) (route : Route) (names : List Text) :
    t.depart route (Path.parentName :: names) = t.depart route.dropLast names := by
  by_cases hd : t.lookup route = some .directory
  · have hback : t.lookup route.dropLast = some .directory := by
      by_cases hr : route = []
      · rw [hr]
        rfl
      · exact lookup_dropLast hd hr
    have henter : t.enter route Path.parentName = .ok (route.dropLast, t.lookup route.dropLast) := by
      simp only [enter, hd, hback]
      rfl
    rw [depart_of_directory hd, depart_of_directory hback, follow_cons_of_enter henter, hback]
    rfl
  · rw [depart, if_neg fun h => hd (isDirectoryAt_iff.mp h)]
    rfl

theorem depart_of_not_directory (h : t.lookup route ≠ some .directory) {name : Text} (hn : name ≠ Path.parentName)
    (names : List Text) : t.depart route (name :: names) = .error .missing := by
  rw [depart, if_neg fun hd => h (isDirectoryAt_iff.mp hd), if_neg fun he => hn (beq_iff_eq.mp he)]

theorem depart_nil_of_not_directory (h : t.lookup route ≠ some .directory) : t.depart route [] = .error .missing := by
  rw [depart, if_neg fun hd => h (isDirectoryAt_iff.mp hd)]

/-- Where names lead to from anywhere, something stands that is in a directory. -/
theorem depart_eq_ok : ∀ {names : List Text} {route next : Route}, t.depart route names = .ok (next, e) →
    next = Path.walk route names ∧ e = t.lookup next ∧ (next ≠ [] → t.lookup next.dropLast = some .directory)
  | [], route, next, h => by
    by_cases hd : t.lookup route = some .directory
    · rw [depart_of_directory hd] at h
      cases h
      exact ⟨rfl, rfl, lookup_dropLast hd⟩
    · rw [depart_nil_of_not_directory hd] at h
      cases h
  | name :: names, route, next, h => by
    by_cases hd : t.lookup route = some .directory
    · rw [depart_of_directory hd] at h
      obtain ⟨hnext, he, hparent⟩ := follow_eq_ok h
      exact ⟨hnext, he, hparent (List.cons_ne_nil _ _)⟩
    · by_cases hn : name = Path.parentName
      · subst hn
        rw [depart_parentName] at h
        obtain ⟨hnext, hrest⟩ := depart_eq_ok h
        exact ⟨hnext.trans (Path.walk_parentName route names).symm, hrest⟩
      · rw [depart_of_not_directory hd hn] at h
        cases h

/-- A path is found where its names lead to. -/
theorem locate_eq_ok (h : t.locate p = .ok (route, e)) :
    route = p.placeFrom t.workingDirectory ∧ e = t.lookup route ∧
      (route ≠ [] → t.lookup route.dropLast = some .directory) := by
  unfold locate at h
  split at h
  · exact depart_eq_ok h
  · cases h

/-- Only a name that is too long keeps it open what stands at a path. -/
theorem entryAt_eq_error {e : Failure} : t.entryAt p = .error e ↔
    (∃ bytes, bytesOf p.text = .ok bytes) ∧ t.stat p = .error .nameTooLong ∧ e = .os .nameTooLong p.text := by
  rw [entryAt]
  cases bytesOf p.text with
  | error e' => simp
  | ok bytes =>
    cases hs : t.stat p with
    | ok entry => simp
    | error cause => cases cause <;> simp [eq_comm]

theorem entryAt_eq_some_iff {entry : Entry} : t.entryAt p = .ok (some entry) ↔
    (∃ bytes, bytesOf p.text = .ok bytes) ∧ ∃ route, t.locate p = .ok (route, some entry) := by
  unfold entryAt stat
  cases bytesOf p.text with
  | error e => simp
  | ok bytes =>
    cases t.locate p with
    | error cause => cases cause <;> simp
    | ok found =>
      obtain ⟨route, e⟩ := found
      cases e <;> simp

theorem isDirectory_eq_error {e : Failure} : t.isDirectory p = .error e ↔ t.entryAt p = .error e := by
  rw [isDirectory]
  cases t.entryAt p <;> simp [Except.map]

theorem isDirectory_eq_true_iff : t.isDirectory p = .ok true ↔ t.entryAt p = .ok (some .directory) := by
  rw [isDirectory]
  cases h : t.entryAt p with
  | error e => simp [Except.map]
  | ok entry =>
    cases entry with
    | none => simp [Except.map]
    | some e => cases e <;> simp [Except.map, Entry.isDirectory]

theorem isDirectory_eq_true (h : t.isDirectory p = .ok true) :
    t.lookup (p.placeFrom t.workingDirectory) = some .directory := by
  obtain ⟨-, route, hl⟩ := entryAt_eq_some_iff.mp (isDirectory_eq_true_iff.mp h)
  obtain ⟨rfl, he, -⟩ := locate_eq_ok hl
  exact he.symm

end FileTree
end GeneratorHost
