import GeneratorHost.FileTree

/-! What is found in a file tree. Everything before an entry is a directory, so an entry that is put into a
    directory, in the place of none or of a file, changes what is found there and nowhere else. -/

namespace GeneratorHost

namespace Tree

theorem at?_cons_of_members_eq_nil {t : Tree} (h : t.members = []) (name : Text) (route : Route) :
    t.at? (name :: route) = none := by
  simp [at?, h, find]

theorem at?_append (t : Tree) (route rest : Route) : t.at? (route ++ rest) = (t.at? route).bind (·.at? rest) := by
  induction route generalizing t with
  | nil => rfl
  | cons name route ih =>
    cases h : find name t.members with
    | none => simp [at?, h]
    | some m => simp [at?, h, ih]

theorem entry_of_find_eq_some {t m : Tree} {name : Text} (h : find name t.members = some m) : t.entry = .directory := by
  cases t with
  | directory ms => rfl
  | file content => cases h

theorem directory_members_put (t new : Tree) {route : Route} (h : route ≠ []) :
    directory (t.put new route).members = t.put new route := by
  cases route with
  | nil => exact absurd rfl h
  | cons name route => rfl

/-- Putting what has no members into a directory, where there was nothing with members, leaves all other entries. -/
theorem entry_put_concat {new : Tree} (hnew : new.members = []) {name : Text} {ms : List (Text × Tree)}
    (hms : ∀ m, find name ms = some m → m.members = []) :
    ∀ {parent : Route} {t : Tree}, t.at? parent = some (.directory ms) → ∀ {x : Route}, x ≠ parent ++ [name] →
      ((t.put new (parent ++ [name])).at? x).map entry = (t.at? x).map entry
  | [], t, ht, x, hx => by
    obtain rfl := Option.some.inj ht
    cases x with
    | nil => rfl
    | cons step rest =>
      by_cases hs : step = name
      · subst hs
        obtain ⟨next, more, rfl⟩ : ∃ next more, rest = next :: more :=
          List.exists_cons_of_ne_nil fun h => hx (by rw [h]; rfl)
        have hnone : ∀ m, find step ms = some m → m.at? (next :: more) = none := fun m hm =>
          at?_cons_of_members_eq_nil (hms m hm) next more
        simp only [List.nil_append, put, at?, members_directory, find_set_self, Option.bind_some]
        rw [← at?, at?_cons_of_members_eq_nil hnew]
        cases hf : find step ms with
        | none => rfl
        | some m => rw [Option.bind_some, ← at?, hnone m hf]
      · simp only [List.nil_append, put, at?, members_directory, find_set_other hs]
  | first :: parent, t, ht, x, hx => by
    obtain ⟨m, hm, hat⟩ := Option.bind_eq_some_iff.mp ht
    cases x with
    | nil =>
      simp only [at?, Option.map_some, entry_of_find_eq_some hm]
      rfl
    | cons step rest =>
      by_cases hs : step = first
      · subst hs
        have hrest : rest ≠ parent ++ [name] := fun h => hx (h ▸ rfl)
        simp only [List.cons_append, put, at?, members_directory, find_set_self, Option.bind_some, hm,
          Option.getD_some]
        exact entry_put_concat hnew hms hat hrest
      · simp only [List.cons_append, put, at?, members_directory, find_set_other hs]

end Tree

namespace FileTree

variable {t : FileTree} {route : Route}

/-- Everything before an entry is a directory. -/
theorem lookup_of_prefix {other : Route} {e : Entry} (h : t.lookup other = some e) (hp : route <+: other)
    (hne : route ≠ other) : t.lookup route = some .directory := by
  obtain ⟨rest, rfl⟩ := hp
  cases rest with
  | nil => exact absurd (List.append_nil route).symm hne
  | cons name rest =>
    rw [lookup, Tree.at?_append] at h
    obtain ⟨m, hm, -⟩ := Option.map_eq_some_iff.mp h
    obtain ⟨m₀, hm₀, hnext⟩ := Option.bind_eq_some_iff.mp hm
    obtain ⟨m₁, hm₁, -⟩ := Option.bind_eq_some_iff.mp hnext
    rw [lookup, hm₀, Option.map_some, Tree.entry_of_find_eq_some hm₁]

theorem lookup_dropLast {e : Entry} (h : t.lookup route = some e) (hne : route ≠ []) :
    t.lookup route.dropLast = some .directory := by
  refine lookup_of_prefix h (List.dropLast_prefix route) fun heq => ?_
  have hl := congrArg List.length heq
  rw [List.length_dropLast] at hl
  have := List.length_pos_iff.mpr hne
  omega

/-- What is found after an entry was put into a directory, in the place of none or of a file. -/
theorem lookup_put (hne : route ≠ []) (hparent : t.lookup route.dropLast = some .directory)
    (hd : t.lookup route ≠ some .directory) (entry : Entry) (x : Route) :
    (t.put route entry).lookup x = if x = route then some entry else t.lookup x := by
  split
  · next h => rw [h, lookup_put_self hne]
  · next h =>
    obtain ⟨parent, name, rfl⟩ : ∃ parent name, route = parent ++ [name] :=
      ⟨_, _, (List.dropLast_concat_getLast hne).symm⟩
    rw [List.dropLast_concat] at hparent
    obtain ⟨m, hm, hentry⟩ := Option.map_eq_some_iff.mp hparent
    obtain ⟨ms, rfl⟩ : ∃ ms, m = .directory ms := by
      cases m with
      | directory ms => exact ⟨ms, rfl⟩
      | file content => cases hentry
    have hnext : t.tree.at? (parent ++ [name]) = Tree.find name ms := by
      rw [Tree.at?_append, hm]
      simp only [Option.bind_some, Tree.at?, Tree.members_directory]
      cases Tree.find name ms <;> rfl
    -- No directory was at the route, so nothing lies below it, neither before nor after.
    have hms : ∀ m, Tree.find name ms = some m → m.members = [] := by
      intro m hfind
      rw [lookup, hnext, hfind] at hd
      cases m with
      | directory ms' => exact absurd rfl hd
      | file content => rfl
    have hput : ∀ new : Tree, new.members = [] →
        ((Tree.directory (t.tree.put new (parent ++ [name])).members).at? x).map Tree.entry = t.lookup x := by
      intro new hnew
      rw [Tree.directory_members_put t.tree new hne]
      exact Tree.entry_put_concat hnew hms hm h
    cases entry with
    | file content => exact hput (.file content) rfl
    | directory =>
      have hnew : ((t.tree.at? (parent ++ [name])).map Tree.members).getD [] = [] := by
        rw [hnext]
        cases hfind : Tree.find name ms with
        | none => rfl
        | some m => exact hms m hfind
      exact hput _ hnew

theorem lookup_put_file {content : Content} (h : t.lookup route = some (.file content)) (entry : Entry) (x : Route) :
    (t.put route entry).lookup x = if x = route then some entry else t.lookup x := by
  have hne : route ≠ [] := by
    rintro rfl
    cases h
  refine lookup_put hne (lookup_dropLast h hne) ?_ entry x
  rw [h]
  simp

end FileTree
end GeneratorHost
