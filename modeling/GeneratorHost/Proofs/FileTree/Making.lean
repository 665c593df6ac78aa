import GeneratorHost.Proofs.FileTree.Place

/-! Making directories. What is missing on the way to a path is made one directory after the other, each in one that is
    there by then, and nothing else is changed, even if making them fails in the end. A directory that is there is not
    made again. -/

namespace GeneratorHost
namespace FileTree

variable {t u v : FileTree} {p : Path}

/-! ### What was there before -/

/-- All that changed is that missing directories were made, at routes of one kind. -/
structure Prepared (ways : Route → Prop) (t u : FileTree) : Prop where
  workingDirectory : u.workingDirectory = t.workingDirectory
  lookup : ∀ x, u.lookup x = t.lookup x ∨
    ways x ∧ t.lookup x = none ∧ u.lookup x = some .directory

theorem start_eq (h : u.workingDirectory = t.workingDirectory) (p : Path) : u.start p = t.start p := by
  rw [start, start, h]

/-- Where names lead to, they lead in every tree that has all the same entries and perhaps more. -/
theorem follow_of_forall_lookup (h : ∀ x entry, t.lookup x = some entry → u.lookup x = some entry) :
    ∀ {names : List Text} {route next : Route} {e : Option Entry},
      t.follow route (t.lookup route) names = .ok (next, e) →
        u.follow route (u.lookup route) names = .ok (next, u.lookup next)
  | [], route, next, e, hf => by
    cases hf
    rfl
  | name :: names, route, next, e, hf => by
    cases hs : t.enter route name with
    | error cause =>
      rw [follow, hs] at hf
      cases hf
    | ok found =>
      obtain ⟨middle, e'⟩ := found
      obtain ⟨hd, -, rfl, -⟩ := enter_eq_ok hs
      have henter : u.enter route name = .ok (middle, u.lookup middle) := by
        rcases enter_cases name route with ⟨cause, herror⟩ | ⟨middle', hok⟩
        · cases hs.symm.trans (herror t hd)
        · cases hs.symm.trans (hok t hd)
          exact hok u (h _ _ hd)
      rw [follow_cons_of_enter hs] at hf
      rw [follow_cons_of_enter henter]
      split at hf
      · cases hf
      · next hgoes =>
        -- The names go on from what is there, or end here.
        have hgoes' : ¬((u.lookup middle).isNone && !names.isEmpty) = true := by
          intro hstops
          cases hl : t.lookup middle with
          | none => simp_all
          | some entry => simp [h _ _ hl] at hstops
        rw [if_neg hgoes']
        exact follow_of_forall_lookup h hf

theorem depart_of_forall_lookup (h : ∀ x entry, t.lookup x = some entry → u.lookup x = some entry) :
    ∀ {names : List Text} {route next : Route} {e : Option Entry},
      t.depart route names = .ok (next, e) → u.depart route names = .ok (next, u.lookup next)
  | names, route, next, e, hf => by
    by_cases hd : t.lookup route = some .directory
    · rw [depart_of_directory hd] at hf
      rw [depart_of_directory (h _ _ hd)]
      exact follow_of_forall_lookup h hf
    · cases names with
      | nil =>
        rw [depart_nil_of_not_directory hd] at hf
        cases hf
      | cons name names =>
        by_cases hn : name = Path.parentName
        · subst hn
          rw [depart_parentName] at hf ⊢
          exact depart_of_forall_lookup h hf
        · rw [depart_of_not_directory hd hn] at hf
          cases hf

namespace Prepared

variable {ways : Route → Prop}

theorem refl (ways : Route → Prop) (t : FileTree) : Prepared ways t t := ⟨rfl, fun _ => Or.inl rfl⟩

theorem trans (h : Prepared ways t u) (h' : Prepared ways u v) : Prepared ways t v := by
  refine ⟨h'.workingDirectory.trans h.workingDirectory, fun x => ?_⟩
  rcases h.lookup x with he | ⟨hp, hn, hd⟩
  · rw [← he]
    exact h'.lookup x
  · rcases h'.lookup x with he' | ⟨-, hn', -⟩
    · exact Or.inr ⟨hp, hn, he'.trans hd⟩
    · rw [hd] at hn'
      cases hn'

/-- What was there already is as it was. -/
theorem lookup_of_isSome (h : Prepared ways t u) {x : Route} {e : Entry} (hx : t.lookup x = some e) :
    u.lookup x = some e := by
  rcases h.lookup x with he | ⟨-, hn, -⟩
  · rw [he, hx]
  · rw [hx] at hn
    cases hn

theorem locate (h : Prepared ways t u) {route : Route} {e : Option Entry} (hl : t.locate p = .ok (route, e)) :
    u.locate p = .ok (route, u.lookup route) := by
  unfold FileTree.locate at hl ⊢
  split at hl
  · next hfits =>
    rw [if_pos hfits, start_eq h.workingDirectory]
    exact depart_of_forall_lookup (fun _ _ => h.lookup_of_isSome) hl
  · cases hl

theorem entryAt (h : Prepared ways t u) {e : Entry} (he : t.entryAt p = .ok (some e)) :
    u.entryAt p = .ok (some e) := by
  obtain ⟨hbytes, route, hl⟩ := entryAt_eq_some_iff.mp he
  have hx := h.lookup_of_isSome (locate_eq_ok hl).2.1.symm
  exact entryAt_eq_some_iff.mpr ⟨hbytes, route, by rw [h.locate hl, hx]⟩

end Prepared

/-! ### One directory after the other -/

theorem makeOne_eq_ok (h : t.makeOne p = .ok u) :
    ∃ route, t.locate p = .ok (route, none) ∧ u = t.put route .directory ∧ route ≠ [] ∧
      t.lookup route.dropLast = some .directory ∧ t.lookup route = none := by
  unfold makeOne at h
  cases hl : t.locate p with
  | error cause =>
    rw [hl] at h
    cases h
  | ok found =>
    obtain ⟨route, e⟩ := found
    rw [hl] at h
    obtain ⟨-, he, hparent⟩ := locate_eq_ok hl
    cases e with
    | some entry => cases h
    | none =>
      have hne : route ≠ [] := by
        rintro rfl
        cases he
      exact ⟨route, rfl, (Except.ok.inj h).symm, hne, hparent hne, he.symm⟩

/-- Directories were made one after the other: where the first names of a path lead to, as many as the numbers say, more
    for each. Nothing was there, and what the new one stands in was a directory by then. -/
inductive MadeInTurn (p : Path) (t : FileTree) : List Nat → FileTree → Prop
  | none : MadeInTurn p t [] t
  | next {counts : List Nat} {u : FileTree} {count : Nat} (h : MadeInTurn p t counts u)
      (hlater : ∀ earlier ∈ counts, earlier < count) (hcount : count ≤ p.names.length)
      (hnone : u.lookup (p.placeAfter t.workingDirectory count) = none)
      (hparent : u.lookup (p.placeAfter t.workingDirectory count).dropLast = some .directory) :
      MadeInTurn p t (counts ++ [count]) (u.put (p.placeAfter t.workingDirectory count) .directory)

namespace MadeInTurn

variable {counts : List Nat}

theorem prepared (h : MadeInTurn p t counts u) : Prepared (p.OnWay t.workingDirectory) t u := by
  induction h with
  | none => exact .refl _ t
  | @next counts u count h hlater hcount hnone hparent ih =>
    have hne : p.placeAfter t.workingDirectory count ≠ [] := by
      intro he
      rw [he] at hnone
      cases hnone
    refine ih.trans ⟨rfl, fun x => ?_⟩
    rw [lookup_put hne hparent (by simp [hnone])]
    split
    · next hx => exact Or.inr ⟨⟨count, hx⟩, hx ▸ hnone, rfl⟩
    · exact Or.inl rfl

theorem le_length (h : MadeInTurn p t counts u) : ∀ count ∈ counts, count ≤ p.names.length := by
  induction h with
  | none => simp
  | next h hlater hcount hnone hparent ih =>
    intro count hmem
    rcases List.mem_append.mp hmem with hmem | hmem
    · exact ih count hmem
    · rwa [List.mem_singleton.mp hmem]

/-- What was made on the way to the directory of a path was made on the way to the path itself. -/
theorem of_parent (hp : p.names ≠ []) (h : MadeInTurn p.parent t counts u) : MadeInTurn p t counts u := by
  induction h with
  | none => exact .none
  | @next counts u count h hlater hcount hnone hparent ih =>
    have hlength : p.parent.names.length = p.names.length - 1 := List.length_dropLast
    have hpositive := List.length_pos_iff.mpr hp
    have hshorter : count < p.names.length := by omega
    rw [Path.placeAfter_parent hshorter] at hnone hparent ⊢
    exact .next ih hlater (by omega) hnone hparent

end MadeInTurn

/-- The directory of a path itself is made last. -/
theorem MadeInTurn.makeOne {counts : List Nat} (h : MadeInTurn p t counts u)
    (hlater : ∀ earlier ∈ counts, earlier < p.names.length) (hone : u.makeOne p = .ok v) : MadeInTurn p t (counts ++ [p.names.length]) v := by
  obtain ⟨route, hl, rfl, -, hparent, hnone⟩ := makeOne_eq_ok hone
  obtain rfl : route = p.placeAfter t.workingDirectory p.names.length := by
    rw [Path.placeAfter_length, ← h.prepared.workingDirectory]
    exact (locate_eq_ok hl).1
  exact .next h hlater (Nat.le_refl _) hnone hparent

theorem fst_acceptExisting (t : FileTree) (p : Path) (cause : OsCause) : (t.acceptExisting p cause).1 = t := by
  unfold acceptExisting
  split <;> rfl

theorem madeInTurn_makeFrom : ∀ (fuel : Nat) (p : Path) (t : FileTree),
    ∃ counts, MadeInTurn p t counts (t.makeFrom p fuel).1
  | 0, _, _ => ⟨[], .none⟩
  | fuel + 1, p, t => by
    have haccept : ∀ cause, ∃ counts, MadeInTurn p t counts (t.acceptExisting p cause).1 := fun cause => by
      rw [fst_acceptExisting]
      exact ⟨[], .none⟩
    rw [makeFrom]
    cases hone : t.makeOne p with
    | ok made => exact ⟨_, MadeInTurn.none.makeOne (by simp) hone⟩
    | error cause =>
      cases cause with
      | alreadyExists => exact haccept _
      | notDirectory => exact haccept _
      | isDirectory => exact haccept _
      | nameTooLong => exact haccept _
      | missing =>
        simp only []
        split
        · exact ⟨[], .none⟩
        · next hnames =>
          have hne : p.names ≠ [] := fun h => hnames (by rw [h]; rfl)
          -- What was made on the way to the parent is shorter than the path, so the path may come next in turn.
          obtain ⟨counts, hparents⟩ := madeInTurn_makeFrom fuel p.parent t
          have hle := hparents.le_length
          replace hparents := hparents.of_parent hne
          cases hfrom : t.makeFrom p.parent fuel with
          | mk parents failed =>
            rw [hfrom] at hparents
            cases failed with
            | some e => exact ⟨counts, hparents⟩
            | none =>
              simp only []
              cases hlast : parents.makeOne p with
              | ok made =>
                refine ⟨_, hparents.makeOne (fun count hmem => ?_) hlast⟩
                have hlength : p.parent.names.length = p.names.length - 1 := List.length_dropLast
                have hpositive := List.length_pos_iff.mpr hne
                have hcount := hle count hmem
                omega
              | error cause =>
                refine ⟨counts, ?_⟩
                rw [fst_acceptExisting]
                exact hparents

theorem prepared_makeFrom (fuel : Nat) (p : Path) (t : FileTree) :
    Prepared (p.OnWay t.workingDirectory) t (t.makeFrom p fuel).1 := by
  obtain ⟨counts, hmade⟩ := madeInTurn_makeFrom fuel p t
  exact hmade.prepared

/-- Making a directory makes directories on the way to it in turn, whether it fails or not. -/
theorem madeInTurn_makeDirectory (p : Path) (t : FileTree) :
    ∃ counts, MadeInTurn p t counts (t.makeDirectory p).1 := by
  unfold makeDirectory
  cases bytesOf p.text with
  | error e => exact ⟨[], .none⟩
  | ok bytes => exact madeInTurn_makeFrom mostParents p t

/-! ### Directories that are there -/

theorem isDirectory_of_acceptExisting {cause : OsCause} (h : t.acceptExisting p cause = (u, none)) :
    u.isDirectory p = .ok true := by
  unfold acceptExisting at h
  split at h
  · next hd =>
    cases h
    exact hd
  · cases h
  · cases h

theorem isDirectory_of_makeOne {bytes : List UInt8} (hb : bytesOf p.text = .ok bytes)
    (h : t.makeOne p = .ok u) : u.isDirectory p = .ok true := by
  have hprepared := (MadeInTurn.none.makeOne (by simp) h).prepared
  obtain ⟨route, hl, rfl, hne, -⟩ := makeOne_eq_ok h
  refine isDirectory_eq_true_iff.mpr (entryAt_eq_some_iff.mpr ⟨⟨bytes, hb⟩, route, ?_⟩)
  rw [hprepared.locate hl, lookup_put_self hne]

theorem isDirectory_of_makeFrom {bytes : List UInt8} (hb : bytesOf p.text = .ok bytes) {fuel : Nat}
    (h : t.makeFrom p fuel = (u, none)) : u.isDirectory p = .ok true := by
  cases fuel with
  | zero => cases h
  | succ fuel =>
    rw [makeFrom] at h
    split at h
    · next made hone =>
      cases h
      exact isDirectory_of_makeOne hb hone
    · split at h
      · cases h
      · split at h
        · cases h
        · split at h
          · next made hlast =>
            cases h
            exact isDirectory_of_makeOne hb hlast
          · exact isDirectory_of_acceptExisting h
    · exact isDirectory_of_acceptExisting h

theorem isDirectory_of_makeDirectory (h : t.makeDirectory p = (u, none)) : u.isDirectory p = .ok true := by
  unfold makeDirectory at h
  cases hb : bytesOf p.text with
  | error e =>
    rw [hb] at h
    cases h
  | ok bytes =>
    rw [hb] at h
    exact isDirectory_of_makeFrom hb h

/-- A directory that is there is not made again. -/
theorem makeDirectory_of_isDirectory (h : t.isDirectory p = .ok true) : t.makeDirectory p = (t, none) := by
  obtain ⟨⟨bytes, hb⟩, route, hl⟩ := entryAt_eq_some_iff.mp (isDirectory_eq_true_iff.mp h)
  have hone : t.makeOne p = .error .alreadyExists := by rw [makeOne, hl]
  rw [makeDirectory, hb]
  show t.makeFrom p (974 + 1) = _
  rw [makeFrom, hone]
  simp only [acceptExisting, h]

/-- The attempt to make the directory of a path did no more than that and what was missing on the way, and the directory
    is there unless it failed. -/
def Makes (p : Path) (t : FileTree) (attempt : Attempt) : Prop :=
  Prepared (p.OnWay t.workingDirectory) t attempt.1 ∧
    (attempt.2 = none → attempt.1.lookup (p.placeFrom t.workingDirectory) = some .directory)

/-- Making a directory makes what is missing on the way to it and nothing else, whether it fails or not. -/
theorem makes_makeDirectory (p : Path) (t : FileTree) : Makes p t (t.makeDirectory p) := by
  obtain ⟨counts, hmade⟩ := madeInTurn_makeDirectory p t
  refine ⟨hmade.prepared, fun hn => ?_⟩
  have hd := isDirectory_of_makeDirectory (u := (t.makeDirectory p).1) (by rw [← hn])
  rw [← hmade.prepared.workingDirectory]
  exact isDirectory_eq_true hd

end FileTree
end GeneratorHost
