import GeneratorHost.Proofs.FileTree.Found
import GeneratorHost.Proofs.Plugin.EditImport
import GeneratorHost.Proofs.Plugin.Execution
import Mathlib.Data.Finset.Card
import Mathlib.Data.Finset.Dedup

/-! Where submodules are found. One that is found below the directory of a plug-in has an entry in the file tree that stands
    for it, so there is only room for as many imports inside one another as there are entries. -/

namespace GeneratorHost

/-! ### Entries -/

namespace Tree

theorem mem_entriesIn {name : Text} {m : Tree} {route : Route} {e : Route × Entry}
    (he : e ∈ m.entriesFrom (route ++ [name])) :
    ∀ {ms : List (Text × Tree)}, find name ms = some m → e ∈ entriesIn route ms
  | (other, t) :: ms, h => by
    rw [entriesIn, List.mem_append]
    by_cases ho : other = name
    · rw [find, if_pos ho] at h
      obtain rfl : t = m := Option.some.inj h
      exact Or.inl (ho ▸ he)
    · rw [find, if_neg ho] at h
      exact Or.inr (mem_entriesIn he h)

theorem mem_entriesFrom {m : Tree} : ∀ {rest route : Route} {t : Tree}, t.at? rest = some m →
    (route ++ rest, m.entry) ∈ t.entriesFrom route
  | [], route, t, h => by
    obtain rfl := Option.some.inj h
    rw [List.append_nil]
    cases t with
    | directory ms => exact List.mem_cons_self
    | file content => exact List.mem_cons_self
  | name :: rest, route, t, h => by
    obtain ⟨next, hnext, hat⟩ := Option.bind_eq_some_iff.mp h
    have hmem : (route ++ [name] ++ rest, m.entry) ∈ next.entriesFrom (route ++ [name]) := mem_entriesFrom hat
    rw [List.append_assoc, List.singleton_append] at hmem
    cases t with
    | directory ms => exact List.mem_cons_of_mem _ (mem_entriesIn hmem hnext)
    | file content => cases hnext

end Tree

namespace FileTree

variable {t : FileTree} {route : Route} {e : Entry}

theorem mem_entries (h : t.lookup route = some e) : (route, e) ∈ t.entries := by
  obtain ⟨m, hm, rfl⟩ := Option.map_eq_some_iff.mp h
  have hmem : ([] ++ route, m.entry) ∈ t.entries := Tree.mem_entriesFrom hm
  exact hmem

end FileTree

/-! ### Names -/

/-- A name that is written without halves and is no double dot, as every identifier is. -/
structure Text.Importable (name : Text) : Prop where
  whole : ∀ l ∈ name.letters, l.isHalf = false
  forward : name ≠ Path.parentName

theorem Text.asName_of_whole {t : Text} (h : ∀ l ∈ t.letters, l.isHalf = false) : t.asName = t := by
  have hnone : ¬t.letters.any Letter.isHalf := by
    rw [List.any_eq_true]
    rintro ⟨l, hl, hhalf⟩
    rw [h l hl] at hhalf
    cases hhalf
  unfold asName
  cases t.encodeName with
  | error e => rfl
  | ok bytes => exact if_neg hnone

theorem Text.Importable.asName {name : Text} (h : name.Importable) : name.asName = name := asName_of_whole h.whole

theorem Text.Importable.file {name : Text} (h : name.Importable) : (name ++ ".py").Importable := by
  have hsuffix : ∀ l ∈ Text.letters ".py", l.isHalf = false := by decide
  refine ⟨fun l hl => (List.mem_append.mp hl).elim (h.whole l) (hsuffix l), fun he => ?_⟩
  have hlast : (name ++ ".py").letters.getLast? = some (.char 'y') :=
    List.getLast?_append_of_ne_nil _ (List.cons_ne_nil _ _)
  rw [he] at hlast
  revert hlast
  decide

/-- A path some names further down. -/
def Path.descend (p : Path) (names : List Text) : Path := { p with names := p.names ++ names }

namespace Path

variable {p : Path} {names : List Text}

theorem descend_nil (p : Path) : p.descend [] = p := by
  rw [descend, List.append_nil]

theorem child_descend (p : Path) (names : List Text) (name : Text) :
    (p.descend names).child name = p.descend (names ++ [name]) := congrArg (mk p.anchor) (List.append_assoc _ _ _)

theorem Direct.descend (h : p.Direct) (hn : ∀ name ∈ names, name.Importable) : (p.descend names).Direct :=
  ⟨h.absolute, fun name hm => (List.mem_append.mp hm).elim (h.forward name) fun hm => (hn name hm).forward⟩

theorem place_descend (hn : ∀ name ∈ names, name.Importable) : (p.descend names).place = p.place ++ names := by
  rw [place, descend, List.map_append, List.map_congr_left fun name hm => (hn name hm).asName, List.map_id']
  rfl

end Path

namespace Plugin
namespace Registry

variable {files : FileTree} {directory : Path} {name top : Text}

theorem locate_cases {found : Found} (h : locate files directory name = some found) :
    found = .package (directory.child name) ((directory.child name).child "__init__.py") ∧
        holds files ((directory.child name).child "__init__.py") (!·.isDirectory) = true ∨
      found = .file (directory.child (name ++ ".py")) ∧
        holds files (directory.child (name ++ ".py")) (!·.isDirectory) = true ∨
      found = .directory (directory.child name) ∧ holds files (directory.child name) (·.isDirectory) = true := by
  rw [locate_eq] at h
  split at h
  · next hh => exact Or.inl ⟨(Option.some.inj h).symm, hh⟩
  · split at h
    · next hh => exact Or.inr (Or.inl ⟨(Option.some.inj h).symm, hh⟩)
    · split at h
      · next hh => exact Or.inr (Or.inr ⟨(Option.some.inj h).symm, hh⟩)
      · cases h

theorem entryAt_of_holds {q : Path} {isWanted : Entry → Bool} (h : holds files q isWanted = true) :
    ∃ e, files.entryAt q = .ok (some e) ∧ isWanted e = true := by
  unfold holds at h
  split at h
  · next e he => exact ⟨e, he, h⟩
  · cases h

theorem lookup_of_holds {q : Path} (hd : q.Direct) {isWanted : Entry → Bool} (h : holds files q isWanted = true) :
    ∃ e, files.lookup q.place = some e ∧ isWanted e = true := by
  obtain ⟨e, he, hw⟩ := entryAt_of_holds h
  exact ⟨e, FileTree.lookup_of_entryAt hd he, hw⟩

/-! ### The room for imports -/

/-- The full name of the submodule that an entry below the place of a plug-in stands for; the name of a file ends in
    three characters more. -/
def nameOfEntry (top : Text) (place : Route) (e : Route × Entry) : Text :=
  let back := (e.1.drop place.length).reverse
  if e.2.isDirectory then fullName top back else fullName top (back.modifyHead fun n => ⟨n.letters.take (n.length - 3)⟩)

theorem nameOfEntry_directory (place : Route) (back : List Text) :
    nameOfEntry top place (place ++ back.reverse, .directory) = fullName top back := by
  rw [nameOfEntry, List.drop_left, List.reverse_reverse]
  rfl

theorem nameOfEntry_file (place : Route) (back : List Text) (name : Text) {e : Entry} (he : e.isDirectory = false) :
    nameOfEntry top place (place ++ ((name ++ ".py") :: back).reverse, e) = fullName top (name :: back) := by
  have hcut : (⟨(name ++ ".py").letters.take ((name ++ ".py").length - 3)⟩ : Text) = name := by
    have hlength : (name ++ ".py").length - 3 = name.letters.length := by
      show (name.letters ++ Text.letters ".py").length - 3 = _
      rw [List.length_append]
      exact Nat.add_sub_cancel _ 3
    rw [hlength]
    exact congrArg Text.mk List.take_left
  rw [nameOfEntry, List.drop_left, List.reverse_reverse, if_neg (by simp [he]), List.modifyHead_cons, hcut]

/-- A submodule that is found has an entry that stands for it. -/
theorem entry_of_locate {p : Path} (hp : p.Direct) {back : List Text} (hback : ∀ n ∈ back, n.Importable)
    (hname : name.Importable) {found : Found} (h : locate files (p.descend back.reverse) name = some found) :
    ∃ e ∈ files.entries, nameOfEntry top p.place e = fullName top (name :: back) := by
  have hnames : ∀ n ∈ (name :: back).reverse, n.Importable := fun n hn =>
    (List.mem_cons.mp (List.mem_reverse.mp hn)).elim (fun he => he ▸ hname) (hback n)
  have hchild : (p.descend back.reverse).child name = p.descend (name :: back).reverse := by
    rw [Path.child_descend, List.reverse_cons]
  have hdirectory : files.lookup (p.place ++ (name :: back).reverse) = some .directory →
      ∃ e ∈ files.entries, nameOfEntry top p.place e = fullName top (name :: back) :=
    fun hl => ⟨_, FileTree.mem_entries hl, nameOfEntry_directory _ _⟩
  rcases locate_cases h with ⟨-, hh⟩ | ⟨-, hh⟩ | ⟨-, hh⟩
  · -- The directory of a package is there because the file of the package is.
    rw [hchild] at hh
    obtain ⟨e, he, -⟩ := lookup_of_holds ((hp.descend hnames).child (by decide)) hh
    refine hdirectory (FileTree.lookup_of_prefix he ?_ ?_)
    · rw [← Path.place_descend hnames, Path.place, Path.place, Path.child, List.map_append]
      exact List.prefix_append _ _
    · rw [← Path.place_descend hnames, Path.place, Path.place, Path.child, List.map_append]
      simp
  · have hfile : ∀ n ∈ ((name ++ ".py") :: back).reverse, n.Importable := fun n hn =>
      (List.mem_cons.mp (List.mem_reverse.mp hn)).elim (fun he => he ▸ hname.file) (hback n)
    rw [Path.child_descend, ← List.reverse_cons] at hh
    obtain ⟨e, he, hisFile⟩ := lookup_of_holds (hp.descend hfile) hh
    rw [Path.place_descend hfile] at he
    exact ⟨_, FileTree.mem_entries he, nameOfEntry_file _ _ _ (by simpa using hisFile)⟩
  · rw [hchild] at hh
    obtain ⟨e, he, hisDirectory⟩ := lookup_of_holds (hp.descend hnames) hh
    rw [Path.place_descend hnames] at he
    cases e with
    | directory => exact hdirectory he
    | file content => cases hisDirectory

/-- How many submodules may be imported yet, if those of some names are. -/
def room (files : FileTree) (top : Text) (place : Route) (begun : List Text) : Nat :=
  ((files.entries.map (nameOfEntry top place)).toFinset \ begun.toFinset).card

theorem room_le (files : FileTree) (top : Text) (place : Route) (begun : List Text) :
    room files top place begun ≤ files.entries.length :=
  calc room files top place begun
    _ ≤ (files.entries.map (nameOfEntry top place)).toFinset.card := Finset.card_le_card Finset.sdiff_subset
    _ ≤ (files.entries.map (nameOfEntry top place)).length := List.toFinset_card_le _
    _ = files.entries.length := List.length_map _

theorem room_cons_lt {place : Route} {begun : List Text} {full : Text}
    (he : ∃ e ∈ files.entries, nameOfEntry top place e = full) (hnew : full ∉ begun) :
    room files top place (full :: begun) < room files top place begun := by
  have hmem : full ∈ (files.entries.map (nameOfEntry top place)).toFinset := by
    rw [List.mem_toFinset, List.mem_map]
    exact he
  refine Finset.card_lt_card ((Finset.ssubset_iff_of_subset (Finset.sdiff_subset_sdiff (Finset.Subset.refl _) ?_)).mpr
    ⟨full, ?_, ?_⟩)
  · intro n hn
    rw [List.mem_toFinset] at hn ⊢
    exact List.mem_cons_of_mem _ hn
  · rw [Finset.mem_sdiff, List.mem_toFinset (l := begun)]
    exact ⟨hmem, hnew⟩
  · rw [Finset.mem_sdiff, List.mem_toFinset, List.mem_toFinset]
    exact fun h => h.2 List.mem_cons_self

end Registry
end Plugin
end GeneratorHost
