import GeneratorHost.Proofs.FileTree.Contents

/-! The shape of a file tree: which entries there are, and which of them are directories. Writing to a file that is
    there leaves it. -/

namespace GeneratorHost

namespace Tree

theorem set_of_find {name : Text} {t : Tree} : ∀ {ms : List (Text × Tree)}, find name ms = some t → set name t ms = ms
  | [], h => nomatch h
  | (other, m) :: ms, h => by
    by_cases ho : other = name
    · rw [find, if_pos ho] at h
      rw [set, if_pos ho, ← Option.some.inj h, ← ho]
    · rw [find, if_neg ho] at h
      rw [set, if_neg ho, set_of_find h]

/-- To put what is there already changes nothing. -/
theorem put_of_at? {new : Tree} : ∀ {route : Route} {t : Tree}, t.at? route = some new → t.put new route = t
  | [], _, h => (Option.some.inj h).symm
  | name :: route, t, h => by
    obtain ⟨m, hm, hnext⟩ := Option.bind_eq_some_iff.mp h
    rw [put, hm, Option.getD_some, put_of_at? hnext, set_of_find hm]
    cases t with
    | directory ms => rfl
    | file content => cases hm

end Tree

namespace FileTree

variable {t u : FileTree} {route : Route}

/-- A file tree without what its files hold. -/
def shape (t : FileTree) : FileTree := t.mapContent fun _ => .bytes []

theorem put_file_of_lookup {content : Content} (h : t.lookup route = some (.file content)) :
    t.put route (.file content) = t := by
  obtain ⟨m, hm, he⟩ := Option.map_eq_some_iff.mp h
  have hfile : m = .file content := by
    cases m with
    | directory ms => cases he
    | file content' =>
      cases he
      rfl
  have hput : t.tree.put (.file content) route = t.tree := Tree.put_of_at? (hfile ▸ hm)
  show { t with members := (t.tree.put (.file content) route).members } = t
  rw [hput]
  rfl

theorem shape_put_file {old : Content} (h : t.lookup route = some (.file old)) (new : Content) :
    (t.put route (.file new)).shape = t.shape := by
  have hlookup : t.shape.lookup route = some (.file (.bytes [])) := by
    rw [shape, lookup_mapContent, h]
    rfl
  rw [shape, ← put_mapContent]
  exact put_file_of_lookup hlookup

/-! ### Questions about the shape -/

/-- A question whose answer does not depend on what files hold. -/
def OfShape {α : Type} (question : FileTree → α) : Prop :=
  ∀ (f : Content → Content) (t : FileTree), question (t.mapContent f) = question t

theorem OfShape.eq {α : Type} {question : FileTree → α} (h : OfShape question) (he : u.shape = t.shape) :
    question u = question t := by
  rw [← h (fun _ => .bytes []) u, ← h (fun _ => .bytes []) t]
  exact congrArg question he

theorem ofShape_exists (p : Path) : OfShape (·.exists p) := fun _ t => exists_mapContent t p

theorem ofShape_isDirectory (p : Path) : OfShape (·.isDirectory p) := fun _ t => isDirectory_mapContent t p

theorem ofShape_isFile (p : Path) : OfShape (·.isFile p) := fun _ t => isFile_mapContent t p

theorem ofShape_resolve (p : Path) : OfShape (·.resolve p) := fun _ t => resolve_mapContent t p

theorem ofShape_fileRoute (p : Path) : OfShape (·.fileRoute p) := fun _ t => fileRoute_mapContent t p

theorem ofShape_makeDirectory (p : Path) : OfShape fun t => (t.makeDirectory p).2 := fun f t => by
  show ((t.mapContent f).makeDirectory p).2 = (t.makeDirectory p).2
  rw [makeDirectory_mapContent]
  rfl

end FileTree
end GeneratorHost
