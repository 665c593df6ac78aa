import GeneratorHost.Proofs.FileTree.Making

/-! What writing a file changes: that file, and nothing unless the file is opened. -/

namespace GeneratorHost
namespace FileTree

variable {t : FileTree} {p : Path}

/-- What a file holds once it was opened to write a text to it: nothing if the text cannot be encoded. -/
def writtenBytes (text : Text) : List UInt8 :=
  match text.encode with
  | .ok bytes => bytes
  | .error _ => []

theorem locate_of_fileRoute {route : Route} (h : t.fileRoute p = .ok route) :
    (∃ bytes, bytesOf p.text = .ok bytes) ∧ ∃ e, t.locate p = .ok (route, e) ∧ e ≠ some .directory := by
  unfold fileRoute at h
  cases hb : bytesOf p.text with
  | error e =>
    rw [hb] at h
    cases h
  | ok bytes =>
    rw [hb] at h
    refine ⟨⟨bytes, rfl⟩, ?_⟩
    cases hl : t.locate p with
    | error cause =>
      rw [hl] at h
      cases h
    | ok found =>
      obtain ⟨place, e⟩ := found
      rw [hl] at h
      cases e with
      | none =>
        cases h
        exact ⟨none, rfl, nofun⟩
      | some entry =>
        cases entry with
        | directory => cases h
        | file content =>
          cases h
          exact ⟨_, rfl, nofun⟩

theorem fileRoute_eq_ok {route : Route} (h : t.fileRoute p = .ok route) :
    route = p.placeFrom t.workingDirectory ∧ t.lookup route ≠ some .directory ∧ route ≠ [] ∧
      t.lookup route.dropLast = some .directory := by
  obtain ⟨-, e, hl, hd⟩ := locate_of_fileRoute h
  obtain ⟨hplace, he, hparent⟩ := locate_eq_ok hl
  rw [he] at hd
  have hne : route ≠ [] := by
    rintro rfl
    exact hd rfl
  exact ⟨hplace, hd, hne, hparent hne⟩

/-- Where it stays open whether there is an entry, no file can be opened. -/
theorem fileRoute_of_exists_eq_error {e : Failure} (h : t.exists p = .error e) : t.fileRoute p = .error e := by
  rw [FileTree.exists] at h
  cases he : t.entryAt p with
  | ok entry =>
    rw [he] at h
    cases h
  | error e' =>
    rw [he] at h
    obtain rfl := Except.error.inj h
    obtain ⟨⟨bytes, hb⟩, hstat, rfl⟩ := entryAt_eq_error.mp he
    have hlocate : t.locate p = .error .nameTooLong := by
      unfold stat at hstat
      cases hl : t.locate p with
      | error cause =>
        rw [hl] at hstat
        exact congrArg _ (Except.error.inj hstat)
      | ok found =>
        obtain ⟨route, entry⟩ := found
        rw [hl] at hstat
        cases entry <;> cases hstat
    rw [fileRoute, hb, hlocate]
    rfl

theorem writeText_of_error {e : Failure} (h : t.fileRoute p = .error e) (text : Text) :
    t.writeText p text = (t, some e) := by
  rw [writeText, h]

theorem writeText_of_ok {route : Route} (h : t.fileRoute p = .ok route) (text : Text) :
    (t.writeText p text).1 = t.put route (.file (.bytes (writtenBytes text))) ∧
      ((t.writeText p text).2 = none ↔ ∃ bytes, text.encode = .ok bytes) := by
  rw [writeText, h, writtenBytes]
  cases text.encode with
  | ok bytes => exact ⟨rfl, fun _ => ⟨bytes, rfl⟩, fun _ => rfl⟩
  | error e =>
    refine ⟨rfl, ?_, ?_⟩
    · intro hn
      cases hn
    · rintro ⟨bytes, hb⟩
      cases hb

theorem lookup_writeText_of_ok {route : Route} (h : t.fileRoute p = .ok route) (text : Text) (x : Route) :
    (t.writeText p text).1.lookup x =
      if x = route then some (.file (.bytes (writtenBytes text))) else t.lookup x := by
  obtain ⟨-, hd, hne, hparent⟩ := fileRoute_eq_ok h
  rw [(writeText_of_ok h text).1]
  exact lookup_put hne hparent hd _ x

/-- A text is added to a file, or nothing changes. -/
theorem appendAt_cases (t : FileTree) (route : Route) (text : Text) : t.appendAt route text = t ∨
    ∃ old new, t.lookup route = some (.file old) ∧ t.appendAt route text = t.put route (.file (.bytes new)) := by
  unfold appendAt
  split
  · next content bytes hc _ => exact Or.inr ⟨content, _, hc, rfl⟩
  · exact Or.inl rfl

end FileTree
end GeneratorHost
