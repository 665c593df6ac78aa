import GeneratorHost.Proofs.FileTree.Shape

/-! The bytes in a file tree. Questions that are answered from them have the same answer wherever all files hold the
    same bytes, and what is made or written there comes to the same, whatever the modules among the files say. -/

namespace GeneratorHost

/-- A change of contents that leaves all bytes as they are. -/
structure Content.KeepsBytes (f : Content → Content) : Prop where
  toBytes : ∀ content, (f content).toBytes = content.toBytes
  bytes : ∀ bytes, f (.bytes bytes) = .bytes bytes

theorem Content.keepsBytes_toBytes : KeepsBytes fun content => .bytes content.toBytes := ⟨fun _ => rfl, fun _ => rfl⟩

mutual

theorem Tree.mapContent_mapContent (f g : Content → Content) :
    ∀ t : Tree, (t.mapContent f).mapContent g = t.mapContent (g ∘ f)
  | .directory ms => congrArg Tree.directory (Tree.mapMembers_mapMembers f g ms)
  | .file _ => rfl

theorem Tree.mapMembers_mapMembers (f g : Content → Content) :
    ∀ ms, Tree.mapMembers g (Tree.mapMembers f ms) = Tree.mapMembers (g ∘ f) ms
  | [] => rfl
  | (name, t) :: ms => by
    simp only [Tree.mapMembers, Tree.mapContent_mapContent f g t, Tree.mapMembers_mapMembers f g ms]

end

namespace FileTree

variable {t u : FileTree} {α : Type}

/-- A file tree in which every file holds no more than its bytes. -/
def plain (t : FileTree) : FileTree := t.mapContent fun content => .bytes content.toBytes

theorem plain_mapContent {f : Content → Content} (hf : Content.KeepsBytes f) (t : FileTree) :
    (t.mapContent f).plain = t.plain := by
  have hcontent : (fun content : Content => Content.bytes content.toBytes) ∘ f =
      fun content => .bytes content.toBytes :=
    funext fun content => congrArg Content.bytes (hf.toBytes content)
  simp only [plain, mapContent, Tree.mapMembers_mapMembers, hcontent]

/-! ### Questions about bytes -/

/-- A question whose answer depends on no more than what there is and on the bytes. -/
def OfBytes (question : FileTree → α) : Prop :=
  ∀ f, Content.KeepsBytes f → ∀ t, question (t.mapContent f) = question t

theorem OfShape.ofBytes {question : FileTree → α} (h : OfShape question) : OfBytes question := fun f _ t => h f t

theorem OfBytes.eq {question : FileTree → α} (h : OfBytes question) (he : u.plain = t.plain) :
    question u = question t := by
  rw [← h _ Content.keepsBytes_toBytes u, ← h _ Content.keepsBytes_toBytes t]
  exact congrArg question he

/-! ### Attempts -/

/-- An attempt that does the same whatever the modules say. -/
def Blind (attempt : FileTree → Attempt) : Prop :=
  ∀ f, Content.KeepsBytes f → ∀ t, attempt (t.mapContent f) = mapAttempt f (attempt t)

theorem Blind.fst {attempt : FileTree → Attempt} (h : Blind attempt) {f : Content → Content} (hf : Content.KeepsBytes f)
    (t : FileTree) : (attempt (t.mapContent f)).1 = (attempt t).1.mapContent f := by
  rw [h f hf t]
  rfl

theorem blind_makeDirectory (p : Path) : Blind (·.makeDirectory p) := fun _ _ t => makeDirectory_mapContent t p

theorem blind_writeText (p : Path) (text : Text) : Blind (·.writeText p text) := fun _ hf t =>
  writeText_mapContent hf.bytes t p text

/-- What a blind attempt fails with depends on no more than the bytes. -/
theorem Blind.failure {attempt : FileTree → Attempt} (h : Blind attempt) : OfBytes fun t => (attempt t).2 := by
  intro f hf t
  simp only [h f hf t]
  rfl

end FileTree
end GeneratorHost
