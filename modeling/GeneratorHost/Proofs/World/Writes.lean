import GeneratorHost.Proofs.Artifact
import GeneratorHost.Proofs.LastValue
import GeneratorHost.Proofs.World.Unwritten

/-! What is written while artifacts are written. Each artifact is written to the entry of the directory that its name
    leads to, up to the first that fails; that one leaves its file empty if the file was opened for it. Of several
    writes to one file the last one counts, and no other file is touched but that of the log. -/

namespace GeneratorHost
namespace World

variable {w v u : World}

/-! ### Files that were written -/

/-- A file and the bytes that were written to it. -/
abbrev Write := Route × List UInt8

/-- The bytes last written to a file. -/
def lastWrite? (writes : List Write) (x : Route) : Option (List UInt8) := lastValue? (· == x) writes

theorem lastWrite?_append (writes later : List Write) (x : Route) :
    lastWrite? (writes ++ later) x = (lastWrite? later x).or (lastWrite? writes x) := lastValue?_append ..

theorem lastWrite?_singleton (route : Route) (bytes : List UInt8) (x : Route) :
    lastWrite? [(route, bytes)] x = if x = route then some bytes else none := by
  by_cases h : x = route
  · simp [lastWrite?, lastValue?, h]
  · simp [lastWrite?, lastValue?, h, Ne.symm h]

theorem mem_of_lastWrite?_eq_some {writes : List Write} {x : Route} {bytes : List UInt8}
    (h : lastWrite? writes x = some bytes) : (x, bytes) ∈ writes := by
  obtain ⟨key, hkey, hm⟩ := mem_of_lastValue?_eq_some h
  exact beq_iff_eq.mp hkey ▸ hm

/-- Between two worlds these writes were made, in this order, and no other file but the log file was written. -/
structure Written (writes : List Write) (w v : World) : Prop where
  logging : v.logging = w.logging
  workingDirectory : v.files.workingDirectory = w.files.workingDirectory
  logOpen : v.LogOpen
  lookup : ∀ x, ¬w.Logs x → v.files.lookup x =
    ((lastWrite? writes x).map fun bytes => Entry.file (.bytes bytes)).or (w.files.lookup x)

theorem written_nil (h : Unwritten [] w v) : Written [] w v :=
  ⟨h.logging, h.workingDirectory, h.logOpen, fun _ hx => h.lookup_eq hx⟩

theorem Written.trans {writes later : List Write} (h : Written writes w v) (h' : Written later v u) :
    Written (writes ++ later) w u := by
  refine ⟨h'.logging.trans h.logging, h'.workingDirectory.trans h.workingDirectory, h'.logOpen, fun x hx => ?_⟩
  rw [h'.lookup x fun hl => hx ((logs_congr h.logging x).mp hl), h.lookup x hx, lastWrite?_append]
  cases lastWrite? later x <;> rfl

/-- A directory that nothing was written to stays one; the log file is none. -/
theorem Written.directory {writes : List Write} (h : Written writes w v) (hw : w.LogOpen)
    (hwrites : ∀ write ∈ writes, w.files.lookup write.1 ≠ some .directory) {x : Route}
    (hx : w.files.lookup x = some .directory) : v.files.lookup x = some .directory := by
  have hlogs : ¬w.Logs x := by
    intro hl
    obtain ⟨content, hc⟩ := hw x hl
    rw [hx] at hc
    cases hc
  rw [h.lookup x hlogs]
  cases hlast : lastWrite? writes x with
  | none => exact hx
  | some bytes => exact absurd hx (hwrites _ (mem_of_lastWrite?_eq_some hlast))

/-! ### Writing an artifact -/

/-- The steps before an artifact is written: its name is settled, and a record is made if there is such a file. -/
def aim (directory : Path) (generator : Text) (artifact : Source) : Act World Path := do
  let name ← nameArtifact generator artifact
  let target := directory.child name
  if ← ask (·.exists target) then log Level.debug .artifacts ("Overwriting " ++ target.text)
  pure target

theorem writeArtifact_eq (directory : Path) (generator : Text) (artifact : Source) :
    writeArtifact directory generator artifact =
      (aim directory generator artifact >>= fun target => writeText target artifact.text) := by
  simp only [writeArtifact, aim, bind_assoc]
  refine congrArg _ (funext fun name => congrArg _ (funext fun there => ?_))
  cases there with
  | false => simp only [Bool.false_eq_true, if_false, pure_bind]
  | true => simp only [if_true, bind_assoc, pure_bind]

/-- The write that is made for an artifact, if its file can be opened. -/
def writeOf (directory : Path) (generator : Text) (artifact : Source) (w : World) : List Write :=
  match aim directory generator artifact w with
  | .error _ _ => []
  | .ok target v => match v.files.fileRoute target with
    | .error _ => []
    | .ok route => [(route, FileTree.writtenBytes artifact.text)]

/-- The writes that are made for artifacts, up to the first that fails. -/
def writesOf (directory : Path) (generator : Text) : List Source → World → List Write
  | [], _ => []
  | artifact :: artifacts, w =>
    writeOf directory generator artifact w ++ match writeArtifact directory generator artifact w with
      | .ok _ v => writesOf directory generator artifacts v
      | .error _ _ => []

section Artifacts
variable {directory target : Path} {generator : Text} {artifact : Source}

theorem nameArtifact_eq_ok (generator : Text) (artifact : Source) (w : World) :
    ∃ v, nameArtifact generator artifact w = .ok (Artifact.nameOf generator w.tokens artifact).1 v ∧
      v.tokens = (Artifact.nameOf generator w.tokens artifact).2 ∧
      (w.LogOpen → v.LogOpen ∧ v.files.shape = w.files.shape) := by
  unfold nameArtifact Artifact.nameOf
  cases Artifact.fileName? artifact.path with
  | some name => exact ⟨w, rfl, rfl, fun hw => ⟨hw, rfl⟩⟩
  | none =>
    refine ⟨_, rfl, rfl, fun hw => ?_⟩
    have hissued : LogOpen { w with tokens := w.tokens + 1 } := hw
    exact ⟨(unwritten_logged [] hissued _).logOpen, shape_logged _ _⟩

theorem spares_aim (route : Route) (directory : Path) (generator : Text) (artifact : Source) :
    Spares route (aim directory generator artifact) := by
  refine Spares.bind ?_ fun name => Spares.bind (spares_ask route _) fun there => ?_
  · unfold nameArtifact
    split
    · exact spares_pure route _
    · exact (spares_freshToken route).bind fun _ => (spares_log route _ _ _).bind fun _ => spares_pure route _
  · split
    · exact (spares_log route _ _ _).bind fun _ => spares_pure route _
    · exact spares_pure route _

theorem aim_eq_ok (h : aim directory generator artifact w = .ok target v) :
    target = directory.child (Artifact.nameOf generator w.tokens artifact).1 ∧
      v.tokens = (Artifact.nameOf generator w.tokens artifact).2 := by
  obtain ⟨w₁, hname, htokens, -⟩ := nameArtifact_eq_ok generator artifact w
  obtain ⟨name, w₁', hn, h⟩ := Act.bind_eq_ok.mp h
  cases hname.symm.trans hn
  obtain ⟨there, w₂, hask, h⟩ := Act.bind_eq_ok.mp h
  obtain ⟨-, rfl⟩ := ask_eq_ok hask
  cases there with
  | false =>
    cases h
    exact ⟨rfl, htokens⟩
  | true =>
    cases h
    exact ⟨rfl, htokens⟩

/-- An artifact is aimed at the entry of its name in the directory. -/
theorem place_of_aim (h : aim directory generator artifact w = .ok target v) :
    ∀ workingDirectory, target.placeFrom workingDirectory =
      directory.placeFrom workingDirectory ++ [(Artifact.nameOf generator w.tokens artifact).1.asName] := by
  obtain ⟨rfl, -⟩ := aim_eq_ok h
  exact fun _ => Path.placeFrom_child _ (Artifact.isEntryName_nameOf ..).ne_dots

theorem written_writeText (hw : w.LogOpen) {route : Route} (hr : w.files.fileRoute target = .ok route)
    (text : Text) : Written [(route, FileTree.writtenBytes text)] w ((writeText target text).after w) := by
  have hlookup := FileTree.lookup_writeText_of_ok hr text
  rw [writeText, after_change]
  refine ⟨rfl, by rw [(FileTree.writeText_of_ok hr text).1]; rfl, fun x hx => ?_, fun x _ => ?_⟩
  · show ∃ content, (w.files.writeText target text).1.lookup x = _
    rw [hlookup]
    split
    · exact ⟨_, rfl⟩
    · exact hw x hx
  · show (w.files.writeText target text).1.lookup x = _
    rw [hlookup, lastWrite?_singleton]
    split
    · rfl
    · rfl

/-- Writing an artifact makes the one write that is made for it and no other, whether it fails or not. -/
theorem written_writeArtifact (hw : w.LogOpen) :
    Written (writeOf directory generator artifact w) w ((writeArtifact directory generator artifact).after w) := by
  rw [writeArtifact_eq, writeOf]
  cases h : aim directory generator artifact w with
  | error e v =>
    rw [Act.after_bind_of_error h]
    exact written_nil ((spares_aim [] directory generator artifact).error hw h)
  | ok target v =>
    have haim := (spares_aim [] directory generator artifact).ok hw h
    rw [Act.after_bind_of_ok h]
    simp only []
    cases hr : v.files.fileRoute target with
    | error e =>
      rw [writeText, after_change, FileTree.writeText_of_error hr]
      exact written_nil (haim.trans (.refl [] haim.logOpen))
    | ok route =>
      exact (written_nil haim).trans (written_writeText haim.logOpen hr artifact.text)

theorem writeArtifact_eq_ok (hw : w.LogOpen) (h : writeArtifact directory generator artifact w = .ok () v) :
    writeOf directory generator artifact w =
        [(directory.placeFrom w.files.workingDirectory ++ [(Artifact.nameOf generator w.tokens artifact).1.asName],
          FileTree.writtenBytes artifact.text)] ∧
      v.tokens = (Artifact.nameOf generator w.tokens artifact).2 ∧ ∃ bytes, artifact.text.encode = .ok bytes := by
  rw [writeArtifact_eq] at h
  obtain ⟨target, w₁, haim, h⟩ := Act.bind_eq_ok.mp h
  have hplace := place_of_aim haim
  have hsame := ((spares_aim [] directory generator artifact).ok hw haim).workingDirectory
  rw [writeOf, haim]
  simp only []
  rcases change_cases (fun t => t.writeText target artifact.text) w₁ with ⟨hn, hc⟩ | ⟨e, -, hc⟩
  · cases hc.symm.trans h
    cases hr : w₁.files.fileRoute target with
    | error e =>
      rw [FileTree.writeText_of_error hr] at hn
      cases hn
    | ok route =>
      obtain ⟨rfl, -⟩ := FileTree.fileRoute_eq_ok hr
      rw [hplace, hsame]
      exact ⟨rfl, (aim_eq_ok haim).2, (FileTree.writeText_of_ok hr artifact.text).2.mp hn⟩
  · cases hc.symm.trans h

/-- What is written for an artifact goes to an entry of the directory, and to no directory. -/
theorem mem_writeOf (hw : w.LogOpen) {write : Write}
    (h : write ∈ writeOf directory generator artifact w) :
    ∃ name : Text, name.IsEntryName ∧ write.1 = directory.placeFrom w.files.workingDirectory ++ [name] ∧
      w.files.lookup write.1 ≠ some .directory := by
  rw [writeOf] at h
  cases haim : aim directory generator artifact w with
  | error e v =>
    rw [haim] at h
    cases h
  | ok target v =>
    rw [haim] at h
    simp only [] at h
    cases hr : v.files.fileRoute target with
    | error e =>
      rw [hr] at h
      cases h
    | ok route =>
      rw [hr] at h
      obtain rfl := List.mem_singleton.mp h
      have hbefore := (spares_aim [] directory generator artifact).ok hw haim
      obtain ⟨rfl, hnd, -⟩ := FileTree.fileRoute_eq_ok hr
      refine ⟨_, Text.isEntryName_asName (Artifact.isEntryName_nameOf generator w.tokens artifact), ?_,
        fun hdir => hnd ?_⟩
      · rw [← hbefore.workingDirectory]
        exact place_of_aim haim _
      · exact hbefore.directory hw hdir

end Artifacts

/-! ### Writing artifacts in a row -/

section Rows
variable {directory : Path} {generator : Text}

/-- Writing artifacts makes the writes that are made for them and no others, wherever it fails. -/
theorem written_writeAll : ∀ (artifacts : List Source) {w : World}, w.LogOpen →
    Written (writesOf directory generator artifacts w) w ((writeAll directory generator artifacts).after w)
  | [], _, hw => written_nil (.refl [] hw)
  | artifact :: artifacts, w, hw => by
    have hfirst : Written (writeOf directory generator artifact w) w _ := written_writeArtifact hw
    rw [writesOf, writeAll]
    cases h : writeArtifact directory generator artifact w with
    | error e v =>
      rw [Act.after_of_error h] at hfirst
      rw [Act.after_bind_of_error h, List.append_nil]
      exact hfirst
    | ok u v =>
      rw [Act.after_of_ok h] at hfirst
      rw [Act.after_bind_of_ok h]
      exact hfirst.trans (written_writeAll artifacts hfirst.logOpen)

/-- What is written for artifacts goes to entries of the directory, and to no directory. -/
theorem mem_writesOf : ∀ (artifacts : List Source) {w : World}, w.LogOpen → ∀ {write : Write},
    write ∈ writesOf directory generator artifacts w →
      ∃ name : Text, name.IsEntryName ∧ write.1 = directory.placeFrom w.files.workingDirectory ++ [name] ∧
        w.files.lookup write.1 ≠ some .directory
  | artifact :: artifacts, w, hw, write, h => by
    rw [writesOf] at h
    rcases List.mem_append.mp h with h | h
    · exact mem_writeOf hw h
    · cases hs : writeArtifact directory generator artifact w with
      | error e v =>
        rw [hs] at h
        cases h
      | ok u v =>
        rw [hs] at h
        have hfirst : Written (writeOf directory generator artifact w) w _ := written_writeArtifact hw
        rw [Act.after_of_ok hs] at hfirst
        obtain ⟨name, hn, hplace, hnd⟩ := mem_writesOf artifacts hfirst.logOpen h
        rw [hfirst.workingDirectory] at hplace
        refine ⟨name, hn, hplace, fun hdir => hnd (hfirst.directory hw (fun write' h' => ?_) hdir)⟩
        obtain ⟨-, -, -, hnd'⟩ := mem_writeOf hw h'
        exact hnd'

/-- The writes for artifacts that are all written. -/
def allWrites (place : Route) (names : List Text) (artifacts : List Source) : List Write :=
  names.zipWith (fun name artifact => (place ++ [name.asName], FileTree.writtenBytes artifact.text)) artifacts

/-- If nothing fails, every artifact is written to the file of its name. -/
theorem writeAll_eq_ok : ∀ {artifacts : List Source} {w : World}, w.LogOpen →
    writeAll directory generator artifacts w = .ok () v →
      writesOf directory generator artifacts w = allWrites (directory.placeFrom w.files.workingDirectory)
        (Artifact.namesOf generator w.tokens artifacts) artifacts ∧
      ∀ artifact ∈ artifacts, ∃ bytes, artifact.text.encode = .ok bytes
  | [], _, _, _ => ⟨rfl, by simp⟩
  | artifact :: artifacts, w, hw, h => by
    rw [writeAll] at h
    obtain ⟨u, w₁, hfirst, h⟩ := Act.bind_eq_ok.mp h
    have hwritten : Written (writeOf directory generator artifact w) w _ := written_writeArtifact hw
    rw [Act.after_of_ok hfirst] at hwritten
    obtain ⟨hwrite, htokens, hencode⟩ := writeArtifact_eq_ok hw hfirst
    obtain ⟨hwrites, hencodes⟩ := writeAll_eq_ok hwritten.logOpen h
    refine ⟨?_, List.forall_mem_cons.mpr ⟨hencode, hencodes⟩⟩
    rw [htokens, hwritten.workingDirectory] at hwrites
    rw [writesOf, hfirst, hwrite]
    exact congrArg (List.cons _) hwrites

end Rows

end World
end GeneratorHost
