import GeneratorHost.Proofs.FileTree.Found
import GeneratorHost.Proofs.Run.Stages

/-! Making the output directory. To check the paths makes directories on the way to it and touches nothing else, even if
    it fails half-way; once they are checked, neither another check nor the writer makes one again. -/

namespace GeneratorHost
namespace Run

open FileTree (MadeInTurn)
open World (Told)

variable {w v told : World} {plugin output : Path}

/-! ### Worlds in which a directory is made -/

/-- At most it was told that a directory is made; then directories on the way to it were made in turn, and nothing else
    in the world has changed. -/
def Creates (output : Path) (w v : World) : Prop :=
  ∃ told counts, (told = w ∨ told = announced output w) ∧ v = { told with files := v.files } ∧
    MadeInTurn output told.files counts v.files

/-- To tell that a directory is made changes the log file at most, and not which entries there are. -/
theorem files_of_announced (h : told = w ∨ told = announced output w) : told.files.shape = w.files.shape ∧
    told.files.workingDirectory = w.files.workingDirectory ∧
    ∀ x, ¬w.Logs x → told.files.lookup x = w.files.lookup x := by
  rcases h with rfl | rfl
  · exact ⟨rfl, rfl, fun _ _ => rfl⟩
  · exact ⟨World.shape_logged _ _, World.workingDirectory_logged _ _, fun _ => World.lookup_logged _ _⟩

theorem creates_requireOutput (output : Path) (w : World) : Creates output w ((requireOutput output).after w) := by
  rw [Act.after, requireOutput_eq]
  cases w.files.isDirectory output with
  | error e => exact ⟨w, [], Or.inl rfl, rfl, .none⟩
  | ok there =>
    cases there with
    | true => exact ⟨w, [], Or.inl rfl, rfl, .none⟩
    | false =>
      obtain ⟨counts, hmade⟩ := FileTree.madeInTurn_makeDirectory output (announced output w).files
      have hafter := World.after_change (fun t => t.makeDirectory output) (announced output w)
      show Creates output w ((World.makeDirectory output).after (announced output w))
      rw [World.makeDirectory, hafter]
      exact ⟨_, counts, Or.inr rfl, rfl, hmade⟩

theorem Creates.lookup (h : Creates output w v) {x : Route} (hx : ¬w.Logs x) : v.files.lookup x = w.files.lookup x ∨
    output.OnWay w.files.workingDirectory x ∧ w.files.lookup x = none ∧ v.files.lookup x = some .directory := by
  obtain ⟨told, counts, hor, -, hmade⟩ := h
  obtain ⟨-, hworking, hlookup⟩ := files_of_announced hor
  have hprepared := hmade.prepared.lookup x
  rwa [hworking, hlookup x hx] at hprepared

/-- What was there before is still there. -/
theorem Creates.exists (h : Creates output w v) (hp : w.files.exists plugin = .ok true) :
    v.files.exists plugin = .ok true := by
  obtain ⟨told, counts, hor, -, hmade⟩ := h
  have hthere : told.files.exists plugin = .ok true := by
    rw [← hp]
    exact (FileTree.ofShape_exists plugin).eq (files_of_announced hor).1
  obtain ⟨e, he⟩ := FileTree.entryAt_of_exists hthere
  rw [FileTree.exists, hmade.prepared.entryAt he]
  rfl

/-! ### The check of the paths -/

theorem checkPaths_of_exists (hp : w.files.exists plugin = .ok true) :
    checkPaths plugin output w = requireOutput output w := by
  rw [checkPaths_eq, Act.bind_ok (World.ask_of_ok hp)]
  rfl

theorem checkPaths_of_isDirectory (hp : w.files.exists plugin = .ok true) (ho : w.files.isDirectory output = .ok true) :
    checkPaths plugin output w = .ok () w := by
  rw [checkPaths_of_exists hp, requireOutput_eq, ho]

/-- When a run comes to the writer, its output directory is there: it was when the paths were checked, and which entries
    there are has not changed since. -/
theorem isDirectory_of_produce {r : Request} {produced : Prepared × Plugin.Generator × List Text × Generation.Result}
    (h : produce r w = .ok produced v) : v.files.isDirectory produced.1.output = .ok true := by
  obtain ⟨p, w₁, hp, hrest⟩ := Act.bind_eq_ok.mp h
  obtain ⟨-, hd⟩ := prepare_eq_ok hp
  have hshape : v.files.shape = w₁.files.shape := Act.after_of_ok hrest ▸ shape_produceFrom r p w₁
  rw [prepared_of_produceFrom hrest, (FileTree.ofShape_isDirectory p.output).eq hshape, hd]

/-- To check the paths of a plug-in that is there makes directories on the way to the output directory, each in one that is
    there by then, and changes nothing else but the log file, whether it fails or not. If it does not fail, the output path
    is a directory, and to check the paths again changes nothing. The writer of a run finds the output directory made. -/
theorem checkPaths_creates (hp : w.files.exists plugin = .ok true) :
    Creates output w ((checkPaths plugin output).after w) ∧
      (∀ x, ¬w.Logs x → ((checkPaths plugin output).after w).files.lookup x = w.files.lookup x ∨
        output.OnWay w.files.workingDirectory x ∧ w.files.lookup x = none ∧
          ((checkPaths plugin output).after w).files.lookup x = some .directory) ∧
      (∀ v, checkPaths plugin output w = .ok () v →
        v.files.isDirectory output = .ok true ∧ checkPaths plugin output v = .ok () v) ∧
      (∀ e v, checkPaths plugin output w = .error e v → ∀ x content, ¬w.Logs x →
        (v.files.lookup x = some (.file content) ↔ w.files.lookup x = some (.file content))) ∧
      ∀ r (w v : World) produced, produce r w = .ok produced v → World.makeDirectory produced.1.output v = .ok () v := by
  have hcreates : Creates output w ((checkPaths plugin output).after w) := by
    rw [Act.after, checkPaths_of_exists hp]
    exact creates_requireOutput output w
  refine ⟨hcreates, fun x hx => hcreates.lookup hx, fun v h => ?_, fun e v h x content hx => ?_,
    fun r w v produced h => ?_⟩
  · rw [Act.after_of_ok h] at hcreates
    rw [checkPaths_of_exists hp] at h
    have hd := isDirectory_of_requireOutput h
    exact ⟨hd, checkPaths_of_isDirectory (hcreates.exists hp) hd⟩
  · rw [Act.after_of_error h] at hcreates
    rcases hcreates.lookup hx with he | ⟨-, hn, hd⟩
    · rw [he]
    · simp [hn, hd]
  · rw [World.makeDirectory, World.change, FileTree.makeDirectory_of_isDirectory (isDirectory_of_produce h)]

/-- A path that leads out of a directory again before that is made, and one whose last name is too long for a file. -/
def roundabout : Path := .ofText "new/../far/out"

def halfway : Path := (Path.ofText "new").child ⟨List.replicate 256 (.char 'a')⟩

/-- The first is made with what it comes by. For the second a directory is made on the way to what cannot be made. -/
theorem checkPaths_creates_roundabout :
    let w := withPlugin none []
    let plugin := Path.ofText "g.py"
    w.files.exists plugin = .ok true ∧
      (∃ v, checkPaths plugin roundabout w = .ok () v ∧ (v.files.lookup ["new"]).isSome = true ∧
        v.files.isDirectory roundabout = .ok true ∧ checkPaths plugin roundabout v = .ok () v) ∧
      (∃ e v, checkPaths plugin halfway w = .error e v ∧ (v.files.lookup ["new"]).isSome = true ∧
        ∀ x content, v.files.lookup x = some (.file content) ↔ w.files.lookup x = some (.file content)) ∧
      ∃ produced v, produce plainRequest w = .ok produced v ∧ World.makeDirectory produced.1.output v = .ok () v := by
  intro w plugin
  have hnoLog : ∀ x, ¬w.Logs x := fun _ ⟨_, hf, _⟩ => nomatch hf
  have hthere : w.files.exists plugin = .ok true := rfl
  obtain ⟨-, -, hok, -, hrun⟩ := @checkPaths_creates w plugin roundabout hthere
  obtain ⟨-, -, -, herror, -⟩ := @checkPaths_creates w plugin halfway hthere
  have hfirst : (checkPaths plugin roundabout).value? w = some () ∧
      (((checkPaths plugin roundabout).after w).files.lookup ["new"]).isSome = true := by decide +kernel
  have hsecond : (checkPaths plugin halfway).value? w = none ∧
      (((checkPaths plugin halfway).after w).files.lookup ["new"]).isSome = true := by decide +kernel
  have hthird : ((produce plainRequest).value? w).isSome = true := by decide +kernel
  refine ⟨hthere, ?_, ?_, ?_⟩
  · cases h : checkPaths plugin roundabout w with
    | ok u v =>
      rw [Act.after_of_ok h] at hfirst
      exact ⟨v, rfl, hfirst.2, hok v h⟩
    | error e v =>
      rw [Act.value?, h] at hfirst
      cases hfirst.1
  · cases h : checkPaths plugin halfway w with
    | ok u v =>
      rw [Act.value?_of_ok h] at hsecond
      cases hsecond.1
    | error e v =>
      rw [Act.after_of_error h] at hsecond
      exact ⟨e, v, rfl, hsecond.2, fun x content => herror e v h x content (hnoLog x)⟩
  · cases h : produce plainRequest w with
    | ok produced v => exact ⟨produced, v, rfl, hrun _ _ _ _ h⟩
    | error e v =>
      rw [Act.value?, h] at hthird
      cases hthird

/-- A plug-in that is there, and a log that goes to a file. -/
def watched : World := takenDown (withPlugin none [])

/-- That the directory is about to be made is in the log file, which is no directory on the way to it. -/
theorem checkPaths_otherwise :
    watched.files.exists (.ofText "g.py") = .ok true ∧
      (checkPaths (.ofText "g.py") (.ofText "out")).value? watched = some () ∧
      textAfter "log.txt" (pure ()) watched = some Text.empty ∧
      textAfter "log.txt" (checkPaths (.ofText "g.py") (.ofText "out")) watched =
        some ("1970-01-01 00:00:00 INFO  genharness.core.use_cases.run:0 — Output directory does not exist, creating: out\n" : Text) := by
  refine ⟨rfl, ?_⟩
  decide +kernel

end Run
end GeneratorHost
