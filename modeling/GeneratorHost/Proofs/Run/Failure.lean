import GeneratorHost.Proofs.Run.Stages

/-! Runs that fail. A run that fails before its first artifact is written leaves everything as it was but for the
    output directory, and for the log file if the log goes to one. One that fails at an artifact has written those before
    it. -/

namespace GeneratorHost
namespace Run

open World (Unwritten)

variable {w : World} {r : Request}

/-- A run leaves the files as they were, apart from the log file, exactly if every other file that it wrote held the same
    bytes before. -/
theorem unwritten_iff (r : Request) (hw : w.LogOpen) :
    Unwritten (outputPlace r w) w ((run r).after w) ↔
      ∀ x bytes, ¬w.Logs x → World.lastWrite? (writes r w) x = some bytes →
        w.files.lookup x = some (.file (.bytes bytes)) := by
  obtain ⟨w₁, hbefore, hwritten⟩ := run_written r hw
  have hlogs : ∀ {x}, ¬w.Logs x → ¬w₁.Logs x := fun hx hl => hx ((World.logs_congr hbefore.logging _).mp hl)
  constructor
  · intro hu x bytes hx hlast
    have hafter := hwritten.lookup x (hlogs hx)
    rw [hlast] at hafter
    rcases hu.lookup x hx with he | ⟨-, -, hd⟩
    · rw [← he, hafter]
      rfl
    · rw [hafter] at hd
      cases hd
  · intro hsame
    refine ⟨hwritten.logging.trans hbefore.logging, hwritten.workingDirectory.trans hbefore.workingDirectory,
      hwritten.logOpen, fun x hx => ?_⟩
    rw [hwritten.lookup x (hlogs hx)]
    cases hlast : World.lastWrite? (writes r w) x with
    | none => exact hbefore.lookup x hx
    | some bytes => exact Or.inl (hsame x bytes hx hlast).symm

/-- A run that fails before its artifacts are written leaves the files as they were, apart from the log file. One that
    fails at an artifact does so exactly if every file of the artifacts up to that one held before what was written to it,
    again apart from the log file; what it writes are entries of the output directory. -/
theorem run_error {w' : World} {e : Failure} (hw : w.LogOpen) (h : run r w = .error e w') :
    ((∀ produced v, produce r w ≠ .ok produced v) → Unwritten (outputPlace r w) w w') ∧
      (Unwritten (outputPlace r w) w w' ↔
        ∀ x bytes, ¬w.Logs x → World.lastWrite? (writes r w) x = some bytes →
          w.files.lookup x = some (.file (.bytes bytes))) ∧
      ∀ write ∈ writes r w, ∃ name : Text, name.IsEntryName ∧ write.1 = outputPlace r w ++ [name] ∧
        w.files.lookup write.1 ≠ some .directory := by
  have hiff := unwritten_iff r hw
  rw [Act.after_of_error h] at hiff
  refine ⟨fun hfails => hiff.mpr fun x bytes hx hlast => ?_, hiff, fun write => mem_writes r hw⟩
  have hnone : writes r w = [] := by
    rw [writes]
    cases hr : ready r w with
    | error e v => rfl
    | ok produced v =>
      obtain ⟨w₁, hp, -⟩ := ready_eq_ok hr
      exact absurd hp (hfails produced w₁)
  rw [hnone] at hlast
  cases hlast

/-- A plug-in whose generator adds a document under a usable name, and one under a name that no file can have. -/
def overreaching : World :=
  withPlugin none [.source [.add (.text "first.txt") (.text "one"), .add (.text "nul\x00.txt") (.text "two")]]

/-- The run fails at the second document, with the first one written. -/
theorem run_error_overreaching :
    ∃ e w', overreaching.LogOpen ∧ run plainRequest overreaching = .error e w' ∧
      ¬Unwritten (outputPlace plainRequest overreaching) overreaching w' := by
  have hfails : (match run plainRequest overreaching with
    | .ok _ _ => false
    | .error _ _ => true) = true := by decide +kernel
  have hlast : World.lastWrite? (writes plainRequest overreaching) ["out", "first.txt"] = some [0x6F, 0x6E, 0x65] := by
    decide +kernel
  have hnone : (overreaching.files.lookup ["out", "first.txt"]).isNone = true := by decide +kernel
  have hopen : overreaching.LogOpen := World.logOpen_new _ _
  cases h : run plainRequest overreaching with
  | ok report w' =>
    rw [h] at hfails
    cases hfails
  | error e w' =>
    refine ⟨e, w', hopen, rfl, fun hu => ?_⟩
    have hsame := (run_error hopen h).2.1.mp hu _ _ (fun ⟨_, hf, _⟩ => nomatch hf) hlast
    rw [hsame] at hnone
    cases hnone

end Run
end GeneratorHost
