import GeneratorHost.Proofs.Command.Boundary
import GeneratorHost.Proofs.Run.Reporting
import GeneratorHost.Proofs.Run.Stages

/-! Diagnostics are only ever reported. Of two runs whose scripts report different diagnostics in the same places, both
    fail alike or both succeed with the same files. The command exits with the same code, as far as it can report them. -/

namespace GeneratorHost

open Act

/-! ### The log -/

namespace Logging

theorem openFile_mapContent {f : Content → Content} (hf : Content.KeepsBytes f) (t : FileTree) (file : Text) :
    openFile (t.mapContent f) file = (openFile t file).map fun opened => (opened.1.mapContent f, opened.2) := by
  have hworking : (t.mapContent f).workingDirectory = t.workingDirectory := rfl
  simp only [openFile, hworking, FileTree.checkStart_mapContent, FileTree.fileRoute_mapContent]
  cases t.checkStart (.ofText file) with
  | error e => rfl
  | ok u =>
  cases t.fileRoute _ with
  | error e => rfl
  | ok route =>
    refine congrArg Except.ok (congrArg (·, route) ?_)
    rw [FileTree.lookup_mapContent, Option.isNone_map]
    split
    · exact FileTree.put_bytes_mapContent hf.bytes t route []
    · rfl

theorem setUp_mapContent {f : Content → Content} (hf : Content.KeepsBytes f) (l : Logging) (t : FileTree) (p : Plan) :
    l.setUp (t.mapContent f) p = ((l.setUp t p).1, (l.setUp t p).2.1.mapContent f, (l.setUp t p).2.2) := by
  unfold setUp
  cases given? p.file with
  | none => rfl
  | some file =>
    simp only [openFile_mapContent hf]
    cases openFile t file <;> rfl

end Logging

variable {σ τ : Fields → Fields}

namespace World

theorem matches_setUpLog (p : Logging.Plan) :
    Matches (Alike σ τ) (fun _ _ => True) (setUpLog p) (setUpLog p) := by
  intro w v hr
  obtain ⟨files, hw, hv⟩ := hr.files
  have hset : ∀ ρ : Fields → Fields, w.logging.setUp (files.edited (.reporting ρ)) p =
      ((w.logging.setUp files p).1, (w.logging.setUp files p).2.1.edited (.reporting ρ),
        (w.logging.setUp files p).2.2) :=
    fun _ => Logging.setUp_mapContent Content.keepsBytes_edited w.logging files p
  simp only [setUpLog, hr.logging, hw, hv, hset]
  cases (w.logging.setUp files p).2.2 with
  | none => exact Or.inl ⟨(), (), _, _, rfl, rfl, trivial, { hr with logging := rfl, files := ⟨_, rfl, rfl⟩ }⟩
  | some e => exact Or.inr ⟨e, _, _, rfl, rfl, { hr with logging := rfl, files := ⟨_, rfl, rfl⟩ }⟩

end World

namespace Command

/-! ### Reports -/

variable {w v : World}

/-- Whether a success can be told depends on the diagnostics as far as each of them has a line. -/
theorem successLine_alike {a b : Run.Report} (json : Bool) (h : a.Alike σ τ b)
    (hw : Writable a.diagnostics ↔ Writable b.diagnostics) :
    (∃ line, successLine json a = .ok line) ↔ ∃ line, successLine json b = .ok line := by
  rw [successLine_eq_ok, successLine_eq_ok, hw, successText, successText, h.generator, h.output, h.written]

/-- Both runs of an invocation succeed, and in one of them alone every diagnostic has a line. -/
def WrittenApart (σ τ : Fields → Fields) (environment : Logging.Environment) (i : Invocation) (w v : World) : Prop :=
  ∃ u u' a b x x', World.setUpLog (Logging.plan (flags i) environment) w = .ok () u ∧
    World.setUpLog (Logging.plan (flags i) environment) v = .ok () u' ∧
    Run.run (request i) u = .ok a x ∧ Run.run (request i) u' = .ok b x' ∧ a.Alike σ τ b ∧
    ¬(Writable a.diagnostics ↔ Writable b.diagnostics)

/-! ### The command -/

theorem invoke_alike (h : Interchangeable σ τ) (environment : Logging.Environment) (i : Invocation)
    (hr : w.Alike σ τ v) :
    ∃ code code' w' v', silently (invoke environment i) w = .ok code w' ∧
      silently (invoke environment i) v = .ok code' v' ∧ w'.Alike σ τ v' ∧
      (code' = code ∨ WrittenApart σ τ environment i w v) := by
  unfold silently
  rcases World.matches_setUpLog (Logging.plan (flags i) environment) w v hr with
    ⟨⟨⟩, ⟨⟩, u, u', hset, hset', -, hu⟩ | ⟨e, u, u', hset, hset', hu⟩
  · rcases Run.matches_runReporting h (request i) u u' hu with ⟨a, b, x, x', hrun, hrun', hab, hx⟩ | ⟨e, x, x', hrun, hrun', hx⟩
    · -- What is said differs in the diagnostics, and so may whether it can be said.
      rw [invoke_of_run_ok hset hrun, invoke_of_run_ok hset' hrun']
      by_cases hw : Writable a.diagnostics ↔ Writable b.diagnostics
      · have htold := successLine_alike i.json hab hw
        cases ha : successLine i.json a with
        | ok line =>
          obtain ⟨line', hb⟩ := htold.mp ⟨line, ha⟩
          rw [hb]
          exact ⟨0, 0, _, _, rfl, rfl, { hx with }, Or.inl rfl⟩
        | error e =>
          cases hb : successLine i.json b with
          | ok line =>
            obtain ⟨_, hline⟩ := htold.mpr ⟨line, hb⟩
            cases ha.symm.trans hline
          | error e' => exact ⟨1, 1, _, _, rfl, rfl, { hx with }, Or.inl rfl⟩
      · have hapart : WrittenApart σ τ environment i w v := ⟨u, u', a, b, x, x', hset, hset', hrun, hrun', hab, hw⟩
        cases successLine i.json a <;> cases successLine i.json b <;>
          exact ⟨_, _, _, _, rfl, rfl, { hx with }, Or.inr hapart⟩
    · rw [invoke_of_run_error hset hrun, invoke_of_run_error hset' hrun', reportFailure_eq, reportFailure_eq]
      cases failureText e <;> exact ⟨1, 1, _, _, rfl, rfl, { hx with }, Or.inl rfl⟩
  · rw [invoke_of_setUpLog_error hset, invoke_of_setUpLog_error hset']
    exact ⟨1, 1, u, u', rfl, rfl, hu, Or.inl rfl⟩

theorem run_alike (h : Interchangeable σ τ) (environment : Logging.Environment) (arguments : List Text)
    (hr : w.Alike σ τ v) :
    ∃ code code' w' v', run environment arguments w = .ok code w' ∧ run environment arguments v = .ok code' v' ∧
      w'.Alike σ τ v' ∧ (code' = code ∨
        ∃ i, Parsed.ofArguments arguments = .invocation i ∧ WrittenApart σ τ environment i w v) := by
  unfold run
  cases Parsed.ofArguments arguments with
  | help =>
    exact ⟨0, 0, _, _, Act.bind_ok (World.print_ofString _ _), Act.bind_ok (World.print_ofString _ _), { hr with },
      Or.inl rfl⟩
  | version =>
    exact ⟨0, 0, _, _, Act.bind_ok (World.print_ofString _ _), Act.bind_ok (World.print_ofString _ _), { hr with },
      Or.inl rfl⟩
  | refused e => exact ⟨2, 2, _, _, rfl, rfl, { hr with }, Or.inl rfl⟩
  | crash => exact ⟨1, 1, _, _, rfl, rfl, hr, Or.inl rfl⟩
  | invocation i =>
    obtain ⟨code, code', w', v', hw, hv, hr', hcode⟩ := invoke_alike h environment i hr
    exact ⟨code, code', w', v', hw, hv, hr', hcode.imp_right fun hapart => ⟨i, rfl, hapart⟩⟩

/-- What diagnostics a generator reports makes no difference to its run. The fields of the reports in a world name places,
    and `σ` and `τ` put diagnostics there, each time both a proper one wherever they differ. Then both runs fail with the
    same failure, or both succeed, with the same name of the generator, the same count of files and the same warnings, and
    with diagnostics of which those in these places alone differ; and the files that are left are the same, but for what
    the plug-ins report. So is the exit code of the command, unless both of its runs succeed and a diagnostic without a
    line, of which nothing can be told, is in the report of only one of them. -/
theorem run_reporting (h : Interchangeable σ τ) (r : Run.Request) (environment : Logging.Environment)
    (arguments : List Text) (w : World) :
    ((∃ e v v', Run.run r (w.reporting σ) = .error e v ∧ Run.run r (w.reporting τ) = .error e v' ∧ v.Alike σ τ v') ∨
      ∃ a b v v', Run.run r (w.reporting σ) = .ok a v ∧ Run.run r (w.reporting τ) = .ok b v' ∧ a.Alike σ τ b ∧
        v.Alike σ τ v') ∧
      ∃ code code' v v', run environment arguments (w.reporting σ) = .ok code v ∧
        run environment arguments (w.reporting τ) = .ok code' v' ∧ v.Alike σ τ v' ∧ (code' = code ∨
          ∃ i, Parsed.ofArguments arguments = .invocation i ∧
            WrittenApart σ τ environment i (w.reporting σ) (w.reporting τ)) := by
  refine ⟨?_, run_alike h environment arguments w.alike_reporting⟩
  rcases Run.matches_runReporting h r _ _ w.alike_reporting with
    ⟨a, b, v, v', hσ, hτ, hreport, hafter⟩ | ⟨e, v, v', hσ, hτ, hafter⟩
  · exact Or.inr ⟨a, b, v, v', hσ, hτ, hreport, hafter⟩
  · exact Or.inl ⟨e, v, v', hσ, hτ, hafter⟩

/-- A diagnostic of a given identifier in every place. -/
def announcing (id : Text) : Fields → Fields := fun _ => [("id", .text id), ("message", .text "look here")]

/-- A plug-in whose generator adds a document and has something to say about it. -/
def talkative : World := Run.withPlugin none [.source [.add (.text "a.txt") (.text "one"), .report []]]

/-- The same document is written, whatever is said about it. -/
theorem run_reporting_talkative :
    Interchangeable (announcing "A") (announcing "B") ∧
      ∃ a b v v', Run.run Run.plainRequest (talkative.reporting (announcing "A")) = .ok a v ∧
        Run.run Run.plainRequest (talkative.reporting (announcing "B")) = .ok b v' ∧
        a.Alike (announcing "A") (announcing "B") b ∧ a.written = 1 ∧ a.diagnostics.map (·.id) = ["A"] ∧
        b.diagnostics.map (·.id) = ["B"] := by
  have hplaces : Interchangeable (announcing "A") (announcing "B") := fun _ => Or.inr ⟨⟨_, rfl⟩, _, rfl⟩
  have hends : ((Run.run Run.plainRequest).value? (talkative.reporting (announcing "A"))).map
      (fun a => (a.written, a.diagnostics.map (·.id))) = some (1, [("A" : Text)]) := by decide +kernel
  have hends' : ((Run.run Run.plainRequest).value? (talkative.reporting (announcing "B"))).map
      (fun b => b.diagnostics.map (·.id)) = some [("B" : Text)] := by decide +kernel
  rcases (run_reporting hplaces Run.plainRequest [] [] talkative).1 with
    ⟨e, v, -, hrun, -⟩ | ⟨a, b, v, v', hrun, hrun', hreport, -⟩
  · rw [value?, hrun] at hends
    cases hends
  · rw [value?_of_ok hrun] at hends
    rw [value?_of_ok hrun'] at hends'
    obtain ⟨hwritten, hids⟩ := Prod.mk.inj (Option.some.inj hends)
    exact ⟨hplaces, a, b, v, v', hrun, hrun', hreport, hwritten, hids, Option.some.inj hends'⟩

end Command
end GeneratorHost
