import GeneratorHost.Proofs.Run.Stages
import GeneratorHost.Proofs.Run.Unnamed

/-! What runs may change. Whatever a generator calls its documents, a run makes directories on the way to the output
    directory and writes files in it. Which files these are and what is in them was settled before the first of them was
    written, and the name that a plug-in gives to its generator has no part in it. -/

namespace GeneratorHost
namespace Run

open World (Unwritten Written)

variable {w w' : World} {r : Request} {report : Report}

/-- An entry is as it was, or it is one that a run may make: a directory on the way to the output directory, where
    nothing was, or a file in the output directory, where no directory was. -/
inductive Confined (out : Route) (w v : World) (x : Route) : Prop
  | kept (h : v.files.lookup x = w.files.lookup x)
  | made (hp : x <+: out) (hn : w.files.lookup x = none) (hd : v.files.lookup x = some .directory)
  | written (name : Text) (hname : name.IsEntryName) (hx : x = out ++ [name])
      (hnd : w.files.lookup x ≠ some .directory) (bytes : List UInt8)
      (hb : v.files.lookup x = some (.file (.bytes bytes)))

/-- Every run keeps within the output directory, whether it fails or not. -/
theorem confined_after (r : Request) (hw : w.LogOpen) {x : Route} (hx : ¬w.Logs x) :
    Confined (outputPlace r w) w ((run r).after w) x := by
  obtain ⟨w₁, hbefore, hwritten⟩ := run_written r hw
  have hafter := hwritten.lookup x fun hl => hx ((World.logs_congr hbefore.logging x).mp hl)
  cases hlast : World.lastWrite? (writes r w) x with
  | some bytes =>
    rw [hlast] at hafter
    obtain ⟨name, hname, hplace, hnd⟩ := mem_writes r hw (World.mem_of_lastWrite?_eq_some hlast)
    exact .written name hname hplace hnd bytes hafter
  | none =>
    rw [hlast, Option.map_none, Option.none_or] at hafter
    rcases hbefore.lookup x hx with he | ⟨hp, hn, hd⟩
    · exact .kept (hafter.trans he)
    · exact .made hp hn (hafter.trans hd)

theorem run_eq_ok (h : run r w = .ok report w') :
    ∃ p g warnings result v, ready r w = .ok (p, g, warnings, result) v ∧
      World.writeAll p.output g.className (result.artifacts.map (·.source)) v = .ok () w' ∧
      report.written = result.artifacts.length := by
  rw [run_eq] at h
  obtain ⟨⟨p, g, warnings, result⟩, v, hready, h⟩ := Act.bind_eq_ok.mp h
  obtain ⟨u, w₁, hwrite, h⟩ := Act.bind_eq_ok.mp h
  cases h
  exact ⟨p, g, warnings, result, v, hready, hwrite, List.length_map _⟩

/-- The generator of a run did all its reading from the files as they were once the output directory was there; then
    the documents that it made were written over these files, each to the file of its name. -/
def WritesLast (r : Request) (report : Report) (w w' : World) : Prop :=
  ∃ p g warnings result v w₀ references session,
    ready r w = .ok (p, g, warnings, result) v ∧
      Unwritten (outputPlace r w) w w₀ ∧ w₀.files.lookup (outputPlace r w) = some .directory ∧
      Generation.execute w₀.files references p.options p.texts g.script w₀.session = .ok result session ∧
      Written (World.allWrites (outputPlace r w)
        (Artifact.namesOf g.className v.tokens (result.artifacts.map (·.source))) (result.artifacts.map (·.source)))
        w₀ w' ∧
      report.written = result.artifacts.length

theorem writesLast_of_run_ok (hw : w.LogOpen) (h : run r w = .ok report w') : WritesLast r report w w' := by
  obtain ⟨p, g, warnings, result, v, hready, hwrite, hcount⟩ := run_eq_ok h
  obtain ⟨houtput, w₀, references, session, hbefore, hdir, hexec, hafter⟩ := executed_of_ready hw hready
  have hplace : p.output.placeFrom v.files.workingDirectory = outputPlace r w := by
    rw [houtput, (Path.direct_ofRoute _ _).placeFrom_eq]
    rfl
  have hwritten : Written _ v ((World.writeAll p.output g.className (result.artifacts.map (·.source))).after v) :=
    World.written_writeAll _ hafter.logOpen
  obtain ⟨hwrites, -⟩ := World.writeAll_eq_ok hafter.logOpen hwrite
  rw [Act.after_of_ok hwrite, hwrites, hplace] at hwritten
  exact ⟨p, g, warnings, result, v, w₀, references, session, hready, hbefore, hdir, hexec,
    (World.written_nil hafter).trans hwritten, hcount⟩

/-- Another name for the generator makes no difference to the files that a run leaves. -/
theorem run_of_unnamed_eq (hq : w.Quiet) (h : run r w = .ok report w') {files : FileTree}
    (hf : files.unnamed = w.files.unnamed) :
    ∃ report' v', run r { w with files } = .ok report' v' ∧ v'.files.unnamed = w'.files.unnamed ∧
      report'.unnamed = report.unnamed := by
  have hrenamed : w.Renamed { w with files } := ⟨hf, rfl, rfl, hq, rfl, rfl, rfl⟩
  obtain ⟨report', v', hrun, hreport, hafter⟩ := (matches_run r).ok hrenamed h
  exact ⟨report', v', hrun, hafter.files, hreport⟩

/-- A run that succeeds changes nothing but the output directory, what was missing on the way to it, and files in it.
    Its generator ran before any of them was written, and the same files are left if the plug-in gives it another
    name. -/
theorem run_ok (hw : w.LogOpen) (h : run r w = .ok report w') :
    (∀ x, ¬w.Logs x → Confined (outputPlace r w) w w' x) ∧
      WritesLast r report w w' ∧
      (w.Quiet → ∀ files : FileTree, files.unnamed = w.files.unnamed →
        ∃ report' v', run r { w with files } = .ok report' v' ∧ v'.files.unnamed = w'.files.unnamed ∧
          report'.unnamed = report.unnamed) := by
  refine ⟨fun x hx => ?_, writesLast_of_run_ok hw h, fun hq files hf => run_of_unnamed_eq hq h hf⟩
  have hconfined := confined_after r hw hx
  rwa [Act.after_of_ok h] at hconfined

/-- A plug-in whose generator gives its documents names that lead out of the output directory, and to no file. -/
def intruding (shownName : Text) : World :=
  withPlugin (some shownName) [.source [.add (.text "../../evil") (.text "1"), .add (.text "a\\..") (.text "2"),
    .add (.text "/etc/passwd ") (.text "3"), .add (.text "..") (.text "4")]]

/-- Its run succeeds, keeps within the output directory and leaves the same files if the generator is called otherwise. -/
theorem run_ok_intruding :
    ∃ report w', (intruding "../../evil").LogOpen ∧ (intruding "../../evil").Quiet ∧
      (intruding "G").files.unnamed = (intruding "../../evil").files.unnamed ∧
      run plainRequest (intruding "../../evil") = .ok report w' ∧ report.written = 4 ∧
      (∀ x, Confined ["out"] (intruding "../../evil") w' x) ∧ WritesLast plainRequest report (intruding "../../evil") w' ∧
      ∃ report' v', run plainRequest (intruding "G") = .ok report' v' ∧ v'.files.unnamed = w'.files.unnamed ∧
        report'.unnamed = report.unnamed := by
  have hends : (match run plainRequest (intruding "../../evil") with
    | .ok report _ => report.written == 4
    | .error _ _ => false) = true := by decide +kernel
  have hopen : (intruding "../../evil").LogOpen := World.logOpen_new _ _
  have hquiet : (intruding "../../evil").Quiet := fun _ _ => rfl
  have hfiles : (intruding "G").files.unnamed = (intruding "../../evil").files.unnamed := rfl
  cases h : run plainRequest (intruding "../../evil") with
  | error e w' =>
    rw [h] at hends
    cases hends
  | ok report w' =>
    obtain ⟨hconfined, hlast, hnames⟩ := run_ok hopen h
    rw [h] at hends
    have hnoLog : ∀ x, ¬(intruding "../../evil").Logs x := fun _ ⟨_, hf, _⟩ => nomatch hf
    exact ⟨report, w', hopen, hquiet, hfiles, rfl, beq_iff_eq.mp hends, fun x => hconfined x (hnoLog x), hlast,
      hnames hquiet _ hfiles⟩

/-- A plug-in whose generator gives out what is taken down about its run, beside a directory for that. -/
def tellTale (shownName : Text) : World :=
  let w := withPlugin (some shownName) [.source [.echoTexts]]
  takenDown { w with files := w.files.put ["out"] .directory }

def tellTaleRequest : Request := { plainRequest with text := some (.ofText "log.txt") }

/-- Where the log goes to a file, a run changes that file, and a generator that reads it comes upon its own name. -/
theorem run_ok_otherwise :
    (tellTale "H").files.unnamed = (tellTale "G").files.unnamed ∧
      textAfter "log.txt" (pure ()) (tellTale "G") = some Text.empty ∧
      textAfter "log.txt" (run tellTaleRequest) (tellTale "G") =
        some ("1970-01-01 00:00:00 INFO  genharness.core.use_cases.run:0 — Running generator G from /g.py\n" : Text) ∧
      textAfter "out/log.txt.g.txt" (run tellTaleRequest) (tellTale "G") =
        some ("1970-01-01 00:00:00 INFO  genharness.core.use_cases.run:0 — Running generator G from /g.py\n" : Text) ∧
      textAfter "out/log.txt.g.txt" (run tellTaleRequest) (tellTale "H") =
        some ("1970-01-01 00:00:00 INFO  genharness.core.use_cases.run:0 — Running generator H from /g.py\n" : Text) := by
  refine ⟨rfl, ?_⟩
  decide +kernel

end Run
end GeneratorHost
