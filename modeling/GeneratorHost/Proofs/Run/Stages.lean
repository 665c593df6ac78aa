import GeneratorHost.Proofs.Run.Touching
import GeneratorHost.Proofs.World.Writes

/-! The stages of a run and the files. Until the generator is done nothing is written but the log, and nothing is made
    but the output directory with what is missing on the way to it; then the artifacts are written. -/

namespace GeneratorHost
namespace Run

open World (Unwritten Spares Written spares_pure spares_throw spares_ask spares_log)

variable {w v : World} {r : Request} {route : Route}

/-- The route of the output directory, seen from the working directory of a world. -/
def outputPlace (r : Request) (w : World) : Route := (Path.ofRoute (r.output.route w.files.workingDirectory)).place

/-! ### Stages that write nothing -/

theorem spares_loadModule (route : Route) (plugin : Path) : Spares route (loadModule plugin) :=
  Touching.spares (.loadModule nofun nofun plugin) route

/-- Nothing is written once everything is prepared, until the artifacts are. -/
theorem spares_produceFrom (route : Route) (r : Request) (p : Prepared) : Spares route (produceFrom r p) :=
  Touching.spares (.produceFrom nofun nofun nofun r p) route

/-- Once everything is prepared, nothing is made or taken away until the artifacts are written. -/
theorem shape_produceFrom (r : Request) (p : Prepared) (w : World) :
    ((produceFrom r p).after w).files.shape = w.files.shape :=
  Touching.shape_eq (.produceFrom nofun nofun nofun r p) w

/-- What was prepared is kept. -/
theorem prepared_of_produceFrom {p : Prepared} {produced : Prepared × Plugin.Generator × List Text × Generation.Result}
    (h : produceFrom r p w = .ok produced v) : produced.1 = p := by
  obtain ⟨m, w₁, -, h⟩ := Act.bind_eq_ok.mp h
  obtain ⟨chosen, w₂, -, h⟩ := Act.bind_eq_ok.mp h
  obtain ⟨result, w₃, -, h⟩ := Act.bind_eq_ok.mp h
  cases h
  rfl

/-! ### The output directory -/

theorem spares_requireOutput {output : Path} (ho : output.Direct) : Spares output.place (requireOutput output) := by
  refine (spares_ask _ _).bind fun there => ?_
  cases there with
  | true => exact spares_pure _ _
  | false => exact (spares_log _ _ _ _).bind fun _ => World.spares_makeDirectory ho

/-- The output directory is one in the end. -/
theorem isDirectory_of_requireOutput {output : Path} (h : requireOutput output w = .ok () v) :
    v.files.isDirectory output = .ok true := by
  rw [requireOutput_eq] at h
  split at h
  · cases h
  · next hd =>
    cases h
    exact hd
  · rcases World.change_cases (fun t => t.makeDirectory output) (announced output w) with ⟨hn, hc⟩ | ⟨e, -, hc⟩
    · cases hc.symm.trans h
      exact FileTree.isDirectory_of_makeDirectory (by rw [← hn])
    · cases hc.symm.trans h

theorem spares_checkPaths {plugin output : Path} (ho : output.Direct) :
    Spares output.place (checkPaths plugin output) := by
  rw [checkPaths_eq]
  refine (spares_ask _ _).bind fun there => ?_
  cases there with
  | true => exact spares_requireOutput ho
  | false => exact spares_throw _ _

theorem isDirectory_of_checkPaths {plugin output : Path} (h : checkPaths plugin output w = .ok () v) : v.files.isDirectory output = .ok true := by
  rw [checkPaths_eq] at h
  obtain ⟨there, w₁, -, hrest⟩ := Act.bind_eq_ok.mp h
  cases there with
  | true => exact isDirectory_of_requireOutput hrest
  | false => cases hrest

/-- What is settled before the plug-in, once the paths are resolved. -/
def prepareAt (r : Request) (plugin output : Path) : Act World Prepared := do
  let settings ← Settings.load r.settings
  let parsed := Property.parse r.properties
  logAll Level.debug .properties parsed.remarks
  warnAll r.audience parsed.warnings
  let options := (Options.ofPairs settings.options).mergedPairs parsed.properties
  let texts ← World.ask fun t => openTexts t (r.text.toList ++ settings.texts)
  checkPaths plugin output
  pure ⟨plugin, output, options, texts, parsed.warnings⟩

theorem prepare_eq (r : Request) :
    prepare r = (World.ask (·.resolve r.plugin) >>= fun plugin =>
      World.ask (·.resolve r.output) >>= fun output => prepareAt r plugin output) := rfl

theorem spares_prepareAt {plugin output : Path} (ho : output.Direct) :
    Spares output.place (prepareAt r plugin output) :=
  ((Touching.load _).spares _).bind fun _ => ((Touching.logAll _ _ _).spares _).bind fun _ =>
    ((Touching.warnAll _ _).spares _).bind fun _ => (spares_ask _ _).bind fun _ =>
      (spares_checkPaths ho).bind fun _ => spares_pure _ _

theorem prepareAt_eq_ok {plugin output : Path} {p : Prepared} (h : prepareAt r plugin output w = .ok p v) :
    p.output = output ∧ v.files.isDirectory output = .ok true := by
  obtain ⟨settings, w₁, -, h⟩ := Act.bind_eq_ok.mp h
  obtain ⟨u, w₂, -, h⟩ := Act.bind_eq_ok.mp h
  obtain ⟨u, w₃, -, h⟩ := Act.bind_eq_ok.mp h
  obtain ⟨texts, w₄, -, h⟩ := Act.bind_eq_ok.mp h
  obtain ⟨u, w₅, hcheck, h⟩ := Act.bind_eq_ok.mp h
  cases h
  exact ⟨rfl, isDirectory_of_checkPaths hcheck⟩

/-! ### Everything before the writer -/

theorem unwritten_prepare (r : Request) (hw : w.LogOpen) :
    Unwritten (outputPlace r w) w ((prepare r).after w) := by
  rw [prepare_eq]
  refine (spares_ask _ _ w hw).bind fun plugin v hplugin hv => ?_
  obtain ⟨-, rfl⟩ := World.ask_eq_ok hplugin
  refine (spares_ask _ _ v hv).bind fun output u houtput hu => ?_
  obtain ⟨hq, rfl⟩ := World.ask_eq_ok houtput
  obtain rfl := FileTree.resolve_eq_ok hq
  exact spares_prepareAt (Path.direct_ofRoute _ _) u hu

theorem prepare_eq_ok {p : Prepared} (h : prepare r w = .ok p v) :
    p.output = .ofRoute (r.output.route w.files.workingDirectory) ∧ v.files.isDirectory p.output = .ok true := by
  rw [prepare_eq] at h
  obtain ⟨plugin, w₁, hplugin, hrest⟩ := Act.bind_eq_ok.mp h
  obtain ⟨output, w₂, houtput, hat⟩ := Act.bind_eq_ok.mp hrest
  obtain ⟨-, rfl⟩ := World.ask_eq_ok hplugin
  obtain ⟨hq, rfl⟩ := World.ask_eq_ok houtput
  obtain rfl := FileTree.resolve_eq_ok hq
  obtain ⟨houtput, hd⟩ := prepareAt_eq_ok hat
  exact ⟨houtput, houtput.symm ▸ hd⟩

theorem directory_of_prepare {p : Prepared} (h : prepare r w = .ok p v) :
    v.files.lookup (outputPlace r w) = some .directory := by
  obtain ⟨houtput, hd⟩ := prepare_eq_ok h
  have hplace := FileTree.isDirectory_eq_true hd
  rwa [houtput, (Path.direct_ofRoute _ _).placeFrom_eq] at hplace

/-- Everything before the writer writes nothing. -/
theorem unwritten_produce (r : Request) (hw : w.LogOpen) :
    Unwritten (outputPlace r w) w ((produce r).after w) :=
  (unwritten_prepare r hw).bind fun p v _ hv => spares_produceFrom _ r p v hv

/-- A generation that is done ran on the files as they were in one world. -/
theorem generate_eq_ok {p : Prepared} {g : Plugin.Generator} {result : Generation.Result} (hw : w.LogOpen)
    (h : generate r p g w = .ok result v) :
    ∃ w₀ references session, Unwritten [] w w₀ ∧
      Generation.execute w₀.files references p.options p.texts g.script w₀.session = .ok result session ∧
      Unwritten [] w₀ v := by
  obtain ⟨u, w₁, hlog, h⟩ := Act.bind_eq_ok.mp h
  obtain ⟨references, w₂, hrefs, h⟩ := Act.bind_eq_ok.mp h
  obtain ⟨w₂', w₂, hg, h⟩ := Act.bind_eq_ok.mp h
  cases hg
  obtain ⟨result', w₃, hexec, h⟩ := Act.bind_eq_ok.mp h
  obtain ⟨u', w₄, hdone, h⟩ := Act.bind_eq_ok.mp h
  cases h
  have h₁ := (Touching.spares (.logNamed _ _ _ _) []).ok hw hlog
  have h₂ := h₁.trans (((Touching.references r).spares []).ok h₁.logOpen hrefs)
  have h₃ := (Touching.spares (.onSession nofun _) []).ok h₂.logOpen hexec
  refine ⟨w₂, references, ?_⟩
  rw [World.onSession, Act.on] at hexec
  cases hs : Generation.execute w₂.files references p.options p.texts g.script w₂.session with
  | error e s =>
    rw [hs] at hexec
    cases hexec
  | ok result'' s =>
    rw [hs] at hexec
    cases hexec
    exact ⟨s, h₂, rfl, h₃.trans ((Touching.spares (.logNamed _ _ _ _) []).ok h₃.logOpen hdone)⟩

/-- If everything before the writer is done, the generator ran on the files as they were once the output directory was
    there. -/
theorem produce_eq_ok {p : Prepared} {g : Plugin.Generator} {warnings : List Text} {result : Generation.Result}
    (hw : w.LogOpen) (h : produce r w = .ok (p, g, warnings, result) v) :
    p.output = .ofRoute (r.output.route w.files.workingDirectory) ∧
      ∃ w₀ references session, Unwritten (outputPlace r w) w w₀ ∧
        w₀.files.lookup (outputPlace r w) = some .directory ∧
        Generation.execute w₀.files references p.options p.texts g.script w₀.session = .ok result session ∧
        Unwritten [] w₀ v := by
  obtain ⟨p', w₁, hp, h⟩ := Act.bind_eq_ok.mp h
  obtain ⟨m, w₂, hm, h⟩ := Act.bind_eq_ok.mp h
  obtain ⟨⟨g', ambiguities⟩, w₃, hg, h⟩ := Act.bind_eq_ok.mp h
  obtain ⟨result', w₄, hresult, h⟩ := Act.bind_eq_ok.mp h
  cases h
  have h₁ : Unwritten (outputPlace r w) w w₁ := Act.after_of_ok hp ▸ unwritten_prepare r hw
  have h₂ := (spares_loadModule (outputPlace r w) _).ok h₁.logOpen hm
  have h₃ := h₂.trans (((Touching.chooseGenerator r m).spares _).ok h₂.logOpen hg)
  obtain ⟨houtput, -⟩ := prepare_eq_ok hp
  have hdir := directory_of_prepare hp
  obtain ⟨w₀, references, session, hbefore, hexec, hafter⟩ := generate_eq_ok h₃.logOpen hresult
  have h₀ := h₃.trans (hbefore.mono List.nil_prefix)
  exact ⟨houtput, w₀, references, session, h₁.trans h₀, h₀.directory h₁.logOpen hdir, hexec, hafter⟩

/-! ### Whole runs -/

/-- Everything before the first artifact is written. -/
def ready (r : Request) : Act World (Prepared × Plugin.Generator × List Text × Generation.Result) := do
  let produced ← produce r
  World.makeDirectory produced.1.output
  pure produced

theorem run_eq (r : Request) :
    run r = (ready r >>= fun produced =>
      World.writeAll produced.1.output produced.2.1.className (produced.2.2.2.artifacts.map (·.source)) >>= fun _ =>
        pure ⟨produced.2.1.name, produced.1.output, (produced.2.2.2.artifacts.map (·.source)).length,
          produced.2.2.2.diagnostics, produced.2.2.1⟩) := by
  simp only [run, ready, World.writeArtifacts, bind_assoc, pure_bind]

theorem unwritten_ready (r : Request) (hw : w.LogOpen) : Unwritten (outputPlace r w) w ((ready r).after w) := by
  refine (unwritten_produce r hw).bind fun produced v hp hv => ?_
  obtain ⟨houtput, -⟩ := produce_eq_ok hw hp
  rw [houtput]
  exact ((World.spares_makeDirectory (Path.direct_ofRoute _ _)).bind fun _ => spares_pure _ _) v hv

theorem ready_eq_ok {produced : Prepared × Plugin.Generator × List Text × Generation.Result}
    (h : ready r w = .ok produced v) :
    ∃ w₁, produce r w = .ok produced w₁ ∧ World.makeDirectory produced.1.output w₁ = .ok () v := by
  obtain ⟨produced', w₁, hp, hrest⟩ := Act.bind_eq_ok.mp h
  obtain ⟨u, w₂, hm, hpure⟩ := Act.bind_eq_ok.mp hrest
  cases hpure
  exact ⟨w₁, hp, hm⟩

/-- Once everything before the first artifact is done, nothing was written since the generator ran. -/
theorem executed_of_ready {p : Prepared} {g : Plugin.Generator} {warnings : List Text} {result : Generation.Result}
    (hw : w.LogOpen) (h : ready r w = .ok (p, g, warnings, result) v) :
    p.output = .ofRoute (r.output.route w.files.workingDirectory) ∧
      ∃ w₀ references session, Unwritten (outputPlace r w) w w₀ ∧
        w₀.files.lookup (outputPlace r w) = some .directory ∧
        Generation.execute w₀.files references p.options p.texts g.script w₀.session = .ok result session ∧
        Unwritten [] w₀ v := by
  obtain ⟨w₁, hp, hmake⟩ := ready_eq_ok h
  obtain ⟨houtput, w₀, references, session, hbefore, hdir, hexec, hafter⟩ := produce_eq_ok hw hp
  refine ⟨houtput, w₀, references, session, hbefore, hdir, hexec, hafter.trans ?_⟩
  have hmade : Unwritten (outputPlace r w) w₁ v := by
    rw [houtput] at hmake
    exact (World.spares_makeDirectory (Path.direct_ofRoute _ _)).ok hafter.logOpen hmake
  exact hmade.of_directory (hafter.directory hbefore.logOpen hdir)

/-- The writes that a run makes: those for its artifacts, once everything before them is done. -/
def writes (r : Request) (w : World) : List World.Write :=
  match ready r w with
  | .error _ _ => []
  | .ok (p, g, _, result) v => World.writesOf p.output g.className (result.artifacts.map (·.source)) v

/-- A run, whether it fails or not, first writes nothing and then makes its writes. -/
theorem run_written (r : Request) (hw : w.LogOpen) :
    ∃ w₁, Unwritten (outputPlace r w) w w₁ ∧ Written (writes r w) w₁ ((run r).after w) := by
  have hready := unwritten_ready r hw
  refine ⟨_, hready, ?_⟩
  rw [run_eq, writes]
  cases h : ready r w with
  | error e v =>
    rw [Act.after_of_error h] at hready
    rw [Act.after_of_error h, Act.after_bind_of_error h]
    exact World.written_nil (.refl [] hready.logOpen)
  | ok produced v =>
    rw [Act.after_of_ok h] at hready
    rw [Act.after_of_ok h, Act.after_bind_of_ok h]
    rw [Act.after_bind_of_forall_after fun _ _ => rfl]
    exact World.written_writeAll _ hready.logOpen

/-- What a run writes are entries of the output directory, and no directories. -/
theorem mem_writes (r : Request) (hw : w.LogOpen) {write : World.Write} (h : write ∈ writes r w) :
    ∃ name : Text, name.IsEntryName ∧ write.1 = outputPlace r w ++ [name] ∧
      w.files.lookup write.1 ≠ some .directory := by
  have hready := unwritten_ready r hw
  rw [writes] at h
  cases hr : ready r w with
  | error e v =>
    rw [hr] at h
    cases h
  | ok produced v =>
    rw [hr] at h
    rw [Act.after_of_ok hr] at hready
    obtain ⟨w₁, hp, -⟩ := ready_eq_ok hr
    obtain ⟨houtput, -⟩ := produce_eq_ok hw hp
    obtain ⟨name, hn, hname, hnd⟩ := World.mem_writesOf _ hready.logOpen h
    rw [houtput, (Path.direct_ofRoute _ _).placeFrom_eq] at hname
    exact ⟨name, hn, hname, fun hdir => hnd (hready.directory hw hdir)⟩

/-! ### A plug-in in one file -/

/-- A world with a plug-in of one class, which perhaps gives its generators a name, and the script that they run. -/
def withPlugin (shownName : Option Text) (script : Script) : World :=
  .new ⟨[], [("g.py", .file (.module [.define
    { name := "G"
      base := .generator
      script := some script
      shownName
      abstractMethods := []
      implemented := []
      requiresArgument := false
      creationFailure := none
      moduleSuffix := ""
      within := none }]))]⟩ default

/-- A plug-in whose generator has a method in place of its name. -/
def namedByMethod : World :=
  .new ⟨[], [("g.py", .file (.module [.define
    { name := "G"
      base := .generator
      script := some []
      shownName := none
      abstractMethods := []
      implemented := ["name"]
      requiresArgument := false
      creationFailure := none
      moduleSuffix := ""
      within := none }]))]⟩ default

/-- A request to run that plug-in. -/
def plainRequest : Request where
  plugin := .ofText "g.py"
  output := .ofText "out"
  properties := []
  text := none
  settings := none
  references := some [⟨"python", "", ""⟩]
  audience := .log

/-- A world that takes down in a file what is done in it, with nothing taken down so far. -/
def takenDown (w : World) : World :=
  { w with
    files := w.files.put ["log.txt"] (.file (.bytes []))
    logging := ⟨Level.info, none, some ⟨Level.info, ["log.txt"]⟩⟩ }

/-- What a file holds after a step, if it can be read as a text. -/
def textAfter {α : Type} (path : String) (step : Act World α) (w : World) : Option Text :=
  ((step.after w).files.readText (.ofText path)).toOption

end Run
end GeneratorHost
