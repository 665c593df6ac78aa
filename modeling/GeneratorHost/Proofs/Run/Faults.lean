import GeneratorHost.Proofs.Generation.Contexts
import GeneratorHost.Proofs.Run.Stages

/-! What a run fails with. Everything that can go wrong before anything is written belongs to one of eleven stages, and
    most of it is there from the start: a bad path, bad settings, a missing plug-in, a host without a library. Whatever
    else is wrong, a run fails with the fault of the first stage that has one, and where that stage stands tells what
    was done to the files. -/

namespace GeneratorHost

namespace Run

open World (Unwritten Told spares_pure)

variable {r : Request} {w v u : World} {e : Failure}

/-! ### Faults -/

def failure? {α : Type} : Except Failure α → Option Failure
  | .ok _ => none
  | .error e => some e

/-- What is wrong with a plug-in that is not there. -/
def missing? (t : FileTree) (plugin : Path) : Option Failure :=
  match t.exists plugin with
  | .ok there => if there then none else some (.moduleMissing plugin.text)
  | .error e => some e

/-- What is wrong with an output directory that is neither there nor can be made. -/
def unmakeable? (t : FileTree) (output : Path) : Option Failure :=
  match t.isDirectory output with
  | .ok there => if there then none else (t.makeDirectory output).2
  | .error e => some e

/-- The references that are given, or those of the host. -/
def referencesIn (r : Request) (w : World) : Except Failure (List Reference) :=
  match r.references with
  | some references => .ok references
  | none => w.host.libraries w.files

/-- What is wrong with references that cannot be had, or are none. -/
def unreferenced? (r : Request) (w : World) : Option Failure :=
  match referencesIn r w with
  | .ok references => if references.isEmpty then some (.host .noReferences) else none
  | .error e => some e

def pluginPath (r : Request) (w : World) : Path := .ofRoute (r.plugin.route w.files.workingDirectory)

def outputPath (r : Request) (w : World) : Path := .ofRoute (r.output.route w.files.workingDirectory)

/-- The texts that are asked for, as far as the settings can be read. -/
def textPaths (r : Request) (w : World) : List Path :=
  r.text.toList ++ match Settings.load r.settings w with
    | .ok settings _ => settings.texts
    | .error _ _ => []

/-- The module that the plug-in makes, if it is loaded in a world. -/
def loaded? (r : Request) (w u : World) : Option Plugin.Module :=
  match loadModule (pluginPath r w) u with
  | .ok m _ => some m
  | .error _ _ => none

/-- The generator that is made of the module of a plug-in, if it is loaded in a world. -/
def generator? (r : Request) (w u : World) : Option Plugin.Generator :=
  (loaded? r w u).bind fun m =>
    (Plugin.resolve m).toOption.bind fun resolution => (Plugin.instantiate resolution.chosen).toOption

/-- What is wrong with the name of a generator that is to be shown in a record: it is a method, and a handler takes the
    record. -/
def unshown? (level : Level) (logger : Logger) (name : Plugin.GeneratorName) (w : World) : Option Failure :=
  match name with
  | .text _ => none
  | .method => if w.logging.takes ⟨level, logger, .empty⟩ then some .unshowable else none

/-- The compilation that a generator is to run against. -/
def buildBase (r : Request) (p : Prepared) (g : Plugin.Generator) : Act World Compilation := do
  logNamed Level.info .run g.name (announcement p.plugin)
  let references ← references r
  World.onSession (Generation.baseCompilation references)

/-- Everything before the generator is initialized. -/
def launch (r : Request) : Act World (Prepared × Plugin.Generator × Compilation) := do
  let p ← prepare r
  let m ← loadModule p.plugin
  let (g, _) ← chooseGenerator r m
  let base ← buildBase r p g
  pure (p, g, base)

/-! ### Stages -/

/-- The stages of a run up to the point where files are written, in their order. -/
inductive Stage
  | paths
  | settings
  | texts
  | plugin
  | output
  | loading
  | choice
  | creation
  | announcement
  | host
  | generation
  deriving DecidableEq, Repr

namespace Stage

/-- The stages before the output directory. -/
def opening : List Stage := [.paths, .settings, .texts, .plugin]

/-- The stages after the output directory. -/
def closing : List Stage := [.loading, .choice, .creation, .announcement, .host, .generation]

def all : List Stage := opening ++ .output :: closing

theorem not_mem_closing {stage : Stage} (h : stage ∈ opening ++ [.output]) : stage ∉ closing := by
  revert h
  cases stage <;> decide

/-- What is wrong at a stage. That of the stages up to the output directory is there before the run; loading and the
    host are looked at in the world that is left then, whether the run got that far or not. -/
def fault (r : Request) (w : World) : Stage → Option Failure
  | paths => failure? (w.files.resolve r.plugin >>= fun _ => w.files.resolve r.output)
  | settings => (Settings.load r.settings).fault w
  | texts => failure? (openTexts w.files (textPaths r w))
  | plugin => missing? w.files (pluginPath r w)
  | output => unmakeable? w.files (outputPath r w)
  | loading => (loadModule (pluginPath r w)).fault ((prepare r).after w)
  | choice => (loaded? r w ((prepare r).after w)).bind fun m => failure? (Plugin.resolve m)
  | creation => (loaded? r w ((prepare r).after w)).bind fun m =>
    (Plugin.resolve m).toOption.bind fun resolution => failure? (Plugin.instantiate resolution.chosen)
  | announcement => (generator? r w ((prepare r).after w)).bind fun g => unshown? Level.info .run g.name w
  | host => unreferenced? r ((prepare r).after w)
  | generation => match launch r w with
    | .ok (p, g, base) u => (Generation.run u.files ⟨base, p.options, p.texts⟩ g.script).fault u.session
    | .error _ _ => none

end Stage

/-- The first of some stages with a fault, and that fault. -/
def firstFault (r : Request) (w : World) (stages : List Stage) : Option (Stage × Failure) :=
  stages.findSome? fun stage => (stage.fault r w).map (stage, ·)

theorem firstFault_of_some {stage : Stage} (h : stage.fault r w = some e) (stages : List Stage) :
    firstFault r w (stage :: stages) = some (stage, e) := by
  simp [firstFault, h]

theorem firstFault_of_none {stage : Stage} (h : stage.fault r w = none) (stages : List Stage) :
    firstFault r w (stage :: stages) = firstFault r w stages := by
  simp [firstFault, h]

/-! ### Up to the output directory -/

theorem logAll_ok (level : Level) (logger : Logger) : ∀ messages w, ∃ v, logAll level logger messages w = .ok () v
  | [], w => ⟨w, rfl⟩
  | message :: messages, w => logAll_ok level logger messages (w.logged ⟨level, logger, message⟩)

theorem warnAll_ok (audience : Audience) : ∀ messages w, ∃ v, warnAll audience messages w = .ok () v
  | [], w => ⟨w, rfl⟩
  | message :: messages, w => by
    obtain ⟨v, hv⟩ : ∃ v, warn audience message w = .ok () v := by cases audience <;> exact ⟨_, rfl⟩
    obtain ⟨u, hu⟩ := warnAll_ok audience messages v
    exact ⟨u, (Act.bind_ok hv).trans hu⟩

theorem ofShape_missing (plugin : Path) : FileTree.OfShape (missing? · plugin) := fun f t => by
  simp only [missing?, FileTree.exists_mapContent]

theorem ofShape_unmakeable (output : Path) : FileTree.OfShape (unmakeable? · output) := fun f t => by
  simp only [unmakeable?, FileTree.isDirectory_mapContent, FileTree.makeDirectory_mapContent, FileTree.mapAttempt]

/-- An output directory is made as it would be before that was told. -/
theorem requireOutput_cases (output : Path) (w : World) :
    match unmakeable? w.files output with
    | some e => ∃ v, requireOutput output w = .error e v
    | none => ∃ v, requireOutput output w = .ok () v := by
  rw [requireOutput_eq, unmakeable?]
  cases w.files.isDirectory output with
  | error e => exact ⟨w, rfl⟩
  | ok there =>
    cases there with
    | true => exact ⟨w, rfl⟩
    | false =>
      -- The record may have gone to a log file, which is no directory and makes no difference to making one.
      have hshape : (announced output w).files.shape = w.files.shape := World.shape_logged w _
      have hfault := (FileTree.ofShape_makeDirectory output).eq hshape
      rcases World.change_cases (fun t => t.makeDirectory output) (announced output w) with ⟨hn, hc⟩ | ⟨e, he, hc⟩
      · have hnone : (w.files.makeDirectory output).2 = none := hfault.symm.trans hn
        simp only [hnone]
        exact ⟨_, hc⟩
      · have hsome : (w.files.makeDirectory output).2 = some e := hfault.symm.trans he
        simp only [hsome]
        exact ⟨_, hc⟩

/-- The paths are checked as the plug-in is there, and the output directory. -/
theorem checkPaths_cases (plugin output : Path) (w : World) :
    match missing? w.files plugin with
    | some e => checkPaths plugin output w = .error e w
    | none => checkPaths plugin output w = requireOutput output w := by
  rw [checkPaths_eq]
  unfold missing?
  cases hexists : w.files.exists plugin with
  | error e => exact Act.bind_error (World.ask_of_error hexists)
  | ok there =>
    rw [Act.bind_ok (World.ask_of_ok hexists)]
    cases there <;> rfl

theorem prepareAt_staged {settings : Settings} (hw : w.LogOpen) (h : Settings.load r.settings w = .ok settings v) :
    match firstFault r w [.texts, .plugin, .output] with
    | some (stage, e) => ∃ u, prepareAt r (pluginPath r w) (outputPath r w) w = .error e u ∧
        (stage ∈ Stage.opening → Told w u)
    | none => ∃ options texts u, prepareAt r (pluginPath r w) (outputPath r w) w =
        .ok ⟨pluginPath r w, outputPath r w, options, texts, (Property.parse r.properties).warnings⟩ u := by
  obtain ⟨w₁, h₁⟩ := logAll_ok Level.debug .properties (Property.parse r.properties).remarks v
  obtain ⟨w₂, h₂⟩ := warnAll_ok r.audience (Property.parse r.properties).warnings w₁
  -- So far something was told at most, so the texts, the plug-in and the output directory are as they were.
  have ht := (Touching.load r.settings).told_of_ok hw h
  have ht₁ := ht.trans ((Touching.logAll _ _ _).told_of_ok ht.logOpen h₁)
  have ht₂ := ht₁.trans ((Touching.warnAll _ _).told_of_ok ht₁.logOpen h₂)
  have hpaths : textPaths r w = r.text.toList ++ settings.texts := by rw [textPaths, h]
  have htexts : openTexts w₂.files (r.text.toList ++ settings.texts) = openTexts w.files (textPaths r w) := by
    rw [hpaths]
    exact (ofShape_openTexts _).eq ht₂.shape
  have hrest : prepareAt r (pluginPath r w) (outputPath r w) w = _ :=
    (Act.bind_ok h).trans ((Act.bind_ok h₁).trans (Act.bind_ok h₂))
  rw [hrest]
  cases ho : openTexts w.files (textPaths r w) with
  | error e =>
    have hf : Stage.texts.fault r w = some e := by rw [Stage.fault, ho]; rfl
    rw [firstFault_of_some hf]
    exact ⟨w₂, Act.bind_error (World.ask_of_error (htexts.trans ho)), fun _ => ht₂⟩
  | ok texts =>
    have hf : Stage.texts.fault r w = none := by rw [Stage.fault, ho]; rfl
    rw [firstFault_of_none hf, Act.bind_ok (World.ask_of_ok (htexts.trans ho))]
    have hcheck := checkPaths_cases (pluginPath r w) (outputPath r w) w₂
    rw [(ofShape_missing (pluginPath r w)).eq ht₂.shape] at hcheck
    cases hm : missing? w.files (pluginPath r w) with
    | some e =>
      have hf : Stage.plugin.fault r w = some e := hm
      rw [hm] at hcheck
      rw [firstFault_of_some hf]
      exact ⟨w₂, Act.bind_error hcheck, fun _ => ht₂⟩
    | none =>
      have hf : Stage.plugin.fault r w = none := hm
      rw [hm] at hcheck
      rw [firstFault_of_none hf]
      have houtput := requireOutput_cases (outputPath r w) w₂
      rw [(ofShape_unmakeable (outputPath r w)).eq ht₂.shape] at houtput
      cases hu : unmakeable? w.files (outputPath r w) with
      | some e =>
        have hf : Stage.output.fault r w = some e := hu
        rw [hu] at houtput
        obtain ⟨u, hr⟩ := houtput
        rw [firstFault_of_some hf]
        exact ⟨u, Act.bind_error (hcheck.trans hr), fun ho => absurd ho (by decide)⟩
      | none =>
        have hf : Stage.output.fault r w = none := hu
        rw [hu] at houtput
        obtain ⟨u, hr⟩ := houtput
        rw [firstFault_of_none hf]
        exact ⟨_, texts, u, Act.bind_ok (hcheck.trans hr)⟩

/-- Up to the output directory a run fails with the fault of the first stage that has one. -/
theorem prepare_staged (r : Request) (hw : w.LogOpen) :
    match firstFault r w (Stage.opening ++ [.output]) with
    | some (stage, e) => ∃ v, prepare r w = .error e v ∧ (stage ∈ Stage.opening → Told w v)
    | none => ∃ options texts v, prepare r w =
        .ok ⟨pluginPath r w, outputPath r w, options, texts, (Property.parse r.properties).warnings⟩ v := by
  rw [prepare_eq]
  cases hplugin : w.files.resolve r.plugin with
  | error e =>
    have hf : Stage.paths.fault r w = some e := by rw [Stage.fault, hplugin]; rfl
    rw [Stage.opening, List.cons_append, firstFault_of_some hf]
    exact ⟨w, Act.bind_error (World.ask_of_error hplugin), fun _ => .refl hw⟩
  | ok plugin =>
    rw [Act.bind_ok (World.ask_of_ok hplugin)]
    obtain rfl := FileTree.resolve_eq_ok hplugin
    cases houtput : w.files.resolve r.output with
    | error e =>
      have hf : Stage.paths.fault r w = some e := by rw [Stage.fault, hplugin, houtput]; rfl
      rw [Stage.opening, List.cons_append, firstFault_of_some hf]
      exact ⟨w, Act.bind_error (World.ask_of_error houtput), fun _ => .refl hw⟩
    | ok output =>
      have hf : Stage.paths.fault r w = none := by rw [Stage.fault, hplugin, houtput]; rfl
      rw [Act.bind_ok (World.ask_of_ok houtput), Stage.opening, List.cons_append, firstFault_of_none hf]
      obtain rfl := FileTree.resolve_eq_ok houtput
      cases hload : Settings.load r.settings w with
      | error e v =>
        have hf : Stage.settings.fault r w = some e := by rw [Stage.fault, Act.fault, hload]
        rw [List.cons_append, firstFault_of_some hf]
        exact ⟨v, Act.bind_error hload, fun _ => (Touching.load _).told_of_error hw hload⟩
      | ok settings v =>
        have hf : Stage.settings.fault r w = none := by rw [Stage.fault, Act.fault, hload]
        rw [List.cons_append, firstFault_of_none hf]
        exact prepareAt_staged hw hload

/-! ### From there on -/

theorem unreferenced_congr (hs : v.files.shape = u.files.shape) (hh : v.host = u.host) (r : Request) :
    unreferenced? r v = unreferenced? r u := by
  unfold unreferenced? referencesIn
  rw [hh, (ofShape_libraries u.host).eq hs]

/-- Loading a module, if it succeeds, changes the registry and tells of it. -/
theorem loadModule_eq_ok {plugin : Path} {m : Plugin.Module} (hw : w.LogOpen) (h : loadModule plugin w = .ok m v) :
    ∃ registry, Told { w with registry } v := by
  obtain ⟨w₁, w₁', hget, h⟩ := Act.bind_eq_ok.mp h
  cases hget
  obtain ⟨name, w₂, hload, h⟩ := Act.bind_eq_ok.mp h
  obtain ⟨_, w₃, hlog, h⟩ := Act.bind_eq_ok.mp h
  obtain ⟨w₄, w₄', hget, h⟩ := Act.bind_eq_ok.mp h
  cases hget
  obtain rfl : v = w₃ := by
    cases hfind : w₃.registry.find? name with
    | some m' =>
      simp only [hfind] at h
      cases h
      rfl
    | none =>
      simp only [hfind] at h
      cases h
  -- What is left by the import is the registry, whatever was imported.
  have hafter := Act.after_of_ok hload
  rw [World.onRegistry, Act.after_on] at hafter
  subst hafter
  have hopen : ({ w with registry := (Plugin.Registry.load w.files plugin).after w.registry } : World).LogOpen := hw
  exact ⟨_, (Touching.log _ _ _).told_of_ok hopen hlog⟩

theorem onSession_of_ok {α : Type} {step : Act Session α} {a : α} {s : Session} (h : step w.session = .ok a s) :
    World.onSession step w = .ok a { w with session := s } := by
  rw [World.onSession, Act.on, h]

theorem onSession_of_error {α : Type} {step : Act Session α} {s : Session} (h : step w.session = .error e s) :
    World.onSession step w = .error e { w with session := s } := by
  rw [World.onSession, Act.on, h]

theorem references_cases (r : Request) (w : World) :
    match referencesIn r w with
    | .ok rs => ∃ v, references r w = .ok rs v
    | .error e => references r w = .error e w := by
  unfold referencesIn references
  cases r.references with
  | some rs => exact ⟨w, rfl⟩
  | none =>
    simp only []
    cases hl : w.host.libraries w.files with
    | ok rs => exact ⟨_, (Act.get_bind _ w).trans (Act.bind_ok (World.ask_of_ok hl))⟩
    | error e => exact (Act.get_bind _ w).trans (Act.bind_error (World.ask_of_error hl))

/-- A record with the name of a generator is made, or the name cannot be shown. -/
theorem logNamed_cases (level : Level) (logger : Logger) (name : Plugin.GeneratorName) (message : Text → Text)
    (w : World) :
    match unshown? level logger name w with
    | some e => logNamed level logger name message w = .error e w
    | none => ∃ v, logNamed level logger name message w = .ok () v := by
  cases name with
  | text name => exact ⟨_, rfl⟩
  | method =>
    have hmethod : logNamed level logger .method message w = _ := Act.get_bind _ w
    rw [unshown?, hmethod]
    cases w.logging.takes ⟨level, logger, .empty⟩ with
    | true => rfl
    | false => exact ⟨w, rfl⟩

/-- A handler that takes a record takes any that is more important. -/
theorem takes_of_le {l : Logging} {r r' : Record} (h : l.takes r = true) (hle : r.level ≤ r'.level) :
    l.takes r' = true := by
  have hpasses : ∀ handler, l.passes handler r = true → l.passes handler r' = true := by
    intro handler hp
    simp only [Logging.passes, Bool.and_eq_true, decide_eq_true_eq] at hp ⊢
    exact ⟨⟨Nat.lt_of_lt_of_le hp.1.1 hle, Nat.le_trans hp.1.2 hle⟩, Nat.le_trans hp.2 hle⟩
  simp only [Logging.takes, Bool.or_eq_true, Option.any_eq_true] at h ⊢
  exact h.imp (fun ⟨handler, hh, hp⟩ => ⟨handler, hh, hpasses _ hp⟩) fun ⟨handler, hh, hp⟩ =>
    ⟨handler, hh, hpasses _ hp⟩

theorem unshown_congr (h : v.logging = w.logging) (level : Level) (logger : Logger) (name : Plugin.GeneratorName) :
    unshown? level logger name v = unshown? level logger name w := by
  unfold unshown?
  rw [h]

/-- A name that could be shown in one record can be in one that is less important. -/
theorem unshown_of_le {level level' : Level} {logger logger' : Logger} {name : Plugin.GeneratorName}
    (h : unshown? level logger name w = none) (hle : level' ≤ level) (hl : v.logging = w.logging) :
    unshown? level' logger' name v = none := by
  cases name with
  | text name => rfl
  | method =>
    have hn : w.logging.takes ⟨level, logger, .empty⟩ = false := by simpa [unshown?] using h
    have hn' : w.logging.takes ⟨level', logger', .empty⟩ = false := by
      rw [Bool.eq_false_iff] at hn ⊢
      exact fun ht => hn (takes_of_le ht hle)
    rw [unshown_congr hl, unshown?, hn']
    rfl

/-- A generation fails as the name of its generator cannot be shown, for the want of references, or as the run of the
    generator does. -/
theorem generate_cases (p : Prepared) (g : Plugin.Generator) (hw : w.LogOpen) :
    match unshown? Level.info .run g.name w with
    | some e => ∃ v, generate r p g w = .error e v
    | none => match unreferenced? r w with
      | some e => ∃ v, generate r p g w = .error e v
      | none => ∃ base u, buildBase r p g w = .ok base u ∧
          match (Generation.run u.files ⟨base, p.options, p.texts⟩ g.script).fault u.session with
          | some e => ∃ v, generate r p g w = .error e v
          | none => ∃ result v, generate r p g w = .ok result v := by
  have hannounced := logNamed_cases Level.info .run g.name (announcement p.plugin) w
  cases hshown : unshown? Level.info .run g.name w with
  | some e =>
    rw [hshown] at hannounced
    exact ⟨w, Act.bind_error hannounced⟩
  | none =>
  rw [hshown] at hannounced
  obtain ⟨w₁, h₁⟩ := hannounced
  have ht := (Touching.logNamed _ _ _ _).told_of_ok hw h₁
  have hbuild : buildBase r p g w = _ := Act.bind_ok h₁
  have hgenerate : generate r p g w = _ := Act.bind_ok h₁
  have hrefs := references_cases r w₁
  rw [← unreferenced_congr ht.shape ht.host, unreferenced?]
  rw [hbuild, hgenerate]
  cases hr : referencesIn r w₁ with
  | error e =>
    rw [hr] at hrefs
    exact ⟨w₁, Act.bind_error hrefs⟩
  | ok rs =>
    rw [hr] at hrefs
    obtain ⟨w₂, h₂⟩ := hrefs
    rw [Act.bind_ok h₂, Act.bind_ok h₂, Act.get_bind]
    cases rs with
    | nil => exact ⟨_, rfl⟩
    | cons reference rs =>
      obtain ⟨base, hb⟩ : ∃ base, Generation.baseCompilation (reference :: rs) w₂.session =
        .ok base (w₂.session.withStamps 2) := ⟨_, rfl⟩
      refine ⟨base, _, onSession_of_ok hb, ?_⟩
      obtain ⟨hok, herror⟩ := Generation.execute_of_run w₂.files p.options p.texts g.script hb
      rw [Act.fault]
      cases hrun : Generation.run w₂.files ⟨base, p.options, p.texts⟩ g.script (w₂.session.withStamps 2) with
      | error e s => exact ⟨_, Act.bind_error (onSession_of_error (herror e s hrun))⟩
      | ok sink s =>
        obtain ⟨result, hexecute⟩ := hok sink s hrun
        -- The last record is less important than the first one, which showed the name already.
        have hlast := logNamed_cases Level.debug .generation g.name (fun name => remark name result.produced)
          { w₂ with session := s }
        have hlogging : ({ w₂ with session := s } : World).logging = w.logging :=
          ((Touching.references r).told_of_ok ht.logOpen h₂).logging.trans ht.logging
        rw [unshown_of_le hshown (by decide) hlogging] at hlast
        obtain ⟨w₃, h₃⟩ := hlast
        exact ⟨result, w₃, (Act.bind_ok (onSession_of_ok hexecute)).trans (Act.bind_ok h₃)⟩

theorem chooseGenerator_cases (r : Request) (m : Plugin.Module) (w : World) :
    match Plugin.resolve m with
    | .error e => chooseGenerator r m w = .error e w
    | .ok resolution => match Plugin.instantiate resolution.chosen with
      | .error e => ∃ v, chooseGenerator r m w = .error e v
      | .ok g => ∃ warnings v, chooseGenerator r m w = .ok (g, warnings) v := by
  cases hr : Plugin.resolve m with
  | error e =>
    have h : (Act.ofExcept (Plugin.resolve m) : Act World _) w = .error e w := by rw [hr]; rfl
    exact Act.bind_error h
  | ok resolution =>
    have h : (Act.ofExcept (Plugin.resolve m) : Act World _) w = .ok resolution w := by rw [hr]; rfl
    obtain ⟨w₁, h₁⟩ := logAll_ok Level.debug .plugins resolution.warning.toList w
    obtain ⟨w₂, h₂⟩ := warnAll_ok r.audience resolution.warning.toList w₁
    have hchoose : chooseGenerator r m w = _ := (Act.bind_ok h).trans ((Act.bind_ok h₁).trans (Act.bind_ok h₂))
    simp only []
    rw [hchoose]
    cases Plugin.instantiate resolution.chosen with
    | error e => exact ⟨w₂, rfl⟩
    | ok g => exact ⟨_, w₂, rfl⟩

/-- Once a generator is made it fails as its name cannot be shown, with the fault of the host, or with its own. -/
theorem generate_staged {p : Prepared} {m : Plugin.Module} {g : Plugin.Generator} {warnings : List Text} {v' : World}
    (hu : u.LogOpen) (hl : u.logging = w.logging) (hprepare : prepare r w = .ok p u)
    (hload : loadModule p.plugin u = .ok m v) (hchoose : chooseGenerator r m v = .ok (g, warnings) v')
    (hg : generator? r w u = some g) :
    match firstFault r w [.announcement, .host, .generation] with
    | some (_, e) => ∃ x, generate r p g v' = .error e x
    | none => ∃ result x, generate r p g v' = .ok result x := by
  obtain ⟨registry, hloaded⟩ := loadModule_eq_ok hu hload
  have ht := hloaded.trans ((Touching.chooseGenerator r m).told_of_ok hloaded.logOpen hchoose)
  -- The plug-in was imported meanwhile, but the libraries are found by the host and the files alone.
  have hhost : unreferenced? r v' = Stage.host.fault r w := by
    rw [Stage.fault, Act.after_of_ok hprepare]
    exact unreferenced_congr ht.shape ht.host r
  have hshown : unshown? Level.info .run g.name v' = Stage.announcement.fault r w := by
    rw [Stage.fault, Act.after_of_ok hprepare, hg, Option.bind_some, unshown_congr (ht.logging.trans hl)]
  have hgenerate := generate_cases (r := r) p g ht.logOpen
  rw [hshown, hhost] at hgenerate
  cases hf : Stage.announcement.fault r w with
  | some e =>
    rw [hf] at hgenerate
    rw [firstFault_of_some hf]
    exact hgenerate
  | none =>
  rw [hf] at hgenerate
  rw [firstFault_of_none hf]
  cases hf : Stage.host.fault r w with
  | some e =>
    rw [hf] at hgenerate
    rw [firstFault_of_some hf]
    exact hgenerate
  | none =>
    rw [hf] at hgenerate
    obtain ⟨base, x, hbase, hrun⟩ := hgenerate
    have hlaunch : launch r w = .ok (p, g, base) x :=
      (Act.bind_ok hprepare).trans ((Act.bind_ok hload).trans ((Act.bind_ok hchoose).trans (Act.bind_ok hbase)))
    have hgeneration : Stage.generation.fault r w =
        (Generation.run x.files ⟨base, p.options, p.texts⟩ g.script).fault x.session := by
      rw [Stage.fault, hlaunch]
    rw [← hgeneration] at hrun
    rw [firstFault_of_none hf]
    cases hf : Stage.generation.fault r w with
    | some e =>
      rw [hf] at hrun
      rw [firstFault_of_some hf]
      exact hrun
    | none =>
      rw [hf] at hrun
      rw [firstFault_of_none hf]
      exact hrun

/-- Once a run is prepared it fails with the fault of the first stage that has one. -/
theorem produce_staged {p : Prepared} (hu : u.LogOpen) (hl : u.logging = w.logging) (h : prepare r w = .ok p u)
    (hp : p.plugin = pluginPath r w) :
    match firstFault r w Stage.closing with
    | some (_, e) => ∃ v, produce r w = .error e v
    | none => ∃ produced v, produce r w = .ok produced v := by
  have hafter : (prepare r).after w = u := Act.after_of_ok h
  have hproduce : produce r w = _ := Act.bind_ok h
  rw [hproduce, Stage.closing]
  -- What the stages look at is what the run comes by: the module that is loaded, its choice, and the instance.
  cases hload : loadModule p.plugin u with
  | error e v =>
    have hf : Stage.loading.fault r w = some e := by rw [Stage.fault, hafter, Act.fault, ← hp, hload]
    rw [firstFault_of_some hf]
    exact ⟨v, Act.bind_error hload⟩
  | ok m v =>
    have hf : Stage.loading.fault r w = none := by rw [Stage.fault, hafter, Act.fault, ← hp, hload]
    have hloaded : loaded? r w u = some m := by rw [loaded?, ← hp, hload]
    have hchoice : Stage.choice.fault r w = failure? (Plugin.resolve m) := by
      rw [Stage.fault, hafter, hloaded, Option.bind_some]
    rw [firstFault_of_none hf, Act.bind_ok hload]
    have hchoose := chooseGenerator_cases r m v
    cases hr : Plugin.resolve m with
    | error e =>
      have hf : Stage.choice.fault r w = some e := by rw [hchoice, hr]; rfl
      rw [hr] at hchoose
      rw [firstFault_of_some hf]
      exact ⟨v, Act.bind_error hchoose⟩
    | ok resolution =>
      have hf : Stage.choice.fault r w = none := by rw [hchoice, hr]; rfl
      have hcreation : Stage.creation.fault r w = failure? (Plugin.instantiate resolution.chosen) := by
        rw [Stage.fault, hafter, hloaded, Option.bind_some, hr]
        rfl
      simp only [hr] at hchoose
      rw [firstFault_of_none hf]
      cases hi : Plugin.instantiate resolution.chosen with
      | error e =>
        have hf : Stage.creation.fault r w = some e := by rw [hcreation, hi]; rfl
        rw [hi] at hchoose
        obtain ⟨v', hc⟩ := hchoose
        rw [firstFault_of_some hf]
        exact ⟨v', Act.bind_error hc⟩
      | ok g =>
        have hf : Stage.creation.fault r w = none := by rw [hcreation, hi]; rfl
        rw [hi] at hchoose
        obtain ⟨warnings, v', hc⟩ := hchoose
        rw [firstFault_of_none hf, Act.bind_ok hc]
        have hg : generator? r w u = some g := by
          rw [generator?, hloaded, Option.bind_some, hr, Except.toOption, Option.bind_some, hi]
          rfl
        have hgenerate := generate_staged hu hl h hload hc hg
        split at hgenerate
        · obtain ⟨x, hx⟩ := hgenerate
          exact ⟨x, Act.bind_error hx⟩
        · obtain ⟨result, x, hx⟩ := hgenerate
          exact ⟨_, x, Act.bind_ok hx⟩

/-! ### The whole -/

theorem firstFault_append (stages stages' : List Stage) :
    firstFault r w (stages ++ stages') = (firstFault r w stages).or (firstFault r w stages') :=
  List.findSome?_append

theorem mem_of_firstFault {stages : List Stage} {stage : Stage} (h : firstFault r w stages = some (stage, e)) :
    stage ∈ stages := by
  obtain ⟨stage', hmem, hs⟩ := List.exists_of_findSome?_eq_some h
  obtain ⟨e', -, he⟩ := Option.map_eq_some_iff.mp hs
  exact (Prod.mk.inj he).1 ▸ hmem

/-- Where the end of a route has become a directory, so has all that was missing on the way to it. -/
theorem lookup_of_unwritten {route : Route} (h : Unwritten route w v) (hd : v.files.lookup route = some .directory)
    {x : Route} (hx : ¬w.Logs x) : v.files.lookup x =
      if x <+: route ∧ (w.files.lookup x).isNone then some .directory else w.files.lookup x := by
  split
  · next hmissing =>
    by_cases hne : x = route
    · rw [hne, hd]
    · exact FileTree.lookup_of_prefix hd hmissing.1 hne
  · next hthere =>
    rcases h.lookup x hx with he | ⟨hp, hn, -⟩
    · exact he
    · exact absurd ⟨hp, by rw [hn]; rfl⟩ hthere

/-- What follows once a run is prepared leaves the output directory. -/
theorem directory_of_produce {p : Prepared} (hu : u.LogOpen) (h : prepare r w = .ok p u)
    (hp : produce r w = .error e v) : v.files.lookup (outputPlace r w) = some .directory := by
  have hproduce : produce r w = _ := Act.bind_ok h
  rw [hproduce] at hp
  have hrest := (spares_produceFrom [] r p).error hu hp
  exact hrest.directory hu (directory_of_prepare h)

/-- A request that nothing is right about: it names settings and a plug-in that are not there, for a host without a
    library. -/
def doomed : Request :=
  { plainRequest with plugin := .ofText "absent.py", settings := some (.ofText "absent.yml"), references := none }

/-- A request for a plug-in that is not there, with settings that are. -/
def misdirected : Request := { plainRequest with plugin := .ofText "absent.py", settings := some (.ofText "h.yml") }

/-- A world with those settings. -/
def settled : World := .new ⟨[], [("h.yml", .file (.bytes []))]⟩ default

end Run
end GeneratorHost
