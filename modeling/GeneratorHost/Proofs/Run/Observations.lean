import GeneratorHost.Proofs.Generation.Observations
import GeneratorHost.Proofs.Host
import GeneratorHost.Proofs.Run.Stages

/-! What a run shows to its generator: one document with nothing in it, the references, the options of the settings
    below the properties of the command line, and the texts by their resolved paths. Nothing that the generator does,
    before or after it looks, changes what it sees. -/

namespace GeneratorHost
namespace Run

open Generation (Observed observed_of_notes_eq)

variable {r : Request} {w v u : World} {may : Observation → Prop}

/-- The references that a compilation is built with: those given, or those of the host. -/
def builderReferences (r : Request) (host : Host) : List Reference :=
  r.references.getD (⟨Host.standardName, host.version, host.standardLibrary.getD .empty⟩ ::
    Host.references [Host.standardName] host.distributions)

/-- What a generator is to see of a run with the given settings. -/
def view (r : Request) (w : World) (settings : Settings) : Observation where
  documents := [.placeholder]
  references := builderReferences r w.host
  options := ((Options.ofPairs settings.options).mergedPairs (Property.parse r.properties).properties).toPairs
  texts := (r.text.toList ++ settings.texts).map fun p => (Path.ofRoute (p.route w.files.workingDirectory)).text
  documentOptions := 0

/-- What is resolved starts from the root and goes back nowhere. -/
theorem direct_of_mem_view {settings : Settings} {text : Text} (h : text ∈ (view r w settings).texts) :
    ∃ p : Path, p.Direct ∧ text = p.text := by
  obtain ⟨p, -, rfl⟩ := List.mem_map.mp h
  exact ⟨_, Path.direct_ofRoute _ _, rfl⟩

/-! ### What is prepared -/

theorem openTexts_eq_ok {t : FileTree} : ∀ {paths : List Path} {texts : List AdditionalText},
    openTexts t paths = .ok texts → texts = paths.map fun p => .file (.ofRoute (p.route t.workingDirectory))
  | [], _, h => (Except.ok.inj h).symm
  | path :: paths, texts, h => by
    rw [openTexts, AdditionalText.ofPath] at h
    cases hr : t.resolve path with
    | error e =>
      rw [hr] at h
      cases h
    | ok p =>
      rw [hr] at h
      cases ho : openTexts t paths with
      | error e =>
        rw [ho] at h
        cases h
      | ok rest =>
        rw [ho] at h
        cases h
        rw [List.map_cons, ← openTexts_eq_ok ho, ← FileTree.resolve_eq_ok hr]

/-- To tell something changes no working directory. -/
theorem Touching.workingDirectory_eq {α : Type} {step : Act World α} (h : Telling step) (w : World) :
    (step.after w).files.workingDirectory = w.files.workingDirectory := by
  refine h.keeps (R := fun w v => v.files.workingDirectory = w.files.workingDirectory)
    ⟨fun _ => rfl, fun h h' => h'.trans h, World.workingDirectory_logged, ?_, ?_, fun h => h.elim, fun h => h.elim,
      fun h => h.elim, fun h => h.elim⟩ w <;> intros <;> rfl

/-- What is prepared is taken from the settings, the properties and the paths of texts. -/
theorem view_of_prepareAt {plugin output : Path} {p : Prepared} (h : prepareAt r plugin output w = .ok p v) :
    ∃ settings u, Settings.load r.settings w = .ok settings u ∧
      p.options.toPairs = (view r w settings).options ∧
      p.texts.map AdditionalText.path = (view r w settings).texts := by
  obtain ⟨settings, w₁, hload, h⟩ := Act.bind_eq_ok.mp h
  obtain ⟨_, w₂, hlog, h⟩ := Act.bind_eq_ok.mp h
  obtain ⟨_, w₃, hwarn, h⟩ := Act.bind_eq_ok.mp h
  obtain ⟨texts, w₄, htexts, h⟩ := Act.bind_eq_ok.mp h
  obtain ⟨_, w₅, hcheck, h⟩ := Act.bind_eq_ok.mp h
  cases h
  -- Paths are resolved against the working directory, which nothing that is told changes.
  have hfiles : w₃.files.workingDirectory = w.files.workingDirectory := by
    rw [← Act.after_of_ok hwarn, Touching.workingDirectory_eq (Touching.warnAll _ _), ← Act.after_of_ok hlog,
      Touching.workingDirectory_eq (Touching.logAll _ _ _), ← Act.after_of_ok hload,
      Touching.workingDirectory_eq (Touching.load _)]
  refine ⟨settings, w₁, hload, rfl, ?_⟩
  rw [openTexts_eq_ok (World.ask_eq_ok htexts).1, hfiles, List.map_map]
  rfl

theorem view_of_prepare {p : Prepared} (h : prepare r w = .ok p v) :
    ∃ settings u, Settings.load r.settings w = .ok settings u ∧
      p.options.toPairs = (view r w settings).options ∧
      p.texts.map AdditionalText.path = (view r w settings).texts := by
  rw [prepare_eq] at h
  obtain ⟨plugin, w₁, hplugin, hrest⟩ := Act.bind_eq_ok.mp h
  obtain ⟨output, w₂, houtput, hat⟩ := Act.bind_eq_ok.mp hrest
  obtain ⟨-, rfl⟩ := World.ask_eq_ok hplugin
  obtain ⟨-, rfl⟩ := World.ask_eq_ok houtput
  exact view_of_prepareAt hat

theorem libraries_eq_ok {host : Host} {t : FileTree} {found : List Reference} (h : host.libraries t = .ok found) :
    found = ⟨Host.standardName, host.version, host.standardLibrary.getD .empty⟩ ::
      Host.references [Host.standardName] host.distributions := by
  rcases host.libraries_cases t with ⟨location, ⟨hs, -⟩, hl⟩ | ⟨location, -, hl⟩ | ⟨-, hl⟩
  · obtain rfl := Except.ok.inj (h.symm.trans hl)
    rw [hs, Host.discovered, ← Host.references_eq]
    rfl
  · cases h.symm.trans hl
  · cases h.symm.trans hl

theorem references_eq_ok {references : List Reference} (h : Run.references r w = .ok references v) :
    references = builderReferences r w.host := by
  unfold Run.references at h
  unfold builderReferences
  cases hr : r.references with
  | some given =>
    rw [hr] at h
    cases h
    rfl
  | none =>
    rw [hr] at h
    obtain ⟨w₁, w₂, hget, h⟩ := Act.bind_eq_ok.mp h
    cases hget
    obtain ⟨found, w₃, hask, h⟩ := Act.bind_eq_ok.mp h
    have hfound := (World.ask_eq_ok hask).1
    obtain ⟨_, w₄, hlog, h⟩ := Act.bind_eq_ok.mp h
    cases h
    exact libraries_eq_ok hfound

/-! ### Whole runs -/

/-- The steps that leave the session alone. -/
abbrev Sessionless {α : Type} (step : Act World α) : Prop := Touching (fun part => part ≠ .session) step

/-- Steps that leave the session alone show nothing. -/
theorem observed_of_sessionless {α : Type} {step : Act World α} (h : Sessionless step) (w : World) :
    Observed may w.session (step.after w).session :=
  observed_of_notes_eq (by rw [h.session_eq fun h => h rfl])

theorem observed_after_sessionless {α β : Type} {x : Act World α} {f : α → Act World β} (hx : Sessionless x)
    (hf : ∀ a v, x w = .ok a v → v.session = w.session → v.host = w.host →
      Observed may w.session ((f a).after v).session) :
    Observed may w.session ((x >>= f).after w).session := by
  cases h : x w with
  | ok a v =>
    have hs := hx.session_eq (fun h => h rfl) w
    have hh := hx.host_eq w
    rw [Act.after_of_ok h] at hs hh
    rw [Act.after_bind_of_ok h]
    exact hf a v h hs hh
  | error e v =>
    have hs : Observed may w.session (x.after w).session := observed_of_sessionless hx w
    rw [Act.after_of_error h] at hs
    rwa [Act.after_bind_of_error h]

theorem observed_before_sessionless {α β : Type} {x : Act World α} {f : α → Act World β}
    (hx : Observed may w.session (x.after w).session) (hf : ∀ a, Sessionless (f a)) :
    Observed may w.session ((x >>= f).after w).session := by
  cases h : x w with
  | ok a v =>
    rw [Act.after_of_ok h] at hx
    rw [Act.after_bind_of_ok h]
    exact hx.trans (observed_of_sessionless (hf a) v)
  | error e v =>
    rw [Act.after_of_error h] at hx
    rwa [Act.after_bind_of_error h]

/-- What may be observed in a generation over given references, options and texts. -/
def Shown (references : List Reference) (p : Prepared) (s : Session) (o : Observation) : Prop :=
  o = ⟨[.placeholder], references, p.options.toPairs, p.texts.map AdditionalText.path, 0⟩ ∨
    ∃ i, s.KeepsInputs i ∧ o = Session.observe i

theorem observed_generate (r : Request) (p : Prepared) (g : Plugin.Generator) (w : World) :
    Observed (Shown (builderReferences r w.host) p w.session) w.session ((generate r p g).after w).session := by
  refine observed_after_sessionless (.logNamed _ _ _ _) fun _ w₁ _ hs₁ hh₁ => ?_
  rw [← hs₁, ← hh₁]
  refine observed_after_sessionless (.references r) fun found w₂ hfound hs₂ _ => ?_
  rw [← hs₂, ← references_eq_ok hfound]
  refine observed_after_sessionless (.get nofun) fun w₃ w₄ hget hs₃ _ => ?_
  cases hget
  refine observed_before_sessionless ?_ fun result => .bind (.logNamed _ _ _ _) fun _ => .pure _
  rw [World.onSession, Act.after_on]
  exact Generation.observed_execute w₂.files found p.options p.texts g.script w₂.session

/-- A plug-in whose generator keeps its context, and first looks through the one that it kept before. -/
def remembering : World := withPlugin none [.within "i" [.observe true], .save "i"]

def withProperty (p : Text) : Request := { plainRequest with properties := [p] }

/-- The world after its first run. -/
def remembered : World := (run (withProperty "K=first")).after remembering

end Run
end GeneratorHost
