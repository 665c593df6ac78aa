import GeneratorHost.Proofs.Generation.Reporting
import GeneratorHost.Proofs.Generation.Texts
import GeneratorHost.Proofs.Plugin.EditImport
import GeneratorHost.Proofs.Run.Alike

/-! Runs whose scripts report other diagnostics in the same places. Two worlds that differ in such diagnostics alone
    stay so at every step of a run: modules are loaded and generators are chosen without a look at them, and what a
    generation produces, what is said about it and what is written does not depend on them. -/

namespace GeneratorHost

open Act

/-! ### Worlds that differ in diagnostics -/

/-- Reporting other diagnostics, as an edit of classes. -/
def Plugin.Edit.reporting (σ : Fields → Fields) : Plugin.Edit where
  shownName := id
  script := Script.reporting σ
  script_nil := rfl
  script_noScript := rfl

/-- A world whose scripts, wherever they are, report what `σ` makes of the fields that stand there. -/
def World.reporting (σ : Fields → Fields) (w : World) : World :=
  { w with
    files := w.files.edited (.reporting σ)
    registry := w.registry.edited (.reporting σ)
    session := { w.session with contexts := w.session.contexts.map (Context.reporting σ) } }

/-- Two worlds that differ in the diagnostics in certain places, and in what was said of these on the terminal. -/
structure World.Alike (σ τ : Fields → Fields) (w v : World) : Prop where
  files : ∃ files : FileTree, w.files = files.edited (.reporting σ) ∧ v.files = files.edited (.reporting τ)
  host : v.host = w.host
  logging : v.logging = w.logging
  records : v.records = w.records
  registry : ∃ registry : Plugin.Registry,
    w.registry = registry.edited (.reporting σ) ∧ v.registry = registry.edited (.reporting τ)
  session : w.session.Alike σ τ v.session
  tokens : v.tokens = w.tokens
  warned : v.warned = w.warned

variable {σ τ : Fields → Fields} {w v : World}

namespace World

theorem alike_reporting (w : World) : Alike σ τ (w.reporting σ) (w.reporting τ) where
  files := ⟨w.files, rfl, rfl⟩
  host := rfl
  logging := rfl
  records := rfl
  registry := ⟨w.registry, rfl, rfl⟩
  session := ⟨⟨w.session.contexts, rfl, rfl⟩,
    List.forall₂_same.mpr fun _ _ => ⟨rfl, List.forall₂_same.mpr fun _ _ => Or.inl rfl⟩, rfl, rfl, rfl⟩
  tokens := rfl
  warned := rfl

theorem Alike.logged (h : Alike σ τ w v) (r : Record) : Alike σ τ (w.logged r) (v.logged r) := by
  have happend : ∀ (ρ : Fields → Fields) (files : FileTree) (route : Route) (line : Text),
      (files.edited (.reporting ρ)).appendAt route line = (files.appendAt route line).edited (.reporting ρ) :=
    fun _ files => FileTree.appendAt_mapContent Content.keepsBytes_edited.toBytes Content.keepsBytes_edited.bytes files
  obtain ⟨files, hw, hv⟩ := h.files
  refine { h with files := ?_, records := congrArg (· ++ [r]) h.records }
  simp only [World.logged, h.logging, hw, hv]
  split
  · next route line _ => exact ⟨files.appendAt route line, happend σ files route line, happend τ files route line⟩
  · exact ⟨files, rfl, rfl⟩

theorem likeness_alike : Run.Likeness (Alike σ τ) where
  plain {w v} h := by
    obtain ⟨files, hw, hv⟩ := h.files
    rw [hw, hv]
    exact (FileTree.plain_mapContent Content.keepsBytes_edited files).trans
      (FileTree.plain_mapContent Content.keepsBytes_edited files).symm
  host h := h.host
  logging h := h.logging
  tokens h := h.tokens
  logged h r := h.logged r
  printed h _ := { h with }
  warned h message := { h with warned := congrArg (· ++ [message]) h.warned }
  counted h _ := { h with tokens := rfl }
  changed {w v} h attempt hb := by
    obtain ⟨files, hw, hv⟩ := h.files
    refine { h with files := ⟨(attempt files).1, ?_, ?_⟩ }
    · rw [hw]
      exact hb.fst Content.keepsBytes_edited files
    · rw [hv]
      exact hb.fst Content.keepsBytes_edited files

section Steps
variable {α β : Type}

theorem matches_onAlikeSession {Q : α → β → Prop} {x : Act Session α} {y : Act Session β}
    (h : Session.MatchesAlike σ τ Q x y) : Matches (Alike σ τ) Q (onSession x) (onSession y) :=
  h.on (fun hr => hr.session) fun hr hs => { hr with session := hs }

theorem matches_edited {step step' step'' : Act Plugin.Registry α}
    (h : Commutes (Plugin.Registry.edited (.reporting σ)) id step step')
    (h' : Commutes (Plugin.Registry.edited (.reporting τ)) id step step'') :
    Matches (Alike σ τ) (fun a b => b = a) (onRegistry step') (onRegistry step'') :=
  (h.matches h').on (fun hr => hr.registry) fun hr hs => { hr with registry := hs }

end Steps
end World

/-! ### The stages of a run -/

namespace Run

open World (Alike likeness_alike)

theorem matches_loadReporting (plugin : Path) :
    Matches (Alike σ τ)
      (fun m m' => ∃ n : Plugin.Module, m = n.edited (.reporting σ) ∧ m' = n.edited (.reporting τ))
      (loadModule plugin) (loadModule plugin) := by
  refine matches_get.bind fun w v hr => ?_
  obtain ⟨files, hw, hv⟩ := hr.files
  rw [hw, hv]
  refine (World.matches_edited (Plugin.Registry.commutes_load files plugin)
    (Plugin.Registry.commutes_load files plugin)).bind ?_
  rintro _ name rfl
  refine (likeness_alike.matches_plain (.log _ _ _)).bind fun _ _ _ => matches_get.bind fun w v hr => ?_
  obtain ⟨registry, hw, hv⟩ := hr.registry
  rw [hw, hv, Plugin.Registry.find?_edited, Plugin.Registry.find?_edited]
  cases registry.find? name with
  | none => exact matches_throw _
  | some n => exact matches_pure ⟨n, rfl, rfl⟩

/-- Two generators that differ in the diagnostics in certain places alone. -/
structure GeneratorsAlike (σ τ : Fields → Fields) (g g' : Plugin.Generator) : Prop where
  name : g'.name = g.name
  className : g'.className = g.className
  script : ∃ script : Script, g.script = script.reporting σ ∧ g'.script = script.reporting τ

theorem instantiate_reporting (c : Plugin.Class) :
    Plugin.instantiate (c.edited (.reporting σ)) =
      (Plugin.instantiate c).map fun g => { g with script := g.script.reporting σ } := by
  rw [Plugin.instantiate_edited]
  cases h : Plugin.instantiate c with
  | error e => rfl
  | ok g =>
    -- The name that the class gives to its generators is kept.
    have hname : (c.shownName.map (Plugin.GeneratorName.edited (.reporting σ))).getD (.text c.name) = g.name := by
      rw [Plugin.name_of_instantiate h]
      cases c.shownName with
      | none => rfl
      | some name => cases name <;> rfl
    exact congrArg (fun name => Except.ok (Plugin.Generator.mk name g.className (g.script.reporting σ))) hname

theorem matches_instantiate (c : Plugin.Class) :
    Matches (Alike σ τ) (GeneratorsAlike σ τ) (Act.ofExcept (Plugin.instantiate (c.edited (.reporting σ))))
      (Act.ofExcept (Plugin.instantiate (c.edited (.reporting τ)))) := by
  rw [instantiate_reporting, instantiate_reporting]
  cases Plugin.instantiate c with
  | error e => exact matches_throw e
  | ok g => exact matches_pure ⟨rfl, rfl, g.script, rfl, rfl⟩

theorem matches_chooseReporting (r : Request) (m : Plugin.Module) :
    Matches (Alike σ τ) (fun a b => GeneratorsAlike σ τ a.1 b.1 ∧ b.2 = a.2)
      (chooseGenerator r (m.edited (.reporting σ))) (chooseGenerator r (m.edited (.reporting τ))) := by
  unfold chooseGenerator
  rw [Plugin.resolve_edited, Plugin.resolve_edited]
  cases Plugin.resolve m with
  | error e => exact (matches_throw (Q := fun _ _ => False) e).bind fun _ _ => False.elim
  | ok resolution =>
    refine (likeness_alike.matches_plain (.logAll _ _ _)).bind fun _ _ _ =>
      (likeness_alike.matches_plain (.warnAll _ _)).bind fun _ _ _ => ?_
    exact (matches_instantiate resolution.chosen).bind fun g g' hg => matches_pure ⟨hg, rfl⟩

theorem matches_generateReporting (h : Interchangeable σ τ) (r : Request) (p : Prepared) {g g' : Plugin.Generator}
    (hg : GeneratorsAlike σ τ g g') :
    Matches (Alike σ τ) (Generation.Result.Alike σ τ) (generate r p g) (generate r p g') := by
  obtain ⟨script, hscript, hscript'⟩ := hg.script
  unfold generate
  rw [hg.name, hscript, hscript']
  refine (likeness_alike.matches_plain (.logNamed _ _ _ _)).bind fun _ _ _ =>
    (likeness_alike.matches_plain (.references r)).bind ?_
  rintro _ references rfl
  refine matches_get.bind fun w v hr => ?_
  -- A generation reads texts, and the files hold the same bytes in both worlds.
  have hfiles := Generation.execute_congr (fun t => (ofBytes_content t).eq (likeness_alike.plain hr)) references
    p.options p.texts (script.reporting τ)
  simp only [hfiles]
  have hexecute := Generation.matches_execute h w.files references p.options p.texts script
  refine (World.matches_onAlikeSession hexecute).bind fun result result' hresult => ?_
  rw [hresult.produced]
  exact (likeness_alike.matches_plain (.logNamed _ _ _ _)).bind fun _ _ _ => matches_pure hresult

/-- What two runs come to that differ in the diagnostics in certain places alone. -/
structure Report.Alike (σ τ : Fields → Fields) (a b : Report) : Prop where
  generator : b.generator = a.generator
  output : b.output = a.output
  written : b.written = a.written
  warnings : b.warnings = a.warnings
  diagnostics : List.Forall₂ (Stands σ τ) a.diagnostics b.diagnostics

/-- Two runs that differ in diagnostics alone end alike. -/
theorem matches_runReporting (h : Interchangeable σ τ) (r : Request) :
    Matches (World.Alike σ τ) (Report.Alike σ τ) (run r) (run r) := by
  have hproduce : Matches (World.Alike σ τ)
      (fun a b => b.1 = a.1 ∧ GeneratorsAlike σ τ a.2.1 b.2.1 ∧ b.2.2.1 = a.2.2.1 ∧
        Generation.Result.Alike σ τ a.2.2.2 b.2.2.2) (produce r) (produce r) := by
    refine (likeness_alike.matches_plain (.prepare (Or.inl rfl) r)).bind ?_
    rintro _ p rfl
    refine (matches_loadReporting p.plugin).bind ?_
    rintro _ _ ⟨m, rfl, rfl⟩
    refine (matches_chooseReporting r m).bind ?_
    rintro ⟨g, _⟩ ⟨g', ambiguities⟩ ⟨hg, rfl⟩
    exact (matches_generateReporting h r p hg).bind fun _ _ hresult => matches_pure ⟨rfl, hg, rfl, hresult⟩
  refine hproduce.bind ?_
  rintro ⟨p, g, warnings, result⟩ ⟨p', g', warnings', result'⟩ ⟨hp, hg, hwarnings, hresult⟩
  -- The artifacts are written from what is the same in both: the output directory, the class and the documents.
  simp only [] at hp hg hwarnings hresult
  simp only [hp, hg.className, hg.name, hwarnings, hresult.artifacts]
  refine (likeness_alike.matches_plain (.writeArtifacts (Or.inl rfl) (Or.inr rfl) _ _ _)).bind ?_
  rintro _ written rfl
  exact matches_pure ⟨rfl, rfl, rfl, rfl, hresult.diagnostics⟩

end Run
end GeneratorHost
