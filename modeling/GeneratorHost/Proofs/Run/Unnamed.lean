import GeneratorHost.Proofs.Generation.Texts
import GeneratorHost.Proofs.Plugin.Unnamed
import GeneratorHost.Proofs.Run.Alike

/-! Runs and the names that plug-ins give to their generators. Two worlds that differ in such names alone stay so at
    every step of a run, apart from what was said: no step but that of choosing a generator looks at a name, and what
    it chooses differs in the name alone. Names are said in records of information only; no log file is to take those,
    since a generator may read it. -/

namespace GeneratorHost

open Act

/-! ### Worlds that differ in names -/

/-- No record of information, and none of less, goes to a log file. -/
def World.Quiet (w : World) : Prop := ∀ r : Record, r.level ≤ Level.info → w.logging.inFile? r = none

/-- Two quiet worlds that differ in the names of generators, and in what was said about them. -/
structure World.Renamed (w v : World) : Prop where
  files : v.files.unnamed = w.files.unnamed
  host : v.host = w.host
  logging : v.logging = w.logging
  quiet : w.Quiet
  registry : v.registry.edited .unnaming = w.registry.edited .unnaming
  session : v.session = w.session
  tokens : v.tokens = w.tokens

namespace World

variable {w v : World}

/-- What was said leaves two worlds as alike as they were. -/
theorem Renamed.of_eq {w' v' : World} (h : Renamed w v) (hw : w'.files = w.files ∧ w'.host = w.host ∧
    w'.logging = w.logging ∧ w'.registry = w.registry ∧ w'.session = w.session ∧ w'.tokens = w.tokens)
    (hv : v'.files = v.files ∧ v'.host = v.host ∧ v'.logging = v.logging ∧ v'.registry = v.registry ∧
      v'.session = v.session ∧ v'.tokens = v.tokens) : Renamed w' v' := by
  obtain ⟨h₁, h₂, h₃, h₄, h₅, h₆⟩ := hw
  obtain ⟨h₁', h₂', h₃', h₄', h₅', h₆'⟩ := hv
  refine ⟨?_, ?_, ?_, ?_, ?_, ?_, ?_⟩
  · rw [h₁, h₁', h.files]
  · rw [h₂, h₂', h.host]
  · rw [h₃, h₃', h.logging]
  · exact fun r hr => h₃ ▸ h.quiet r hr
  · rw [h₄, h₄', h.registry]
  · rw [h₅, h₅', h.session]
  · rw [h₆, h₆', h.tokens]

/-- A record leaves two worlds as alike as they were. -/
theorem Renamed.logged (h : Renamed w v) (r : Record) : Renamed (w.logged r) (v.logged r) := by
  refine ⟨?_, h.host, h.logging, h.quiet, h.registry, h.session, h.tokens⟩
  have happend := FileTree.appendAt_mapContent Content.keepsBytes_unnamed.toBytes Content.keepsBytes_unnamed.bytes
  simp only [World.logged, h.logging]
  split
  · next route line _ =>
    show FileTree.mapContent _ _ = FileTree.mapContent _ _
    rw [← happend, ← happend]
    exact congrArg (·.appendAt route line) h.files
  · exact h.files

theorem likeness_renamed : Run.Likeness Renamed where
  plain {w v} h := by
    rw [← FileTree.plain_mapContent Content.keepsBytes_unnamed v.files,
      ← FileTree.plain_mapContent Content.keepsBytes_unnamed w.files]
    exact congrArg FileTree.plain h.files
  host h := h.host
  logging h := h.logging
  tokens h := h.tokens
  logged h r := h.logged r
  printed h _ := h.of_eq ⟨rfl, rfl, rfl, rfl, rfl, rfl⟩ ⟨rfl, rfl, rfl, rfl, rfl, rfl⟩
  warned h _ := h.of_eq ⟨rfl, rfl, rfl, rfl, rfl, rfl⟩ ⟨rfl, rfl, rfl, rfl, rfl, rfl⟩
  counted h _ := ⟨h.files, h.host, h.logging, h.quiet, h.registry, h.session, rfl⟩
  changed {w v} h attempt hb := by
    refine ⟨?_, h.host, h.logging, h.quiet, h.registry, h.session, h.tokens⟩
    show FileTree.mapContent _ _ = FileTree.mapContent _ _
    rw [← hb.fst Content.keepsBytes_unnamed, ← hb.fst Content.keepsBytes_unnamed]
    exact congrArg (fun t => (attempt t).1) h.files

theorem files_logged (h : w.Quiet) {r : Record} (hr : r.level ≤ Level.info) : (w.logged r).files = w.files := by
  simp only [World.logged, h r hr]

/-- Two records of information leave two worlds as alike as they were, whatever they say. -/
theorem matches_log_of_le {level : Level} (hl : level ≤ Level.info) {logger : Logger} {message message' : Text} :
    Matches Renamed (fun _ _ => True) (log level logger message) (log level logger message') := by
  refine matches_modify fun w v h => ?_
  have hv : v.Quiet := fun r hr => h.logging ▸ h.quiet r hr
  exact h.of_eq ⟨files_logged h.quiet hl, rfl, rfl, rfl, rfl, rfl⟩ ⟨files_logged hv hl, rfl, rfl, rfl, rfl, rfl⟩

section Steps
variable {α : Type}

theorem matches_onSession (step : Act Session α) :
    Matches Renamed (fun a b => b = a) (onSession step) (onSession step) := by
  refine (matches_self step).on (fun hr => hr.session) fun hr hs => ?_
  exact ⟨hr.files, hr.host, hr.logging, hr.quiet, hr.registry, hs, hr.tokens⟩

theorem matches_onRegistry {step step' step'' : Act Plugin.Registry α}
    (h : Commutes (Plugin.Registry.edited .unnaming) id step step'')
    (h' : Commutes (Plugin.Registry.edited .unnaming) id step' step'') :
    Matches Renamed (fun a b => b = a) (onRegistry step) (onRegistry step') := by
  refine (h.matches_of_eq h').on (fun hr => hr.registry) fun hr hs => ?_
  exact ⟨hr.files, hr.host, hr.logging, hr.quiet, hs, hr.session, hr.tokens⟩

end Steps

end World

/-! ### The stages of a run -/

namespace Run

open World (Renamed likeness_renamed matches_log_of_le)

theorem matches_loadModule (plugin : Path) :
    Matches Renamed (fun m m' => m'.edited .unnaming = m.edited .unnaming) (loadModule plugin) (loadModule plugin) := by
  refine matches_get.bind fun w v hr => ?_
  have hload := Plugin.Registry.commutes_load (E := .unnaming) w.files plugin
  have hload' := Plugin.Registry.commutes_load (E := .unnaming) v.files plugin
  rw [← FileTree.unnamed_eq] at hload hload'
  rw [hr.files] at hload'
  refine (World.matches_onRegistry hload hload').bind ?_
  rintro _ name rfl
  refine (likeness_renamed.matches_plain (.log _ _ _)).bind fun _ _ _ => matches_get.bind fun w v hr => ?_
  have hfind : (v.registry.find? name).map (Plugin.Module.edited .unnaming) =
      (w.registry.find? name).map (Plugin.Module.edited .unnaming) := by
    rw [← Plugin.Registry.find?_edited, ← Plugin.Registry.find?_edited, hr.registry]
  cases hw : w.registry.find? name with
  | none =>
    rw [hw, Option.map_none, Option.map_eq_none_iff] at hfind
    simp only [hfind]
    exact matches_throw _
  | some m =>
    rw [hw, Option.map_some, Option.map_eq_some_iff] at hfind
    obtain ⟨m', hv, hm⟩ := hfind
    simp only [hv]
    exact matches_pure hm

/-- The generators that are chosen differ in their names alone. -/
theorem matches_chooseGenerator (r : Request) {m m' : Plugin.Module} (hm : m'.edited .unnaming = m.edited .unnaming) :
    Matches Renamed (fun a b => b.1.unnamed = a.1.unnamed ∧ b.2 = a.2) (chooseGenerator r m)
      (chooseGenerator r m') := by
  have hresolve : (Plugin.resolve m').map (Plugin.Resolution.edited .unnaming) =
      (Plugin.resolve m).map (Plugin.Resolution.edited .unnaming) := by
    rw [← Plugin.resolve_edited, ← Plugin.resolve_edited, hm]
  refine (matches_ofExcept hresolve).bind fun res res' hres => ?_
  obtain ⟨hchosen, -, hwarning⟩ := Plugin.Resolution.mk.inj hres
  rw [hwarning]
  refine (likeness_renamed.matches_plain (.logAll _ _ _)).bind fun _ _ _ =>
    (likeness_renamed.matches_plain (.warnAll _ _)).bind fun _ _ _ => ?_
  have hinstantiate : (Plugin.instantiate res'.chosen).map Plugin.Generator.unnamed =
      (Plugin.instantiate res.chosen).map Plugin.Generator.unnamed := by
    rw [← Plugin.instantiate_unnamed, ← Plugin.instantiate_unnamed res.chosen, hchosen]
  exact (matches_ofExcept hinstantiate).bind fun g g' hg => matches_pure ⟨hg, rfl⟩

/-- What is said about a generator is said about one that differs in its name, or it cannot be said of either. -/
theorem matches_logNamed {level : Level} (hl : level ≤ Level.info) {logger : Logger} {name name' : Plugin.GeneratorName}
    (hn : name'.blank = name.blank) (message : Text → Text) :
    Matches Renamed (fun _ _ => True) (logNamed level logger name message) (logNamed level logger name' message) := by
  cases name with
  | text name =>
    cases name' with
    | text name' => exact matches_log_of_le hl
    | method => cases hn
  | method =>
    cases name' with
    | text name' => cases hn
    | method =>
      refine matches_get.bind fun w v hr => ?_
      rw [hr.logging]
      split
      · exact matches_throw _
      · exact matches_pure trivial

theorem matches_generate (r : Request) (p : Prepared) {g g' : Plugin.Generator} (hg : g'.unnamed = g.unnamed) :
    Matches Renamed (fun a b => b = a) (generate r p g) (generate r p g') := by
  obtain ⟨hname, -, hscript⟩ := Plugin.Generator.mk.inj hg
  refine (matches_logNamed (Nat.le_refl _) hname _).bind fun _ _ _ =>
    (likeness_renamed.matches_plain (.references r)).bind ?_
  rintro _ references rfl
  refine matches_get.bind fun w v hr => ?_
  have hexecute := Generation.execute_congr (fun t => (ofBytes_content t).eq (likeness_renamed.plain hr)) references
    p.options p.texts g.script
  simp only [hscript, hexecute]
  refine (World.matches_onSession _).bind ?_
  rintro _ result rfl
  exact (matches_logNamed (by decide) hname _).bind fun _ _ _ => matches_pure rfl

/-- What is told of two runs that differ in names: the same but for the name of the generator. -/
def Report.unnamed (report : Report) : Report := { report with generator := report.generator.blank }

/-- Two runs that differ in the names of generators end alike, with the same files but for those names. -/
theorem matches_run (r : Request) : Matches Renamed (fun a b => b.unnamed = a.unnamed) (run r) (run r) := by
  have hproduce : Matches Renamed
      (fun a b => b.1 = a.1 ∧ b.2.1.unnamed = a.2.1.unnamed ∧ b.2.2 = a.2.2) (produce r) (produce r) := by
    refine (likeness_renamed.matches_plain (.prepare (Or.inl rfl) r)).bind ?_
    rintro _ p rfl
    refine (matches_loadModule p.plugin).bind fun m m' hm => (matches_chooseGenerator r hm).bind ?_
    rintro ⟨g, ambiguities⟩ ⟨g', ambiguities'⟩ ⟨hg, rfl⟩
    refine (matches_generate r p hg).bind ?_
    rintro _ result rfl
    exact matches_pure ⟨rfl, hg, rfl⟩
  refine hproduce.bind ?_
  rintro ⟨p, g, warnings, result⟩ ⟨p', g', warnings', result'⟩ ⟨hp, hg, hrest⟩
  obtain rfl : p' = p := hp
  obtain ⟨rfl, rfl⟩ := Prod.mk.inj hrest
  replace hg : g'.unnamed = g.unnamed := hg
  obtain ⟨hname, hclass, -⟩ := Plugin.Generator.mk.inj hg
  simp only [hclass]
  refine (likeness_renamed.matches_plain (.writeArtifacts (Or.inl rfl) (Or.inr rfl) _ _ _)).bind ?_
  rintro _ written rfl
  exact matches_pure (congrArg (Report.mk · p'.output written result'.diagnostics warnings') hname)

end Run
end GeneratorHost
