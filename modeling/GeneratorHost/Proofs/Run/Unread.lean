import GeneratorHost.Proofs.Generation.Reads
import GeneratorHost.Proofs.Run.Containment
import GeneratorHost.Proofs.Run.Faults
import GeneratorHost.Proofs.World.Apart

/-! Runs whose generator reads no text. A text that is not read is a path and nothing more: what is at that path, or
    whether anything is, makes no difference to the run, as long as the run has no other use for it. -/

namespace GeneratorHost

variable {aside : Route → Prop} {place : Route} {t u : FileTree} {p : Path}

/-! ### Questions -/

namespace Settings

/-- The path of the settings file, whether there is one or not. -/
def pathIn (workingDirectory : Route) (path : Option Path) : Path :=
  path.getD ((Path.ofRoute workingDirectory).child fileName)

theorem read_same (h : FileTree.SameBut aside t u) (hp : ¬aside (p.placeFrom t.workingDirectory))
    (hf : t.isFile p = .ok true) : read u p = read t p := by
  obtain ⟨entry, he⟩ := FileTree.entryAt_of_isFile hf
  rw [read, read, FileTree.readText, FileTree.readText, h.read hp he, h.resolve]

theorem find?_eq (t : FileTree) : find? t none = t.checkStart (.ofText ".") >>= fun _ =>
    (t.isFile (pathIn t.workingDirectory none)).map fun there =>
      if there then some (pathIn t.workingDirectory none) else none := by
  show (t.checkStart (.ofText ".") >>= fun _ => t.isFile (pathIn t.workingDirectory none) >>= _) = _
  cases t.checkStart (.ofText ".") with
  | error e => rfl
  | ok u =>
    cases t.isFile (pathIn t.workingDirectory none) with
    | error e => rfl
    | ok there => cases there <;> rfl

theorem find?_eq_ok (h : find? t none = .ok (some p)) :
    p = pathIn t.workingDirectory none ∧ t.isFile p = .ok true := by
  rw [find?_eq] at h
  cases hs : t.checkStart (.ofText ".") with
  | error e =>
    rw [hs] at h
    cases h
  | ok u =>
    rw [hs] at h
    cases hf : t.isFile (pathIn t.workingDirectory none) with
    | error e =>
      rw [hf] at h
      cases h
    | ok there =>
      rw [hf] at h
      cases there with
      | false => cases h
      | true =>
        cases h
        exact ⟨rfl, hf⟩

end Settings

theorem AdditionalText.content_same (h : FileTree.SameBut aside t u) (text : AdditionalText)
    (hp : ∀ path, text = .file path → ∀ x, aside x → ¬path.OnWay t.workingDirectory x) :
    text.content u = text.content t := by
  cases text with
  | file path =>
    rw [content, content, FileTree.readText, FileTree.readText, FileTree.read, FileTree.read, FileTree.stat,
      FileTree.stat, h.locate (hp path rfl)]
  | inMemory path text => rfl

theorem Host.libraries_same {host : Host} (h : FileTree.SameBut aside t u)
    (hl : ∀ location, host.standardLibrary = some location →
      ¬aside ((Path.ofText location).placeFrom t.workingDirectory)) : host.libraries u = host.libraries t := by
  rw [libraries, libraries]
  cases hs : host.standardLibrary with
  | none => rfl
  | some location => simp only [h.isDirectory (hl location hs)]

namespace Run

open Act
open World (Beside Kept)

variable {r : Request} {w₀ w v : World}

theorem openTexts_same (h : FileTree.SameBut aside t u) : ∀ paths, openTexts u paths = openTexts t paths
  | [] => rfl
  | path :: paths => by
    rw [openTexts, openTexts, AdditionalText.ofPath, AdditionalText.ofPath, h.resolve, openTexts_same h paths]

/-! ### Stages side by side -/

section Telling
variable (h : Beside aside place w₀ w v)
include h

theorem abreast_warn (audience : Audience) (message : Text) :
    Abreast (Beside aside place w₀) (warn audience message) (warn audience message) w v := by
  cases audience with
  | log => exact World.abreast_log h _ _ _
  | caller => exact World.abreast_tell h message
  | terminal => exact World.abreast_printError h _

theorem abreast_warnAll (audience : Audience) (messages : List Text) :
    Abreast (Beside aside place w₀) (warnAll audience messages) (warnAll audience messages) w v := by
  induction messages generalizing w v with
  | nil => exact abreast_pure _ h
  | cons message messages ih => exact (abreast_warn h audience message).bind fun _ _ _ _ h' => ih h'

theorem abreast_logAll (level : Level) (logger : Logger) (messages : List Text) :
    Abreast (Beside aside place w₀) (logAll level logger messages) (logAll level logger messages) w v := by
  induction messages generalizing w v with
  | nil => exact abreast_pure _ h
  | cons message messages ih => exact (World.abreast_log h level logger message).bind fun _ _ _ _ h' => ih h'

end Telling

theorem abreast_loadFile (h : Beside aside place w₀ w v) (hp : ¬aside (p.placeFrom w₀.files.workingDirectory))
    (hf : w.files.isFile p = .ok true) :
    Abreast (Beside aside place w₀) (Settings.loadFile p) (Settings.loadFile p) w v := by
  refine (World.abreast_log h _ _ _).bind fun _ w₁ v₁ hlog h₁ => ?_
  -- The record that was made turns no file into something else.
  have hf₁ : w₁.files.isFile p = .ok true := by
    cases hlog
    rw [(FileTree.ofShape_isFile p).eq (World.shape_logged _ _), hf]
  refine (World.abreast_ask h₁ (Settings.read_same h₁.same.files ?_ hf₁)).bind fun _ _ _ _ h₂ => ?_
  · rwa [h₁.kept.workingDirectory]
  · exact (World.abreast_log h₂ _ _ _).bind fun _ _ _ _ h₃ => abreast_pure _ h₃

theorem abreast_settings (h : Beside aside place w₀ w v) (path : Option Path)
    (hp : ¬aside ((Settings.pathIn w₀.files.workingDirectory path).placeFrom w₀.files.workingDirectory)) :
    Abreast (Beside aside place w₀) (Settings.load path) (Settings.load path) w v := by
  have hd := h.kept.workingDirectory
  have hsame : v.files.isFile (Settings.pathIn w₀.files.workingDirectory path) =
      w.files.isFile (Settings.pathIn w₀.files.workingDirectory path) := h.same.files.isFile (hd ▸ hp)
  cases path with
  | some path =>
    refine (World.abreast_ask h hsame).bind fun there w₁ v₁ hask h₁ => ?_
    obtain ⟨hf, rfl⟩ := World.ask_eq_ok hask
    cases there with
    | true => exact abreast_loadFile h₁ hp hf
    | false => exact abreast_throw _ h₁
  | none =>
    have hfind : Settings.find? v.files none = Settings.find? w.files none := by
      rw [Settings.find?_eq, Settings.find?_eq, h.same.files.checkStart, h.same.files.workingDirectory, hd, hsame]
    refine (World.abreast_ask h hfind).bind fun found w₁ v₁ hask h₁ => ?_
    obtain ⟨hfound, rfl⟩ := World.ask_eq_ok hask
    cases found with
    | none => exact abreast_pure _ h₁
    | some path =>
      obtain ⟨rfl, hf⟩ := Settings.find?_eq_ok hfound
      rw [hd] at hf ⊢
      exact abreast_loadFile h₁ hp hf

/-! ### Where a run looks -/

/-- The run has no use for what is set aside: it is not the plug-in nor in it, not the settings file, not the standard
    library, and neither on the way to the output directory nor in it. -/
structure Elsewhere (aside : Route → Prop) (r : Request) (w : World) : Prop where
  plugin : ∀ x, aside x → ¬(pluginPath r w).place <+: x
  settings : ¬aside ((Settings.pathIn w.files.workingDirectory r.settings).placeFrom w.files.workingDirectory)
  library : r.references = none → ∀ location, w.host.standardLibrary = some location →
    ¬aside ((Path.ofText location).placeFrom w.files.workingDirectory)
  output : ∀ x, aside x → ¬x <+: outputPlace r w ∧ ¬outputPlace r w <+: x

/-- The generator of a run, if the run gets that far, reads no text with what is set aside on the way to it. A generator
    that reads no text at all is one of that kind. -/
def Unread (aside : Route → Prop) (r : Request) (w : World) : Prop :=
  ∀ p g base v, launch r w = .ok (p, g, base) v →
    ∀ path, .file path ∈ Generation.runReads v.files ⟨base, p.options, p.texts⟩ g.script v.session →
      ∀ x, aside x → ¬path.OnWay w.files.workingDirectory x

/-- A step goes alike in the worlds that two runs of one request have come to. -/
abbrev GoesAlike {α : Type} (aside : Route → Prop) (r : Request) (w₀ : World) (step : Act World α) (w v : World) :
    Prop :=
  Abreast (Beside aside (pluginPath r w₀).place w₀) step step w v

theorem direct_pluginPath (r : Request) (w : World) : (pluginPath r w).Direct := Path.direct_ofRoute _ _

theorem direct_outputPath (r : Request) (w : World) : (outputPath r w).Direct := Path.direct_ofRoute _ _

section Stages
variable (he : Elsewhere aside r w₀) (h : Beside aside (pluginPath r w₀).place w₀ w v)
include he h

theorem abreast_checkPaths : GoesAlike aside r w₀ (checkPaths (pluginPath r w₀) (outputPath r w₀)) w v := by
  have hplugin : v.files.exists (pluginPath r w₀) = w.files.exists (pluginPath r w₀) := by
    refine h.same.files.exists ?_
    rw [(direct_pluginPath r w₀).placeFrom_eq]
    exact fun ha => he.plugin _ ha (List.prefix_refl _)
  have houtput : ∀ {w v}, Beside aside (pluginPath r w₀).place w₀ w v →
      v.files.isDirectory (outputPath r w₀) = w.files.isDirectory (outputPath r w₀) := fun h => by
    refine h.same.files.isDirectory ?_
    rw [(direct_outputPath r w₀).placeFrom_eq]
    exact fun ha => (he.output _ ha).1 (List.prefix_refl _)
  rw [checkPaths_eq]
  refine (World.abreast_ask h hplugin).bind fun there _ _ _ h₁ => ?_
  cases there with
  | false => exact abreast_throw _ h₁
  | true =>
    refine (World.abreast_ask h₁ (houtput h₁)).bind fun there _ _ _ h₂ => ?_
    cases there with
    | true => exact abreast_pure _ h₂
    | false =>
      exact (World.abreast_log h₂ _ _ _).bind fun _ _ _ _ h₃ =>
        World.abreast_makeDirectory h₃ (direct_outputPath r w₀) fun x hx => (he.output x hx).1

theorem abreast_prepare : GoesAlike aside r w₀ (prepare r) w v := by
  have hresolve : ∀ {w v}, Beside aside (pluginPath r w₀).place w₀ w v → ∀ p, v.files.resolve p = w.files.resolve p :=
    fun h p => h.same.files.resolve p
  rw [prepare_eq]
  refine (World.abreast_ask h (hresolve h _)).bind fun plugin w₁ v₁ hplugin h₁ => ?_
  obtain ⟨hplugin, rfl⟩ := World.ask_eq_ok hplugin
  obtain rfl : plugin = pluginPath r w₀ := by rw [FileTree.resolve_eq_ok hplugin, h.kept.workingDirectory, pluginPath]
  refine (World.abreast_ask h₁ (hresolve h₁ _)).bind fun output w₂ v₂ houtput h₂ => ?_
  obtain ⟨houtput, rfl⟩ := World.ask_eq_ok houtput
  obtain rfl : output = outputPath r w₀ := by rw [FileTree.resolve_eq_ok houtput, h.kept.workingDirectory, outputPath]
  refine (abreast_settings h₂ r.settings he.settings).bind fun settings _ _ _ h₃ => ?_
  refine (abreast_logAll h₃ _ _ _).bind fun _ _ _ _ h₄ => (abreast_warnAll h₄ _ _).bind fun _ _ _ _ h₅ => ?_
  -- The texts are paths so far, which depend on the working directory alone.
  refine (World.abreast_ask h₅ (openTexts_same h₅.same.files _)).bind fun texts _ _ _ h₆ => ?_
  exact (abreast_checkPaths he h₆).bind fun _ _ _ _ h₇ => abreast_pure _ h₇

theorem abreast_loadModule : GoesAlike aside r w₀ (loadModule (pluginPath r w₀)) w v := by
  refine Abreast.get_bind ?_
  refine (World.abreast_load h (direct_pluginPath r w₀) rfl he.plugin).bind fun name _ _ _ h₁ => ?_
  refine (World.abreast_log h₁ _ _ _).bind fun _ w₂ v₂ _ h₂ => Abreast.get_bind ?_
  have hregistry : v₂.registry = w₂.registry := by rw [h₂.same.rest]
  rw [hregistry]
  cases w₂.registry.find? name with
  | some m => exact abreast_pure m h₂
  | none => exact abreast_throw _ h₂

omit he in
theorem abreast_chooseGenerator (m : Plugin.Module) : GoesAlike aside r w₀ (chooseGenerator r m) w v :=
  (abreast_ofExcept _ h).bind fun _ _ _ _ h₁ => (abreast_logAll h₁ _ _ _).bind fun _ _ _ _ h₂ =>
    (abreast_warnAll h₂ _ _).bind fun _ _ _ _ h₃ => (abreast_ofExcept _ h₃).bind fun _ _ _ _ h₄ => abreast_pure _ h₄

theorem abreast_references : GoesAlike aside r w₀ (references r) w v := by
  rw [GoesAlike, references]
  cases hr : r.references with
  | some references => exact abreast_pure references h
  | none =>
    refine Abreast.get_bind ?_
    have hhost : v.host = w.host := by rw [h.same.rest]
    have hlibraries : w.host.libraries v.files = w.host.libraries w.files :=
      Host.libraries_same h.same.files fun location hl => by
        rw [h.kept.workingDirectory]
        exact he.library hr location (h.kept.host ▸ hl)
    rw [hhost]
    exact (World.abreast_ask h hlibraries).bind fun _ _ _ _ h₁ => (World.abreast_log h₁ _ _ _).bind fun _ _ _ _ h₂ =>
      abreast_pure _ h₂

omit he in
theorem abreast_logNamed (level : Level) (logger : Logger) (name : Plugin.GeneratorName) (message : Text → Text) :
    GoesAlike aside r w₀ (logNamed level logger name message) w v := by
  cases name with
  | text name => exact World.abreast_log h _ _ _
  | method =>
    refine Abreast.get_bind ?_
    have hlogging : v.logging = w.logging := by rw [h.same.rest]
    rw [hlogging]
    split
    · exact abreast_throw _ h
    · exact abreast_pure _ h

/-- A generator that reads no text that is set aside does the same in both worlds. -/
theorem abreast_generate {p : Prepared} {g : Plugin.Generator}
    (hu : ∀ base u, buildBase r p g w = .ok base u →
      ∀ path, .file path ∈ Generation.runReads u.files ⟨base, p.options, p.texts⟩ g.script u.session →
        ∀ x, aside x → ¬path.OnWay w₀.files.workingDirectory x) :
    GoesAlike aside r w₀ (generate r p g) w v := by
  refine (abreast_logNamed h _ _ _ _).bind fun _ w₁ v₁ hlog h₁ => ?_
  refine (abreast_references he h₁).bind fun references w₂ v₂ hreferences h₂ => Abreast.get_bind ?_
  have hexecute : Generation.execute v₂.files references p.options p.texts g.script w₂.session =
      Generation.execute w₂.files references p.options p.texts g.script w₂.session := by
    refine Generation.execute_of_reads fun base s hbase text htext => ?_
    have hbuild : buildBase r p g w = .ok base { w₂ with session := s } :=
      (Act.bind_ok hlog).trans ((Act.bind_ok hreferences).trans (onSession_of_ok hbase))
    refine text.content_same h₂.same.files fun path hpath => ?_
    rw [h₂.kept.workingDirectory]
    exact hu base _ hbuild path (hpath ▸ htext)
  refine (World.abreast_onSession h₂ hexecute).bind fun result _ _ _ h₃ => ?_
  exact (abreast_logNamed h₃ _ _ _ _).bind fun _ _ _ _ h₄ => abreast_pure _ h₄

end Stages

/-! ### Whole runs -/

theorem plugin_of_prepare {p : Prepared} (hw : w.LogOpen) (h : prepare r w = .ok p v) : p.plugin = pluginPath r w := by
  have hprepare := prepare_staged r hw
  cases hf : firstFault r w (Stage.opening ++ [.output]) with
  | some found =>
    obtain ⟨stage, e⟩ := found
    rw [hf] at hprepare
    obtain ⟨v', hv, -⟩ := hprepare
    cases hv.symm.trans h
  | none =>
    rw [hf] at hprepare
    obtain ⟨options, texts, v', hv⟩ := hprepare
    cases hv.symm.trans h
    rfl

theorem abreast_produce (he : Elsewhere aside r w) (hu : Unread aside r w)
    (h : Beside aside (pluginPath r w).place w w v) : GoesAlike aside r w (produce r) w v := by
  refine (abreast_prepare he h).bind fun p w₁ v₁ hp h₁ => ?_
  have hload := abreast_loadModule he h₁
  rw [← plugin_of_prepare h.kept.logOpen hp] at hload
  refine hload.bind fun m w₂ v₂ hm h₂ => (abreast_chooseGenerator h₂ m).bind fun chosen w₃ v₃ hchosen h₃ => ?_
  obtain ⟨g, ambiguities⟩ := chosen
  refine (abreast_generate he h₃ fun base u hbase => hu p g base u ?_).bind fun result _ _ _ h₄ => abreast_pure _ h₄
  exact (Act.bind_ok hp).trans ((Act.bind_ok hm).trans ((Act.bind_ok hchosen).trans (Act.bind_ok hbase)))

theorem abreast_run (he : Elsewhere aside r w) (hu : Unread aside r w)
    (h : Beside aside (pluginPath r w).place w w v) : GoesAlike aside r w (run r) w v := by
  refine (abreast_produce he hu h).bind fun produced w₁ v₁ hproduced h₁ => ?_
  obtain ⟨p, g, warnings, result⟩ := produced
  obtain ⟨houtput, -⟩ := produce_eq_ok h.kept.logOpen hproduced
  have hwrite := World.abreast_writeArtifacts (direct_outputPath r w) he.output g.className
    (result.artifacts.map (·.source)) h₁
  rw [outputPath, ← houtput] at hwrite
  exact hwrite.bind fun _ _ _ _ h₂ => abreast_pure _ h₂

/-- No run changes what is set aside, unless its log goes there. -/
theorem lookup_after_run (hw : w.LogOpen)
    (ho : ∀ x, aside x → ¬x <+: outputPlace r w ∧ ¬outputPlace r w <+: x) {x : Route} (hx : aside x)
    (hl : ¬w.Logs x) : ((run r).after w).files.lookup x = w.files.lookup x := by
  cases confined_after r hw hl with
  | kept h => exact h
  | made hp => exact absurd hp (ho x hx).1
  | written name _ hname => exact absurd (hname ▸ List.prefix_append _ _) (ho x hx).2

/-- Texts are read when they are asked for and not before. In two worlds that differ in regular files alone, those behind
    texts or any others, a run goes the same way if it has no other use for these files and its generator reads no text
    that is one of them: it comes to the same result or the same failure, everything is as in the other world afterwards
    but these files, and these are as they were. What was observed is in the sessions, which are the same. -/
theorem run_unread (hw : w.LogOpen) (hv : v.LogOpen) (hr : w.registry.Reached) (hs : World.SameBut aside w v)
    (he : Elsewhere aside r w) (hi : Plugin.ImportsByName w.files (pluginPath r w).place) (hu : Unread aside r w) :
    Abreast (World.SameBut aside) (produce r) (produce r) w v ∧
      Abreast (World.SameBut aside) (run r) (run r) w v ∧
      ∀ x, aside x → ¬w.Logs x → ((run r).after w).files.lookup x = w.files.lookup x ∧
        ((run r).after v).files.lookup x = v.files.lookup x := by
  have hbeside : Beside aside (pluginPath r w).place w w v := ⟨hs, .refl hw hr hi⟩
  have hout : ∀ x, aside x → ¬x <+: outputPlace r v ∧ ¬outputPlace r v <+: x := by
    rw [outputPlace, hs.files.workingDirectory]
    exact he.output
  have hlogs : ∀ x, v.Logs x ↔ w.Logs x := World.logs_congr (by rw [hs.rest])
  refine ⟨(abreast_produce he hu hbeside).mono fun _ _ h => h.same, (abreast_run he hu hbeside).mono fun _ _ h => h.same,
    fun x hx hl => ⟨lookup_after_run hw he.output hx hl, lookup_after_run hv hout hx ?_⟩⟩
  rwa [hlogs]

/-- A plug-in whose generator observes its inputs and adds a document. -/
def observing : World := withPlugin none [.observe false, .source [.add (.text "A") (.text "1")]]

def textRoute : Route := ["t.txt"]

/-- The same world with a text in it that cannot be decoded. -/
def spoilt : World := { observing with files := observing.files.put textRoute (.file (.bytes [0xFF])) }

def withText : Request := { plainRequest with text := some (.ofText "t.txt") }

theorem sameBut_spoilt : World.SameBut (· = textRoute) observing spoilt := by
  have hnone : observing.files.lookup textRoute ≠ some .directory := fun h => by cases h
  have hlookup := FileTree.lookup_put (List.cons_ne_nil _ _) rfl hnone (.file (.bytes [0xFF]))
  refine ⟨rfl, rfl, fun x hx => (hlookup x).trans (if_neg hx), ?_, ?_⟩
  · rintro x rfl
    exact hnone
  · rintro x rfl h
    cases ((hlookup textRoute).trans (if_pos rfl)).symm.trans h

theorem elsewhere_textRoute : Elsewhere (· = textRoute) withText observing := by
  have hplugin : (pluginPath withText observing).place = ["g.py"] := by decide
  have houtput : outputPlace withText observing = ["out"] := by decide
  refine ⟨?_, by decide, fun hr => absurd hr (Option.some_ne_none _), ?_⟩
  · rintro x rfl
    rw [hplugin]
    decide
  · rintro x rfl
    rw [houtput]
    decide

theorem importsByName_observing :
    Plugin.ImportsByName observing.files (pluginPath withText observing).place := by
  have hplugin : (pluginPath withText observing).place = ["g.py"] := by decide
  rw [hplugin]
  rintro x statements ⟨rest, rfl⟩ hl
  cases rest with
  | nil =>
    cases hl
    exact List.forall_mem_singleton.mpr trivial
  | cons name rest => cases hl

theorem unread_observing : Unread (· = textRoute) withText observing := by
  intro p g base v hlaunch path hpath
  have hreads : ((launch withText).value? observing).map (fun launched =>
      Generation.runReads ((launch withText).after observing).files
        ⟨launched.2.2, launched.1.options, launched.1.texts⟩ launched.2.1.script
        ((launch withText).after observing).session) = some [] := by decide +kernel
  rw [Act.value?_of_ok hlaunch, Act.after_of_ok hlaunch] at hreads
  have hnone : Generation.runReads v.files ⟨base, p.options, p.texts⟩ g.script v.session = [] :=
    Option.some.inj hreads
  rw [hnone] at hpath
  exact absurd hpath List.not_mem_nil

/-- Whether the text is missing or spoilt, the run succeeds and writes the same, and so the text stays. -/
theorem run_unread_spoilt :
    observing.LogOpen ∧ spoilt.LogOpen ∧ observing.registry.Reached ∧
      World.SameBut (· = textRoute) observing spoilt ∧ Elsewhere (· = textRoute) withText observing ∧
      Plugin.ImportsByName observing.files (pluginPath withText observing).place ∧
      Unread (· = textRoute) withText observing ∧
      ∃ report w' v', run withText observing = .ok report w' ∧ run withText spoilt = .ok report v' ∧
        report.written = 1 ∧ World.SameBut (· = textRoute) w' v' ∧ w'.files.lookup textRoute = none ∧
        v'.files.lookup textRoute = some (.file (.bytes [0xFF])) := by
  have hw : observing.LogOpen := World.logOpen_new _ _
  have hv : spoilt.LogOpen := World.logOpen_new _ _
  have hlog : ¬observing.Logs textRoute := by
    rintro ⟨handler, hf, -⟩
    cases hf
  obtain ⟨-, hrun, hkept⟩ := run_unread hw hv .empty sameBut_spoilt elsewhere_textRoute importsByName_observing
    unread_observing
  obtain ⟨hkept, hkept'⟩ := hkept textRoute rfl hlog
  have hwritten : ((run withText).value? observing).map (·.written) = some 1 := by decide +kernel
  rcases hrun with ⟨report, w', v', hok, hok', hsame⟩ | ⟨e, w', v', herror, -⟩
  · rw [Act.value?_of_ok hok] at hwritten
    rw [Act.after_of_ok hok] at hkept
    rw [Act.after_of_ok hok'] at hkept'
    exact ⟨hw, hv, .empty, sameBut_spoilt, elsewhere_textRoute, importsByName_observing, unread_observing,
      report, w', v', hok, hok', Option.some.inj hwritten, hsame, hkept, hkept'⟩
  · rw [Act.value?, herror] at hwritten
    cases hwritten

end Run
end GeneratorHost
