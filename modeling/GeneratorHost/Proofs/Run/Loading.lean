import GeneratorHost.Proofs.Plugin.Origin
import GeneratorHost.Proofs.Run.Stages

/-! The check of the plug-in path, twice in a run: it is there before the output directory is made, so it is still there when
    the plug-in is loaded. -/

namespace GeneratorHost
namespace Run

open Plugin (Accepts Within initial origin)
open Plugin.Registry (Reached Execution)
open World (Unwritten)

variable {w v : World} {r : Request}

/-- What stands at a path still stands there after directories were made and records were written. -/
theorem lookup_of_exists {route : Route} {p : Path} (hu : Unwritten route w v) (hd : p.Direct) (ha : p.anchor = .root)
    (h : w.files.exists p = .ok true) : p.Nameable ∧ p.Fits ∧ v.files.lookup p.place ≠ none := by
  obtain ⟨e, he⟩ := FileTree.entryAt_of_exists h
  obtain ⟨hn, hf⟩ := FileTree.nameable_of_entryAt hd he
  rw [FileTree.entryAt_of_direct hd ha hn, if_pos hf] at he
  refine ⟨hn, hf, ?_⟩
  -- A plug-in that is the log file itself may hold other bytes by now.
  by_cases hl : w.Logs p.place
  · obtain ⟨content, hc⟩ := hu.logOpen p.place ((World.logs_congr hu.logging _).mpr hl)
    rw [hc]
    exact Option.some_ne_none _
  · rw [World.lookup_of_isSome hu hl (Except.ok.inj he)]
    exact Option.some_ne_none _

/-- When everything is prepared, the plug-in is there. -/
theorem exists_plugin_of_prepare {p : Prepared} (hw : w.LogOpen) (h : prepare r w = .ok p v) :
    p.plugin.Direct ∧ p.plugin.anchor = .root ∧ p.plugin.Nameable ∧ p.plugin.Fits ∧
      v.files.lookup p.plugin.place ≠ none := by
  rw [prepare_eq] at h
  obtain ⟨plugin, w₁, hplugin, h⟩ := Act.bind_eq_ok.mp h
  obtain ⟨output, w₂, houtput, h⟩ := Act.bind_eq_ok.mp h
  obtain ⟨hp, rfl⟩ := World.ask_eq_ok hplugin
  obtain ⟨ho, rfl⟩ := World.ask_eq_ok houtput
  obtain rfl := FileTree.resolve_eq_ok hp
  obtain rfl := FileTree.resolve_eq_ok ho
  obtain ⟨settings, w₃, hload, h⟩ := Act.bind_eq_ok.mp h
  obtain ⟨_, w₄, hlog, h⟩ := Act.bind_eq_ok.mp h
  obtain ⟨_, w₅, hwarn, h⟩ := Act.bind_eq_ok.mp h
  obtain ⟨texts, w₆, htexts, h⟩ := Act.bind_eq_ok.mp h
  obtain ⟨_, w₇, hcheck, h⟩ := Act.bind_eq_ok.mp h
  cases h
  have h₃ := ((Touching.load _).spares []).ok hw hload
  have h₄ := ((Touching.logAll _ _ _).spares []).ok h₃.logOpen hlog
  have h₅ := ((Touching.warnAll _ _).spares []).ok h₄.logOpen hwarn
  have h₆ := (World.spares_ask [] _).ok h₅.logOpen htexts
  rw [checkPaths_eq] at hcheck
  obtain ⟨there, w₇, hask, hcheck⟩ := Act.bind_eq_ok.mp hcheck
  obtain ⟨hthere, rfl⟩ := World.ask_eq_ok hask
  cases there with
  | false => cases hcheck
  | true =>
    have h₇ := (spares_requireOutput (Path.direct_ofRoute _ _)).ok h₆.logOpen hcheck
    exact ⟨Path.direct_ofRoute _ _, rfl, lookup_of_exists h₇ (Path.direct_ofRoute _ _) rfl hthere⟩

/-- A plug-in is refused by its path alone, and then nothing is executed, named or registered: nothing is there, or what is
    there is neither a package nor a file of the right suffix, or the path is too long to be looked up. Every other path
    is executed under a new name. In a run the plug-in is never missing when it is loaded. -/
theorem plugin_path_checks {files : FileTree} {p q : Path} {registry : Plugin.Registry} (hr : Reached registry)
    (hq : files.resolve p = .ok q) (hn : q.Nameable) :
    (¬q.Fits → registry.refuses files p (.os .nameTooLong q.text)) ∧
    (q.Fits →
      (registry.refuses files p (.moduleMissing q.text) ↔ files.lookup q.place = none) ∧
      (registry.refuses files p (.plugin (.unsupported q.text)) ↔
        (∃ content, files.lookup q.place = some (.file content)) ∧ q.suffix ≠ ".py") ∧
      (registry.refuses files p (.plugin (.notPackage q.text)) ↔
        files.lookup q.place = some .directory ∧ (initial q).Fits ∧
          ∀ content, files.lookup (initial q).place ≠ some (.file content)) ∧
      (registry.refuses files p (.os .nameTooLong (initial q).text) ↔
        files.lookup q.place = some .directory ∧ ¬(initial q).Fits) ∧
      ((∀ e, ¬registry.refuses files p e) ↔ ∃ o, Accepts files q o) ∧
      ∀ o, Accepts files q o →
        let x : Execution := ⟨files, q, o, registry⟩
        x.name = Plugin.moduleName q (registry.issued + 1) ∧ (∀ m ∈ registry.modules, ¬Within x.name m.name) ∧
          ∃ content, files.lookup o.file.place = some (.file content) ∧
            Plugin.Registry.load files p registry = (do
              Plugin.Registry.orRemoveOrdinary x.name do
                let statements ← Act.ofExcept (Plugin.Registry.statements content)
                Plugin.Registry.executeAll x.load x.name statements
              pure x.name) x.start) ∧
    ∀ (r : Request) (w v : World) (prepared : Prepared), w.LogOpen → prepare r w = .ok prepared v →
      v.files.resolve prepared.plugin = .ok prepared.plugin ∧
        ∀ path, origin v.files prepared.plugin ≠ .error (.moduleMissing path) := by
  obtain rfl := FileTree.resolve_eq_ok hq
  have hd := Path.direct_ofRoute files.workingDirectory p
  obtain ⟨-, hnamed⟩ := hr.sound_named
  have hrefuses := fun e => Plugin.Registry.refuses_iff (r := registry) (e := e) hq
  refine ⟨fun hf => (hrefuses _).mpr (Plugin.origin_of_long hd rfl hn hf), fun hf => ?_, fun r w v prepared hw h => ?_⟩
  · have herror := fun e => (hrefuses e).trans (Plugin.origin_eq_error_iff hd rfl hn hf)
    refine ⟨?_, ?_, ?_, ?_, ?_, fun o ho => ?_⟩
    · simp [herror]
    · simp [herror]
    · simp [herror]
    · simp [herror]
    · -- The check of the path comes to a refusal or to an origin, and never to both.
      simp only [hrefuses, Plugin.accepts_iff hd rfl hn hf]
      cases origin files _ with
      | error e => simp
      | ok o => simp
    · obtain ⟨hfree, hload⟩ := Plugin.Registry.load_of_accepts hnamed hq hd rfl hn hf ho
      exact ⟨rfl, hfree, hload⟩
  · -- The plug-in was found when the paths were checked, and nothing has been taken away since.
    obtain ⟨hd, ha, hn, hf, hthere⟩ := exists_plugin_of_prepare hw h
    refine ⟨FileTree.resolve_of_direct hd ha hn _, fun path hmissing => ?_⟩
    rcases (Plugin.origin_eq_error_iff hd ha hn hf).mp hmissing with ⟨hnone, -⟩ | ⟨-, he⟩ | ⟨-, he⟩ | ⟨-, he⟩
    · exact hthere hnone
    · cases he
    · cases he
    · cases he

/-- A path of names that are short enough, which is too long as a whole. Each letter has four bytes. -/
def longPath : Path := .ofRoute (List.replicate 17 ⟨List.replicate 63 (.char (Char.ofNat 0x1F600))⟩)

/-- Nothing is at the long path, and still it is not said to be missing. -/
theorem plugin_path_checks_long :
    let registry := Plugin.Registry.empty
    let files := (withPlugin none []).files
    files.lookup longPath.place = none ∧ registry.refuses files longPath (.os .nameTooLong longPath.text) ∧
      registry.refuses files (.ofText "g.pyc") (.moduleMissing (Path.ofRoute ["g.pyc"]).text) ∧
      (∃ o, Accepts files (.ofRoute ["g.py"]) o) ∧
      ∃ prepared v, prepare plainRequest (withPlugin none []) = .ok prepared v ∧
        ∀ path, origin v.files prepared.plugin ≠ .error (.moduleMissing path) := by
  intro registry files
  have hdirect : longPath.Direct := ⟨rfl, by decide +kernel⟩
  have hlong : longPath.Nameable := by
    intro name hn
    rw [List.eq_of_mem_replicate hn]
    refine ⟨FileTree.exists_bytesOf_iff.mpr fun l hl => ?_, by decide +kernel⟩
    rw [List.eq_of_mem_replicate hl]
    exact ⟨_, rfl, by decide +kernel⟩
  have hshort : Path.Nameable (.ofRoute ["g.pyc"]) := by
    intro name hn
    rw [List.mem_singleton.mp hn]
    exact ⟨⟨_, rfl⟩, by decide⟩
  have hnone : files.lookup longPath.place = none := by decide +kernel
  obtain ⟨htoo, -⟩ := plugin_path_checks .empty (FileTree.resolve_of_direct hdirect rfl hlong files) hlong
  have hresolve : files.resolve (.ofText "g.pyc") = .ok (.ofRoute ["g.pyc"]) := rfl
  obtain ⟨-, hfits, hrun⟩ := plugin_path_checks .empty hresolve hshort
  obtain ⟨hmissing, -⟩ := hfits (by decide +kernel)
  have hprepared : (match prepare plainRequest (withPlugin none []) with
      | .ok _ _ => true
      | .error _ _ => false) = true := by decide +kernel
  refine ⟨hnone, htoo (by decide +kernel), hmissing.mpr (by decide +kernel), ⟨_, .file rfl (by decide)⟩, ?_⟩
  cases h : prepare plainRequest (withPlugin none []) with
  | ok prepared v => exact ⟨prepared, v, rfl, (hrun _ _ _ _ (World.logOpen_new _ _) h).2⟩
  | error e v =>
    rw [h] at hprepared
    cases hprepared

end Run
end GeneratorHost
