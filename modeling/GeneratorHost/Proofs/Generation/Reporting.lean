import GeneratorHost.Generation
import GeneratorHost.Proofs.Session.Reporting

/-! Generations whose scripts report other diagnostics in the same places. They go the same way, produce the same
    documents, and have as many diagnostics to show, which differ in these places alone. -/

namespace GeneratorHost
namespace Generation

open Act Session

variable {σ τ : Fields → Fields}

theorem matches_baseCompilation (references : List Reference) :
    MatchesAlike σ τ (fun a b => b = a) (baseCompilation references) (baseCompilation references) := by
  cases references with
  | nil => exact matches_throw _
  | cons reference references =>
    refine matches_freshStamp.bind ?_
    rintro _ stamp rfl
    refine matches_freshStamp.bind ?_
    rintro _ assembly rfl
    exact matches_pure rfl

theorem matches_phase (h : Interchangeable σ τ) (files : FileTree) (inputs : Inputs) (role : Role) (script : Script) :
    MatchesAlike σ τ (fun a b => b = a) (phase files inputs (role.reporting σ) (script.reporting σ))
      (phase files inputs (role.reporting τ) (script.reporting τ)) := by
  refine (matches_openContext role).bind ?_
  rintro _ context rfl
  exact (matches_performAll h files (some inputs) (some context) script).bind fun _ _ _ =>
    (matches_close context).bind fun _ _ _ => matches_pure rfl

theorem matches_phases (h : Interchangeable σ τ) (files : FileTree) (inputs : Inputs) (role : Role) :
    ∀ scripts : List Script, MatchesAlike σ τ (fun _ _ => True)
      (phases files inputs (role.reporting σ) (scripts.map (Script.reporting σ)))
      (phases files inputs (role.reporting τ) (scripts.map (Script.reporting τ)))
  | [] => matches_pure trivial
  | script :: scripts =>
    (matches_phase h files inputs role script).bind fun _ _ _ => matches_phases h files inputs role scripts

theorem callbacks_alike {s t : Session} (hr : Alike σ τ s t) (context : Nat) :
    ∃ post source : List Script,
      s.callbacks context = (post.map (Script.reporting σ), source.map (Script.reporting σ)) ∧
      t.callbacks context = (post.map (Script.reporting τ), source.map (Script.reporting τ)) := by
  obtain ⟨contexts, hs, ht⟩ := hr.contexts
  unfold callbacks
  rw [hs, ht, List.getElem?_map, List.getElem?_map]
  cases contexts[context]? with
  | none => exact ⟨[], [], rfl, rfl⟩
  | some c =>
    obtain ⟨role, isSealed⟩ := c
    cases role with
    | initialization inputs post source => exact ⟨post, source, rfl, rfl⟩
    | postInitialization sink => exact ⟨[], [], rfl, rfl⟩
    | sourceProduction sink => exact ⟨[], [], rfl, rfl⟩

theorem sink_alike {s t : Session} (hr : Alike σ τ s t) (sink : Nat) : Sink.Alike σ τ (s.sink sink) (t.sink sink) := by
  unfold Session.sink
  have hlength := hr.sinks.length_eq
  by_cases hi : sink < s.sinks.length
  · rw [List.getElem?_eq_getElem hi, List.getElem?_eq_getElem (hlength ▸ hi)]
    exact hr.sinks.get hi (hlength ▸ hi)
  · rw [List.getElem?_eq_none (Nat.le_of_not_lt hi), List.getElem?_eq_none (hlength ▸ Nat.le_of_not_lt hi)]
    exact ⟨rfl, .nil⟩

theorem matches_run (h : Interchangeable σ τ) (files : FileTree) (inputs : Inputs) (script : Script) :
    MatchesAlike σ τ (Sink.Alike σ τ) (run files inputs (script.reporting σ))
      (run files inputs (script.reporting τ)) := by
  refine matches_openSink.bind ?_
  rintro _ sink rfl
  refine (matches_phase h files inputs (.initialization inputs [] []) script).bind ?_
  rintro _ context rfl
  refine matches_get.bind fun s t hr => ?_
  -- What was registered in the one session is what was registered in the other, with its places filled otherwise.
  obtain ⟨post, source, hs, ht⟩ := callbacks_alike hr context
  rw [hs, ht]
  refine (matches_phases h files inputs (.postInitialization sink) post).bind fun _ _ _ =>
    (matches_phases h files inputs (.sourceProduction sink) source).bind fun _ _ _ => ?_
  exact matches_get.bind fun s t hr => matches_pure (sink_alike hr sink)

/-- What two generations come to that differ in the diagnostics in certain places alone. -/
structure Result.Alike (σ τ : Fields → Fields) (a b : Result) : Prop where
  artifacts : b.artifacts = a.artifacts
  diagnostics : List.Forall₂ (Stands σ τ) a.diagnostics b.diagnostics
  produced : b.produced = a.produced

theorem matches_execute (h : Interchangeable σ τ) (files : FileTree) (references : List Reference)
    (options : Options Text) (texts : List AdditionalText) (script : Script) :
    MatchesAlike σ τ (Result.Alike σ τ) (execute files references options texts (script.reporting σ))
      (execute files references options texts (script.reporting τ)) := by
  refine (matches_baseCompilation references).bind ?_
  rintro _ base rfl
  have hupdate : MatchesAlike σ τ (fun a b => b.1 = a.1 ∧ List.Forall₂ (Stands σ τ) a.2 b.2)
      (update files ⟨base, options, texts⟩ (script.reporting σ))
      (update files ⟨base, options, texts⟩ (script.reporting τ)) :=
    (matches_run h files _ script).bind fun a b hsink => matches_pure ⟨by rw [hsink.documents], hsink.diagnostics⟩
  refine hupdate.bind ?_
  rintro ⟨_, reported⟩ ⟨updated, reported'⟩ ⟨rfl, hreported⟩
  -- The diagnostics of the compilation come from its documents, and only those that were reported may differ.
  have hcompiled : List.Forall₂ (Stands σ τ) updated.diagnostics updated.diagnostics :=
    List.forall₂_same.mpr fun _ _ => Or.inl rfl
  exact matches_pure ⟨rfl, List.rel_append hcompiled hreported, by rw [hreported.length_eq]⟩

end Generation
end GeneratorHost
