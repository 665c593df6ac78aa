import GeneratorHost.Generation
import GeneratorHost.Proofs.Session.Law

/-! The phases of a generation. A law of sessions that opening and sealing a context keep as well is kept by a
    phase, by a row of phases and by a whole run, which gives back what is in its sink then. -/

namespace GeneratorHost

namespace Session

/-- The session after a context was opened. -/
def withContext (s : Session) (role : Role) : Session := { s with contexts := s.contexts ++ [⟨role, false⟩] }

/-- The session after a context was sealed. -/
def withSealed (s : Session) (id : Nat) : Session :=
  { s with contexts := s.contexts.modify id fun c => { c with isSealed := true } }

/-- The session after a sink was opened. -/
def withSink (s : Session) : Session := { s with sinks := s.sinks ++ [⟨[], []⟩] }

/-- The session after stamps were given out. -/
def withStamps (s : Session) (n : Nat) : Session := { s with nextStamp := s.nextStamp + n }

end Session

namespace Generation
open Session

/-! ### The calls that return -/

/-- The calls that return in one phase. -/
def phaseCalls (files : FileTree) (inputs : Inputs) (role : Role) (script : Script) (s : Session) : List Call :=
  performAllCalls files (some inputs) (some s.contexts.length) script (s.withContext role)

/-- The calls that return in a row of phases. -/
def phasesCalls (files : FileTree) (inputs : Inputs) (role : Role) : List Script → Session → List Call
  | [], _ => []
  | script :: scripts, s =>
    phaseCalls files inputs role script s ++
      match phase files inputs role script s with
      | .ok _ t => phasesCalls files inputs role scripts t
      | .error _ _ => []

/-- The calls that return while a generator is run: those of its initialization, of the callbacks for
    post-initialization, and of those for source production. -/
def runCalls (files : FileTree) (inputs : Inputs) (script : Script) (s : Session) : List Call :=
  phaseCalls files inputs (.initialization inputs [] []) script s.withSink ++
    match phase files inputs (.initialization inputs [] []) script s.withSink with
    | .error _ _ => []
    | .ok context t =>
      phasesCalls files inputs (.postInitialization s.sinks.length) (t.callbacks context).1 t ++
        match phases files inputs (.postInitialization s.sinks.length) (t.callbacks context).1 t with
        | .error _ _ => []
        | .ok _ u => phasesCalls files inputs (.sourceProduction s.sinks.length) (t.callbacks context).2 u

/-- The calls that return in one whole generation. -/
def calls (files : FileTree) (references : List Reference) (options : Options Text) (texts : List AdditionalText)
    (script : Script) (s : Session) : List Call :=
  match baseCompilation references s with
  | .ok base t => runCalls files ⟨base, options, texts⟩ script t
  | .error _ _ => []

/-! ### The parts of a run -/

/-- What is left of a run after its initialization. -/
def runCallbacks (files : FileTree) (inputs : Inputs) (sink context : Nat) : Act Session Sink := do
  let (post, source) := (← get).callbacks context
  phases files inputs (.postInitialization sink) post
  phases files inputs (.sourceProduction sink) source
  return (← get).sink sink

theorem run_eq (files : FileTree) (inputs : Inputs) (script : Script) (s : Session) :
    run files inputs script s =
      (phase files inputs (.initialization inputs [] []) script >>=
        runCallbacks files inputs s.sinks.length) s.withSink := rfl

theorem runCallbacks_eq (files : FileTree) (inputs : Inputs) (sink context : Nat) (s : Session) :
    runCallbacks files inputs sink context s =
      (phases files inputs (.postInitialization sink) (s.callbacks context).1 >>= fun _ =>
        phases files inputs (.sourceProduction sink) (s.callbacks context).2 >>= fun _ => do
          return (← get).sink sink) s := rfl

/-! ### Laws over phases -/

section Phases
variable {files : FileTree} {inputs : Inputs} {inv : Session → Prop} {mayUse : Option Nat → Prop}
  {R : Session → List Call → Session → Prop} {role : Role} {s : Session}

theorem phase_eq (files : FileTree) (inputs : Inputs) (role : Role) (script : Script) (s : Session) :
    phase files inputs role script s =
      (performAll files (some inputs) (some s.contexts.length) script >>= fun _ => do
        Session.close s.contexts.length
        pure s.contexts.length) (s.withContext role) := rfl

theorem phase_law (L : Law (some inputs) inv mayUse R)
    (hopen : ∀ {s}, inv s → inv (s.withContext role) ∧ R s [] (s.withContext role) ∧ mayUse (some s.contexts.length))
    (hclose : ∀ {s id}, inv s → inv (s.withSealed id) ∧ R s [] (s.withSealed id)) (hs : inv s) (script : Script) :
    inv ((phase files inputs role script).after s) ∧
      R s (phaseCalls files inputs role script s) ((phase files inputs role script).after s) := by
  obtain ⟨ho, hr, hu⟩ := hopen hs
  obtain ⟨hp, hwhole⟩ :
      inv ((performAll files (some inputs) (some s.contexts.length) script).after (s.withContext role)) ∧
        R s (phaseCalls files inputs role script s)
          ((performAll files (some inputs) (some s.contexts.length) script).after (s.withContext role)) :=
    ⟨(L.performAll hu script ho).1, L.trans hr (L.performAll hu script ho).2⟩
  rw [Act.after, phase_eq, ← Act.after]
  cases h : performAll files (some inputs) (some s.contexts.length) script (s.withContext role) with
  | ok u t =>
    rw [Act.after_of_ok h] at hp hwhole
    obtain ⟨hc, hcr⟩ := @hclose _ s.contexts.length hp
    rw [Act.after_bind_of_ok h]
    exact ⟨hc, List.append_nil (phaseCalls files inputs role script s) ▸ L.trans hwhole hcr⟩
  | error e t =>
    rw [Act.after_of_error h] at hp hwhole
    rw [Act.after_bind_of_error h]
    exact ⟨hp, hwhole⟩

theorem phases_law (L : Law (some inputs) inv mayUse R)
    (hopen : ∀ {s}, inv s → inv (s.withContext role) ∧ R s [] (s.withContext role) ∧ mayUse (some s.contexts.length))
    (hclose : ∀ {s id}, inv s → inv (s.withSealed id) ∧ R s [] (s.withSealed id)) :
    ∀ (scripts : List Script) {s : Session}, inv s →
      inv ((phases files inputs role scripts).after s) ∧
        R s (phasesCalls files inputs role scripts s) ((phases files inputs role scripts).after s)
  | [], _, hs => L.stay hs rfl
  | script :: scripts, s, hs => by
    obtain ⟨hp, hr⟩ : inv ((phase files inputs role script).after s) ∧
      R s (phaseCalls files inputs role script s) ((phase files inputs role script).after s) :=
        phase_law L hopen hclose hs script
    rw [phasesCalls, phases]
    cases h : phase files inputs role script s with
    | ok context t =>
      rw [Act.after_of_ok h] at hp hr
      obtain ⟨hps, hrs⟩ := phases_law L hopen hclose scripts hp
      rw [Act.after_bind_of_ok h]
      exact ⟨hps, L.trans hr hrs⟩
    | error e t =>
      rw [Act.after_of_error h] at hp hr
      rw [Act.after_bind_of_error h, List.append_nil]
      exact ⟨hp, hr⟩

/-- The roles of the contexts that a run hands out, if it writes to a sink. -/
def IsRunRole (inputs : Inputs) (sink : Nat) (role : Role) : Prop :=
  role = .initialization inputs [] [] ∨ role = .postInitialization sink ∨ role = .sourceProduction sink

theorem IsRunRole.sink_eq {k sink : Nat} (h : IsRunRole inputs k role) (hs : role.sink? = some sink) : sink = k := by
  rcases h with rfl | rfl | rfl
  · cases hs
  · exact (Option.some.inj hs).symm
  · exact (Option.some.inj hs).symm

theorem IsRunRole.inputs_eq {k : Nat} {i : Inputs} (h : IsRunRole inputs k role) (hi : role.inputs? = some i) :
    i = inputs := by
  rcases h with rfl | rfl | rfl
  · exact (Option.some.inj hi).symm
  · cases hi
  · cases hi

/-- A law that opening and sealing the contexts of a run keep as well is kept by the run, however it ends. -/
theorem run_law (L : Law (some inputs) inv mayUse R) {k : Nat}
    (hopen : ∀ {role s}, IsRunRole inputs k role → inv s →
      inv (s.withContext role) ∧ R s [] (s.withContext role) ∧ mayUse (some s.contexts.length))
    (hclose : ∀ {s id}, inv s → inv (s.withSealed id) ∧ R s [] (s.withSealed id)) (hk : s.sinks.length = k)
    (hs : inv s.withSink) (script : Script) :
    inv ((run files inputs script).after s) ∧
      R s.withSink (runCalls files inputs script s) ((run files inputs script).after s) := by
  subst hk
  -- One phase after the other, each from the session that the one before it left; a failure ends the calls there.
  have hinit : inv ((phase files inputs (.initialization inputs [] []) script).after s.withSink) ∧
      R s.withSink (phaseCalls files inputs (.initialization inputs [] []) script s.withSink)
        ((phase files inputs (.initialization inputs [] []) script).after s.withSink) :=
    phase_law L (hopen (Or.inl rfl)) hclose hs script
  rw [Act.after, run_eq, ← Act.after, runCalls]
  cases h : phase files inputs (.initialization inputs [] []) script s.withSink with
  | error e t =>
    rw [Act.after_of_error h] at hinit
    rw [Act.after_bind_of_error h, List.append_nil]
    exact hinit
  | ok context t =>
    rw [Act.after_of_ok h] at hinit
    obtain ⟨ht, hr⟩ := hinit
    have hpost : inv ((phases files inputs (.postInitialization s.sinks.length) (t.callbacks context).1).after t) ∧
        R t (phasesCalls files inputs (.postInitialization s.sinks.length) (t.callbacks context).1 t)
          ((phases files inputs (.postInitialization s.sinks.length) (t.callbacks context).1).after t) :=
      phases_law L (hopen (Or.inr (Or.inl rfl))) hclose (t.callbacks context).1 ht
    rw [Act.after_bind_of_ok h, Act.after, runCallbacks_eq, ← Act.after]
    cases h' : phases files inputs (.postInitialization s.sinks.length) (t.callbacks context).1 t with
    | error e u =>
      rw [Act.after_of_error h'] at hpost
      rw [Act.after_bind_of_error h']
      simp only [h', List.append_nil]
      exact ⟨hpost.1, L.trans hr hpost.2⟩
    | ok _ u =>
      rw [Act.after_of_ok h'] at hpost
      have hsource : inv ((phases files inputs (.sourceProduction s.sinks.length) (t.callbacks context).2).after u) ∧
          R u (phasesCalls files inputs (.sourceProduction s.sinks.length) (t.callbacks context).2 u)
            ((phases files inputs (.sourceProduction s.sinks.length) (t.callbacks context).2).after u) :=
        phases_law L (hopen (Or.inr (Or.inr rfl))) hclose (t.callbacks context).2 hpost.1
      rw [Act.after_bind_of_ok h', Act.after_bind_of_forall_after fun _ _ => rfl]
      simp only [h']
      exact ⟨hsource.1, L.trans hr (L.trans hpost.2 hsource.2)⟩

end Phases

/-! ### Generations that return -/

section Returns
variable {files : FileTree} {inputs : Inputs} {script : Script} {s t : Session} {sink : Sink}

/-- A run that returns gives back what is in its sink then. -/
theorem sink_of_run (h : run files inputs script s = .ok sink t) : sink = t.sink s.sinks.length := by
  rw [run_eq] at h
  obtain ⟨context, s₁, -, h⟩ := Act.bind_eq_ok.mp h
  rw [runCallbacks_eq] at h
  obtain ⟨-, s₂, -, h⟩ := Act.bind_eq_ok.mp h
  obtain ⟨-, s₃, -, h⟩ := Act.bind_eq_ok.mp h
  cases h
  rfl

theorem baseCompilation_eq_ok {references : List Reference} {base : Compilation}
    (h : baseCompilation references s = .ok base t) :
    base = ⟨[⟨s.nextStamp, .placeholder⟩], references, s.nextStamp + 1⟩ ∧ t = s.withStamps 2 := by
  unfold baseCompilation at h
  cases hr : references.isEmpty with
  | true =>
    rw [hr] at h
    cases h
  | false =>
    rw [hr] at h
    cases h
    exact ⟨rfl, rfl⟩

theorem execute_eq_ok {references : List Reference} {options : Options Text} {texts : List AdditionalText}
    {result : Result} (h : execute files references options texts script s = .ok result t) :
    ∃ base sink s₁, baseCompilation references s = .ok base s₁ ∧
      run files ⟨base, options, texts⟩ script s₁ = .ok sink t ∧
      result.artifacts = (base.add sink.documents).newDocuments base ∧
      result.diagnostics = (base.add sink.documents).diagnostics ++ sink.diagnostics ∧
      result.produced = (result.artifacts.length, sink.diagnostics.length) := by
  obtain ⟨base, s₁, hb, h⟩ := Act.bind_eq_ok.mp h
  obtain ⟨⟨updated, reported⟩, s₂, hu, h⟩ := Act.bind_eq_ok.mp h
  obtain ⟨sink, s₃, hr, hu⟩ := Act.bind_eq_ok.mp hu
  cases hu
  cases h
  exact ⟨base, sink, s₁, hb, hr, rfl, rfl, rfl⟩

end Returns
end Generation
end GeneratorHost
