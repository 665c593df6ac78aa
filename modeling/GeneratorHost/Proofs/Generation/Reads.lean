import GeneratorHost.Proofs.Generation.Course

/-! The texts that a generation reads. The content of a text is read when a document is added with it, once the method for
    that is found; to list the texts or to observe their paths reads none. Files with the same contents for the texts
    that are read lead to the same generation. -/

namespace GeneratorHost

variable {files files' : FileTree}

/-- Texts whose contents are the same among two lots of files. -/
def AdditionalText.SameContents (files files' : FileTree) (texts : List AdditionalText) : Prop :=
  ∀ t ∈ texts, t.content files' = t.content files

open AdditionalText (SameContents)

namespace Session

/-- Adds a document with a text as it is now. -/
def echoText (files : FileTree) (context : Option Nat) (t : AdditionalText) : Act Session Unit :=
  addThrough context (.text ((Path.ofText t.path).name ++ echoSuffix)) do
    return .text (← Act.ofExcept (t.content files))

section Reads
variable (files : FileTree) (inputs : Option Inputs)

/-- The text that is read to add a document with it, if the method for that is found. -/
def echoTextReads (context : Option Nat) (t : AdditionalText) (s : Session) : List AdditionalText :=
  stepsAfter (lookUp context .addSource) (fun _ _ => [t]) s

def echoReads (context : Option Nat) : List AdditionalText → Session → List AdditionalText
  | [], _ => []
  | t :: ts, s =>
    echoTextReads context t s ++ stepsAfter (echoText files context t) (fun _ s' => echoReads context ts s') s

mutual

/-- The texts that are read while an action is taken. -/
def performReads (context : Option Nat) : Action → Session → List AdditionalText
  | .echoTexts, s => match inputs with
    | some i => echoReads files context i.texts s
    | none => []
  | .within slot actions, s => match s.slot? slot with
    | some kept => performAllReads kept actions s
    | none => []
  | .attempt actions, s => performAllReads context actions s
  | _, _ => []

def performAllReads (context : Option Nat) : List Action → Session → List AdditionalText
  | [], _ => []
  | action :: actions, s =>
    performReads context action s ++
      stepsAfter (perform files inputs context action) (fun _ t => performAllReads context actions t) s

end

end Reads

section Scripts
variable {inputs : Option Inputs} {context : Option Nat} {s : Session}

theorem echoText_of_reads {t : AdditionalText} (h : SameContents files files' (echoTextReads context t s)) :
    echoText files' context t s = echoText files context t s := by
  unfold echoText addThrough
  cases hl : lookUp context .addSource s with
  | error e s' => rw [Act.bind_error hl, Act.bind_error hl]
  | ok held s' =>
    rw [echoTextReads, stepsAfter_of_ok hl] at h
    rw [Act.bind_ok hl, Act.bind_ok hl, h t (List.mem_singleton_self t)]

/-- What is done first and what is done behind it comes to the same if both do. -/
theorem bind_of_reads {α β : Type} {x x' : Act Session α} {f f' : α → Act Session β} {first : List AdditionalText}
    {more : α → Session → List AdditionalText} (h : SameContents files files' (first ++ stepsAfter x more s))
    (hx : SameContents files files' first → x' s = x s)
    (hf : ∀ a t, x s = .ok a t → SameContents files files' (more a t) → f' a t = f a t) :
    (x' >>= f') s = (x >>= f) s := by
  obtain ⟨hfirst, hmore⟩ := List.forall_mem_append.mp h
  have hsame := hx hfirst
  cases hr : x s with
  | error e t => rw [Act.bind_error hr, Act.bind_error (hsame.trans hr)]
  | ok a t =>
    rw [stepsAfter_of_ok hr] at hmore
    rw [Act.bind_ok hr, Act.bind_ok (hsame.trans hr)]
    exact hf a t hr hmore

theorem echoTexts_of_reads : ∀ (texts : List AdditionalText) (s : Session),
    SameContents files files' (echoReads files context texts s) →
      echoTexts files' context texts s = echoTexts files context texts s
  | [], _, _ => rfl
  | _ :: texts, _, h => bind_of_reads h echoText_of_reads fun _ t _ ht => echoTexts_of_reads texts t ht

mutual

/-- An action does the same with files that hold the same contents for the texts that it reads. -/
theorem perform_of_reads : ∀ (context : Option Nat) (action : Action) (s : Session),
    SameContents files files' (performReads files inputs context action s) →
      perform files' inputs context action s = perform files inputs context action s
  | _, .post _, _, _ => rfl
  | _, .source _, _, _ => rfl
  | _, .add _ _, _, _ => rfl
  | _, .report _, _, _ => rfl
  | _, .reportValue _, _, _ => rfl
  | context, .echoTexts, s, h => by
    cases inputs with
    | none => rfl
    | some i =>
      rw [performReads] at h
      rw [perform, perform, readInputs_some, pure_bind, pure_bind]
      exact echoTexts_of_reads i.texts s h
  | _, .echoOption _ _, _, _ => rfl
  | _, .dumpOptions, _, _ => rfl
  | _, .observe _, _, _ => rfl
  | _, .note _, _, _ => rfl
  | _, .save _, _, _ => rfl
  | _, .within slot actions, s, h => by
    cases hs : s.slot? slot with
    | none => rw [perform_within_none hs, perform_within_none hs]
    | some kept =>
      rw [performReads, hs] at h
      rw [perform_within_some hs, perform_within_some hs]
      exact performAll_of_reads kept actions s h
  | context, .attempt actions, s, h => by
    rw [performReads] at h
    rw [perform, perform, attempt, attempt, performAll_of_reads context actions s h]
  | _, .raise _, _, _ => rfl

theorem performAll_of_reads : ∀ (context : Option Nat) (actions : List Action) (s : Session),
    SameContents files files' (performAllReads files inputs context actions s) →
      performAll files' inputs context actions s = performAll files inputs context actions s
  | _, [], _, _ => rfl
  | context, action :: actions, s, h => by
    rw [performAllReads] at h
    rw [performAll, performAll]
    exact bind_of_reads h (perform_of_reads context action s) fun _ t _ ht => performAll_of_reads context actions t ht

end

end Scripts
end Session

/-! ### Phases -/

namespace Generation
open Session

section Reads
variable (files : FileTree) (inputs : Inputs)

def phaseReads (role : Role) (script : Script) (s : Session) : List AdditionalText :=
  performAllReads files (some inputs) (some s.contexts.length) script (s.withContext role)

def phasesReads (role : Role) : List Script → Session → List AdditionalText
  | [], _ => []
  | script :: scripts, s =>
    phaseReads files inputs role script s ++
      stepsAfter (phase files inputs role script) (fun _ t => phasesReads role scripts t) s

/-- The texts that are read after the initialization of a run, whose callbacks are those of `context`. -/
def callbackReads (sink context : Nat) (s : Session) : List AdditionalText :=
  phasesReads files inputs (.postInitialization sink) (s.callbacks context).1 s ++
    stepsAfter (phases files inputs (.postInitialization sink) (s.callbacks context).1)
      (fun _ t => phasesReads files inputs (.sourceProduction sink) (s.callbacks context).2 t) s

def runReads (script : Script) (s : Session) : List AdditionalText :=
  phaseReads files inputs (.initialization inputs [] []) script s.withSink ++
    stepsAfter (phase files inputs (.initialization inputs [] []) script)
      (callbackReads files inputs s.sinks.length) s.withSink

end Reads

section Phases
variable {inputs : Inputs} {role : Role} {script : Script} {s : Session}

theorem phase_of_reads (h : SameContents files files' (phaseReads files inputs role script s)) :
    phase files' inputs role script s = phase files inputs role script s := by
  have hscript := performAll_of_reads _ _ _ h
  rw [phase_eq, phase_eq, Act.bind_eq, Act.bind_eq, hscript]

theorem phases_of_reads : ∀ (scripts : List Script) (s : Session),
    SameContents files files' (phasesReads files inputs role scripts s) →
      phases files' inputs role scripts s = phases files inputs role scripts s
  | [], _, _ => rfl
  | _ :: scripts, _, h => bind_of_reads h phase_of_reads fun _ t _ ht => phases_of_reads scripts t ht

theorem runCallbacks_of_reads {sink context : Nat}
    (h : SameContents files files' (callbackReads files inputs sink context s)) :
    runCallbacks files' inputs sink context s = runCallbacks files inputs sink context s := by
  rw [runCallbacks_eq, runCallbacks_eq]
  refine bind_of_reads h (phases_of_reads _ s) fun _ t _ ht => ?_
  rw [Act.bind_eq, Act.bind_eq, phases_of_reads _ t ht]

/-- A run does the same with files that hold the same contents for the texts that it reads. -/
theorem run_of_reads (h : SameContents files files' (runReads files inputs script s)) :
    run files' inputs script s = run files inputs script s := by
  rw [run_eq, run_eq]
  exact bind_of_reads h phase_of_reads fun _ _ _ => runCallbacks_of_reads

/-- So does a generator on a fresh compilation, for which nothing is read. -/
theorem execute_of_reads {references : List Reference} {options : Options Text} {texts : List AdditionalText}
    (h : ∀ base t, baseCompilation references s = .ok base t →
      SameContents files files' (runReads files ⟨base, options, texts⟩ script t)) :
    execute files' references options texts script s = execute files references options texts script s := by
  rw [execute, execute, Act.bind_eq, Act.bind_eq]
  cases hb : baseCompilation references s with
  | error e t => rfl
  | ok base t =>
    simp only []
    rw [update, update, Act.bind_eq, Act.bind_eq, Act.bind_eq, Act.bind_eq, run_of_reads (h base t hb)]

end Phases
end Generation
end GeneratorHost
