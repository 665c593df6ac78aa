import GeneratorHost.Generation

/-! What a generation reads of the files: the contents of additional texts, and nothing else. -/

namespace GeneratorHost

variable {files files' : FileTree}

namespace Session

theorem echoTexts_congr (h : ∀ t : AdditionalText, t.content files' = t.content files) (context : Option Nat) :
    ∀ texts, echoTexts files' context texts = echoTexts files context texts
  | [] => rfl
  | t :: ts => by
    rw [echoTexts, echoTexts, h t, echoTexts_congr h context ts]

mutual

/-- An action reads no more of the files than the contents of additional texts. -/
theorem perform_congr (h : ∀ t : AdditionalText, t.content files' = t.content files) (inputs : Option Inputs) :
    ∀ (context : Option Nat) (action : Action),
      perform files' inputs context action = perform files inputs context action
  | _, .post _ => rfl
  | _, .source _ => rfl
  | _, .add _ _ => rfl
  | _, .report _ => rfl
  | _, .reportValue _ => rfl
  | context, .echoTexts => by
    rw [perform, perform]
    exact congrArg _ (funext fun i => echoTexts_congr h context i.texts)
  | _, .echoOption _ _ => rfl
  | _, .dumpOptions => rfl
  | _, .observe _ => rfl
  | _, .note _ => rfl
  | _, .save _ => rfl
  | _, .within slot actions => by
    rw [perform, perform]
    refine congrArg _ (funext fun s => ?_)
    cases s.slot? slot with
    | none => rfl
    | some kept => exact performAll_congr h inputs kept actions
  | context, .attempt actions => by
    rw [perform, perform, performAll_congr h inputs context actions]
  | _, .raise _ => rfl

theorem performAll_congr (h : ∀ t : AdditionalText, t.content files' = t.content files) (inputs : Option Inputs) :
    ∀ (context : Option Nat) (actions : List Action),
      performAll files' inputs context actions = performAll files inputs context actions
  | _, [] => rfl
  | context, action :: actions => by
    rw [performAll, performAll, perform_congr h inputs context action, performAll_congr h inputs context actions]

end

end Session

namespace Generation

theorem phase_congr (h : ∀ t : AdditionalText, t.content files' = t.content files) (inputs : Inputs) (role : Role)
    (script : Script) : phase files' inputs role script = phase files inputs role script := by
  unfold phase
  refine congrArg _ (funext fun context => ?_)
  rw [Session.performAll_congr h]

theorem phases_congr (h : ∀ t : AdditionalText, t.content files' = t.content files) (inputs : Inputs) (role : Role) :
    ∀ scripts, phases files' inputs role scripts = phases files inputs role scripts
  | [] => rfl
  | script :: scripts => by
    rw [phases, phases, phase_congr h, phases_congr h inputs role scripts]

theorem run_congr (h : ∀ t : AdditionalText, t.content files' = t.content files) (inputs : Inputs) (script : Script) :
    run files' inputs script = run files inputs script := by
  simp only [run, phase_congr h, phases_congr h]

/-- A generation reads no more of the files than the contents of additional texts. -/
theorem execute_congr (h : ∀ t : AdditionalText, t.content files' = t.content files) (references : List Reference)
    (options : Options Text) (texts : List AdditionalText) (script : Script) :
    execute files' references options texts script = execute files references options texts script := by
  simp only [execute, update, run_congr h]

end Generation
end GeneratorHost
