import GeneratorHost.Proofs.Generation.Change

/-! The course of a generation: all that happens while a generator is run, in order, up to the end or the first failure.
    It is read off the run itself, call by call and callback by callback. -/

namespace GeneratorHost

namespace Session

/-- What happens after something that was done, if it did not fail. -/
def stepsAfter {α β : Type} (done : Act Session α) (more : α → Session → List β) (s : Session) : List β :=
  match done s with
  | .ok a t => more a t
  | .error _ _ => []

theorem stepsAfter_of_ok {α β : Type} {done : Act Session α} {s t : Session} {a : α} (h : done s = .ok a t)
    (more : α → Session → List β) : stepsAfter done more s = more a t := by
  rw [stepsAfter, h]

theorem stepsAfter_of_error {α β : Type} {done : Act Session α} {s t : Session} {e : Failure} (h : done s = .error e t)
    (more : α → Session → List β) : stepsAfter done more s = [] := by
  rw [stepsAfter, h]

theorem stepsAfter_nil {α β : Type} (done : Act Session α) (s : Session) :
    stepsAfter done (fun _ _ => ([] : List β)) s = [] := by
  rw [stepsAfter]
  split <;> rfl

theorem stepsAfter_append {α β : Type} (done : Act Session α) (first second : α → Session → List β) (s : Session) :
    stepsAfter done first s ++ stepsAfter done second s = stepsAfter done (fun a t => first a t ++ second a t) s := by
  unfold stepsAfter
  split <;> rfl

theorem stepsAfter_bind {α β γ : Type} (done : Act Session α) (rest : α → Act Session β)
    (more : β → Session → List γ) (s : Session) :
    stepsAfter (done >>= rest) more s = stepsAfter done (fun a => stepsAfter (rest a) more) s := by
  cases h : done s with
  | ok a t => rw [stepsAfter, Act.bind_ok h, stepsAfter_of_ok h, stepsAfter]
  | error e t => rw [stepsAfter_of_error (Act.bind_error h), stepsAfter_of_error h]

/-! ### Scripts -/

section Steps
variable (files : FileTree) (inputs : Option Inputs)

/-- A call with one effect, if it does not fail. -/
def actionSteps (action : Act Session Unit) (s : Session) : List (Event × Session) :=
  match action s with
  | .ok _ t => [(.acted, t)]
  | .error _ _ => []

/-- The registration of a callback, if it does not fail. -/
def registerSteps (context : Option Nat) (method : Method) (script : Script) (s : Session) : List (Event × Session) :=
  match (lookUp context method >>= fun held => register held.1 held.2 method script) s with
  | .ok _ t => context.toList.map fun id => (.registered id method script, t)
  | .error _ _ => []

def echoSteps (context : Option Nat) : List AdditionalText → Session → List (Event × Session)
  | [], _ => []
  | t :: ts, s =>
    let call := addThrough context (.text ((Path.ofText t.path).name ++ echoSuffix)) do
      return .text (← Act.ofExcept (t.content files))
    actionSteps call s ++ stepsAfter call (fun _ t => echoSteps context ts t) s

def dumpSteps (context : Option Nat) : List (Text × Text) → Session → List (Event × Session)
  | [], _ => []
  | (key, value) :: rest, s =>
    let call := addThrough context (.text (key ++ echoSuffix)) (pure (.text value))
    actionSteps call s ++ stepsAfter call (fun _ t => dumpSteps context rest t) s

mutual

/-- What happens while an action is taken. -/
def performSteps (context : Option Nat) : Action → Session → List (Event × Session)
  | .post actions, s => registerSteps context .registerPost actions s
  | .source actions, s => registerSteps context .registerSource actions s
  | .echoTexts, s => match inputs with
    | some i => echoSteps files context i.texts s
    | none => []
  | .echoOption key name, s => match inputs.bind (·.options.find? key) with
    | some value => actionSteps (addThrough context name (pure (.text value))) s
    | none => []
  | .dumpOptions, s => match inputs with
    | some i => dumpSteps context i.options.toPairs s
    | none => []
  | .within slot actions, s => match s.slot? slot with
    | some kept => performAllSteps kept actions s
    | none => []
  | .attempt actions, s =>
    performAllSteps context actions s ++ actionSteps (perform files inputs context (.attempt actions)) s
  | action, s => actionSteps (perform files inputs context action) s

/-- What happens while actions are taken, up to the first that fails. -/
def performAllSteps (context : Option Nat) : List Action → Session → List (Event × Session)
  | [], _ => []
  | action :: actions, s =>
    performSteps context action s ++
      stepsAfter (perform files inputs context action) (fun _ t => performAllSteps context actions t) s

end

end Steps

/-- Steps that are taken in the course of one call of the generator. -/
def during (running : Option Nat) (steps : List (Event × Session)) : List (Event × Moment) :=
  steps.map fun step => (step.1, ⟨running, step.2⟩)

/-- The steps lead from a session to the one that a call leaves. -/
def Leads (running : Option Nat) (call : Act Session Unit) (steps : List (Event × Session)) (s : Session) : Prop :=
  Course ⟨running, s⟩ (during running steps) ⟨running, call.after s⟩

section Scripts
variable {files : FileTree} {inputs : Option Inputs} {running context : Option Nat} {s t : Session}
  {call rest : Act Session Unit}

theorem leads_nil (h : call.after s = s) : Leads running call [] s := by
  rw [Leads, h]
  exact .here _

/-- A call with one effect. -/
theorem leads_actionSteps (h : (∃ e, call s = .error e s) ∨
    ∃ t, call s = .ok () t ∧ Change ⟨running, s⟩ .acted ⟨running, t⟩) : Leads running call (actionSteps call s) s := by
  rcases h with ⟨e, h⟩ | ⟨t, h, hc⟩
  · rw [actionSteps, h]
    exact leads_nil (Act.after_of_error h)
  · rw [Leads, actionSteps, h, Act.after_of_ok h]
    exact .single hc

/-- A call and, if it does not fail, the one behind it. -/
theorem Leads.andThen {steps : List (Event × Session)} {more : Session → List (Event × Session)}
    (h : Leads running call steps s) (hrest : ∀ t, Leads running rest (more t) t) :
    Leads running (call >>= fun _ => rest) (steps ++ stepsAfter call (fun _ => more) s) s := by
  rw [Leads] at h ⊢
  cases hcall : call s with
  | ok u t =>
    rw [Act.after_of_ok hcall] at h
    rw [Act.after_bind_of_ok hcall, stepsAfter_of_ok hcall, during, List.map_append]
    exact h.append (hrest t)
  | error e t =>
    rw [Act.after_of_error hcall] at h
    rw [Act.after_bind_of_error hcall, stepsAfter_of_error hcall, List.append_nil]
    exact h

theorem leads_addThrough {content : Act Session Value} (hr : content.Reads) (name : Value) :
    Leads running (addThrough context name content) (actionSteps (addThrough context name content) s) s := by
  refine leads_actionSteps ?_
  rcases addThrough_cases hr context name s with h | ⟨id, c, sink, path, text, -, hc, ho, hs, -, -, h⟩
  · exact Or.inl h
  · exact Or.inr ⟨_, h, .added hc ho hs⟩

theorem leads_echoSteps (context : Option Nat) :
    ∀ (texts : List AdditionalText) (s : Session), Leads running (echoTexts files context texts)
      (echoSteps files context texts s) s
  | [], _ => leads_nil rfl
  | _ :: texts, _ =>
    (leads_addThrough ((Act.reads_ofExcept _).bind fun _ => Act.reads_pure _) _).andThen (leads_echoSteps context texts)

theorem leads_dumpSteps (context : Option Nat) :
    ∀ (pairs : List (Text × Text)) (s : Session), Leads running (dumpOptions context pairs) (dumpSteps context pairs s) s
  | [], _ => leads_nil rfl
  | _ :: pairs, _ => (leads_addThrough (Act.reads_pure _) _).andThen (leads_dumpSteps context pairs)

theorem register_of_open {id : Nat} {c : Context} (ho : c.isSealed = false) {method : Method}
    (hm : method = .registerPost ∨ method = .registerSource) (script : Script) (s : Session) :
    register id c method script s = .ok () (s.withRole id c (c.role.extended method script)) := by
  obtain ⟨role, isSealed⟩ := c
  obtain rfl : isSealed = false := ho
  rcases hm with rfl | rfl <;> cases role <;> rfl

/-- The registration of a callback on an open context. -/
theorem leads_registerSteps (context : Option Nat) {method : Method}
    (hm : method = .registerPost ∨ method = .registerSource) (script : Script) (s : Session) :
    Leads running (lookUp context method >>= fun held => register held.1 held.2 method script)
      (registerSteps context method script s) s := by
  have hfails : ∀ {e}, (lookUp context method >>= fun held => register held.1 held.2 method script) s = .error e s →
      Leads running (lookUp context method >>= fun held => register held.1 held.2 method script)
        (registerSteps context method script s) s := fun h => by
    rw [registerSteps, h]
    exact leads_nil (Act.after_of_error h)
  rcases lookUp_cases context method s with ⟨e, h⟩ | ⟨id, c, rfl, hc, ho, h⟩
  · exact hfails (Act.bind_error h)
  · cases hsealed : c.isSealed with
    | true => exact hfails ((Act.bind_ok h).trans (Act.bind_error (checkOpen_of_sealed hsealed method s)))
    | false =>
      have hok := (Act.bind_ok h (f := fun held => register held.1 held.2 method script)).trans
        (register_of_open hsealed hm script s)
      rw [Leads, registerSteps, hok, Act.after_of_ok hok]
      exact .single (.registered hc hsealed ho)

theorem leads_attempt {steps : List (Event × Session)} (h : Leads running call steps s) :
    Leads running (attempt call) (steps ++ actionSteps (attempt call) s) s := by
  rcases attempt_cases call s with ⟨n, -, hn⟩ | ⟨e, he⟩
  · rw [Leads, actionSteps, hn, during, List.map_append, Act.after_of_ok hn]
    exact Course.append h (.single .noted)
  · rw [Leads, actionSteps, he, List.append_nil, Act.after_of_error he]
    exact h

mutual

/-- Whatever an action does, it does by changes one after the other. -/
theorem leads_performSteps :
    ∀ (context : Option Nat) (action : Action) (s : Session),
      Leads running (perform files inputs context action) (performSteps files inputs context action s) s
  | context, .post actions, s => leads_registerSteps context (Or.inl rfl) actions s
  | context, .source actions, s => leads_registerSteps context (Or.inr rfl) actions s
  | _, .add name text, _ => leads_addThrough (Act.reads_pure text) name
  | context, .report fields, s => leads_actionSteps <| by
    rcases report_cases files inputs context fields s with h | ⟨id, c, sink, d, -, hc, ho, hs, -, h⟩
    · exact Or.inl h
    · exact Or.inr ⟨_, h, .reported hc ho hs⟩
  | context, .reportValue v, s => leads_actionSteps (Or.inl (reportValue_error files inputs context v s))
  | context, .echoTexts, s => by
    cases inputs with
    | none => exact leads_nil rfl
    | some i => exact leads_echoSteps context i.texts s
  | context, .echoOption key name, s => by
    cases inputs with
    | none => exact leads_nil rfl
    | some i =>
      cases h : i.options.find? key with
      | none =>
        rw [performSteps, Option.bind_some, h]
        exact leads_nil (Act.after_of_ok (perform_echoOption_none h s))
      | some value =>
        rw [performSteps, Option.bind_some, h, perform_echoOption_some h]
        exact leads_addThrough (Act.reads_pure _) name
  | context, .dumpOptions, s => by
    cases inputs with
    | none => exact leads_nil rfl
    | some i => exact leads_dumpSteps context i.options.toPairs s
  | context, .observe true, s => leads_actionSteps <| by
    rcases observe_cases files inputs context s with h | ⟨id, c, i, -, -, -, h⟩
    · exact Or.inl h
    · exact Or.inr ⟨_, h, .noted⟩
  | _, .observe false, s => leads_actionSteps <| by
    cases inputs with
    | none => exact Or.inl ⟨_, rfl⟩
    | some i => exact Or.inr ⟨_, rfl, .noted⟩
  | _, .note v, s => leads_actionSteps (Or.inr ⟨s.withNote (.value v), rfl, .noted⟩)
  | context, .save slot, s => leads_actionSteps (Or.inr ⟨s.withSlot slot context, rfl, .kept⟩)
  | context, .within slot actions, s => by
    cases h : s.slot? slot with
    | none =>
      rw [performSteps, h]
      exact leads_nil (Act.after_of_ok (perform_within_none h))
    | some kept =>
      rw [performSteps, h, Leads, Act.after, perform_within_some h]
      exact leads_performAllSteps kept actions s
  | context, .attempt actions, s => leads_attempt (leads_performAllSteps context actions s)
  | _, .raise failure, s => leads_actionSteps (Or.inl ⟨failure, rfl⟩)

/-- Whatever actions do, they do by changes one after the other. -/
theorem leads_performAllSteps :
    ∀ (context : Option Nat) (actions : List Action) (s : Session),
      Leads running (performAll files inputs context actions) (performAllSteps files inputs context actions s) s
  | _, [], _ => leads_nil rfl
  | context, action :: actions, s =>
    (leads_performSteps context action s).andThen (leads_performAllSteps context actions)

end

end Scripts
end Session

/-! ### Phases -/

namespace Generation
open Session

section Steps
variable (files : FileTree) (inputs : Inputs)

/-- What happens in one call of the generator: it is called with a new context, takes its actions, and returns if none
    of them fails. -/
def phaseSteps (role : Role) (script : Script) (s : Session) : List (Event × Moment) :=
  (.began role script, ⟨some s.contexts.length, s.withContext role⟩) ::
    (during (some s.contexts.length)
      (performAllSteps files (some inputs) (some s.contexts.length) script (s.withContext role)) ++
      stepsAfter (performAll files (some inputs) (some s.contexts.length) script)
        (fun _ t => [(.ended, ⟨none, t.withSealed s.contexts.length⟩)]) (s.withContext role))

/-- What happens in a row of calls, up to the first that fails. -/
def phasesSteps (role : Role) : List Script → Session → List (Event × Moment)
  | [], _ => []
  | script :: scripts, s =>
    phaseSteps files inputs role script s ++
      stepsAfter (phase files inputs role script) (fun _ t => phasesSteps role scripts t) s

/-- What happens after the initialization of a run, whose callbacks are those of `context`. -/
def callbackSteps (sink context : Nat) (s : Session) : List (Event × Moment) :=
  phasesSteps files inputs (.postInitialization sink) (s.callbacks context).1 s ++
    stepsAfter (phases files inputs (.postInitialization sink) (s.callbacks context).1)
      (fun _ t => phasesSteps files inputs (.sourceProduction sink) (s.callbacks context).2 t) s

/-- What happens in a run, once its sink is there. -/
def runSteps (script : Script) (s : Session) : List (Event × Moment) :=
  phaseSteps files inputs (.initialization inputs [] []) script s.withSink ++
    stepsAfter (phase files inputs (.initialization inputs [] []) script)
      (callbackSteps files inputs s.sinks.length) s.withSink

end Steps

/-- What happens in a generation: nothing if it has no compilation to begin with. -/
def steps (files : FileTree) (references : List Reference) (options : Options Text) (texts : List AdditionalText)
    (script : Script) (s : Session) : List (Event × Moment) :=
  stepsAfter (baseCompilation references) (fun base t => runSteps files ⟨base, options, texts⟩ script t) s

/-- The steps lead to what a part of a run leaves: no call of the generator is going on if it returned, and one is if it
    failed. -/
def Goes {α : Type} (part : Act Session α) (steps : List (Event × Moment)) (s : Session) : Prop :=
  match part s with
  | .ok _ t => Course ⟨none, s⟩ steps ⟨none, t⟩
  | .error _ t => ∃ id, Course ⟨none, s⟩ steps ⟨some id, t⟩

section Phases
variable {files : FileTree} {inputs : Inputs} {role : Role} {script : Script} {s t : Session}

theorem Goes.of_ok {α : Type} {part : Act Session α} {steps : List (Event × Moment)} {a : α} (h : Goes part steps s)
    (hp : part s = .ok a t) : Course ⟨none, s⟩ steps ⟨none, t⟩ := by
  rwa [Goes, hp] at h

theorem Goes.of_error {α : Type} {part : Act Session α} {steps : List (Event × Moment)} {e : Failure}
    (h : Goes part steps s) (hp : part s = .error e t) : ∃ id, Course ⟨none, s⟩ steps ⟨some id, t⟩ := by
  rwa [Goes, hp] at h

theorem Goes.course {α : Type} {part : Act Session α} {steps : List (Event × Moment)} (h : Goes part steps s) :
    ∃ running, Course ⟨none, s⟩ steps ⟨running, part.after s⟩ := by
  cases hp : part s with
  | ok a t => exact ⟨none, Act.after_of_ok hp ▸ h.of_ok hp⟩
  | error e t =>
    obtain ⟨id, hc⟩ := h.of_error hp
    exact ⟨some id, Act.after_of_error hp ▸ hc⟩

theorem Goes.andThen {α β : Type} {part : Act Session α} {rest : α → Act Session β} {steps : List (Event × Moment)}
    {more : α → Session → List (Event × Moment)} (h : Goes part steps s)
    (hrest : ∀ a t, part s = .ok a t → Goes (rest a) (more a t) t) :
    Goes (part >>= rest) (steps ++ stepsAfter part more s) s := by
  cases hp : part s with
  | ok a t =>
    have hcourse := h.of_ok hp
    have hgoes := hrest a t hp
    rw [Goes, Act.bind_ok hp, stepsAfter_of_ok hp]
    cases hr : rest a t with
    | ok b u => exact hcourse.append (hgoes.of_ok hr)
    | error e u =>
      obtain ⟨id, hc⟩ := hgoes.of_error hr
      exact ⟨id, hcourse.append hc⟩
  | error e t =>
    obtain ⟨id, hc⟩ := h.of_error hp
    rw [Goes, Act.bind_error hp, stepsAfter_of_error hp, List.append_nil]
    exact ⟨id, hc⟩

/-- What is only read at the end does not count. -/
theorem Goes.thenRead {α β : Type} {part : Act Session α} {steps : List (Event × Moment)} (h : Goes part steps s)
    (read : α → Session → β) : Goes (part >>= fun a => do return read a (← get)) steps s := by
  have hread : Goes (part >>= fun a => do return read a (← get)) (steps ++ stepsAfter part (fun _ _ => []) s) s :=
    h.andThen fun _ t _ => Course.here ⟨none, t⟩
  rwa [stepsAfter_nil, List.append_nil] at hread

/-- No sink is lost on the way. -/
theorem Goes.sinks_le {α : Type} {part : Act Session α} {steps : List (Event × Moment)} {a : α}
    (h : Goes part steps s) (hp : part s = .ok a t) : s.sinks.length ≤ t.sinks.length :=
  ((h.of_ok hp).keeps_inv (fun m => s.sinks.length ≤ m.session.sinks.length)
    (fun hc hle => Nat.le_trans hle hc.sinks_le) (Nat.le_refl _)).2

theorem goes_phase (hsink : ∀ sink, role.sink? = some sink → sink < s.sinks.length) :
    Goes (phase files inputs role script) (phaseSteps files inputs role script s) s := by
  have hbody : Leads (some s.contexts.length) (performAll files (some inputs) (some s.contexts.length) script) _ _ :=
    leads_performAllSteps (some s.contexts.length) script (s.withContext role)
  rw [Leads] at hbody
  rw [Goes, phase_eq, phaseSteps]
  cases h : performAll files (some inputs) (some s.contexts.length) script (s.withContext role) with
  | ok u t =>
    rw [Act.after_of_ok h] at hbody
    rw [Act.bind_ok h, stepsAfter_of_ok h]
    exact .step (.began hsink) (hbody.append (.single .ended))
  | error e t =>
    rw [Act.after_of_error h] at hbody
    rw [Act.bind_error h, stepsAfter_of_error h, List.append_nil]
    exact ⟨_, .step (.began hsink) hbody⟩

theorem goes_phases (files : FileTree) (inputs : Inputs) (role : Role) :
    ∀ (scripts : List Script) {s : Session}, (∀ sink, role.sink? = some sink → sink < s.sinks.length) →
      Goes (phases files inputs role scripts) (phasesSteps files inputs role scripts s) s
  | [], s, _ => Course.here ⟨none, s⟩
  | script :: scripts, s, hsink => by
    have hfirst : Goes (phase files inputs role script) (phaseSteps files inputs role script s) s := goes_phase hsink
    rw [phases, phasesSteps]
    exact hfirst.andThen fun _ _ hp => goes_phases files inputs role scripts fun sink hs =>
      Nat.lt_of_lt_of_le (hsink sink hs) (hfirst.sinks_le hp)

theorem goes_runCallbacks {sink context : Nat} (hsink : sink < s.sinks.length) :
    Goes (runCallbacks files inputs sink context) (callbackSteps files inputs sink context s) s := by
  have hpost := goes_phases files inputs (.postInitialization sink) (s.callbacks context).1 (s := s)
    fun _ h => Option.some.inj h ▸ hsink
  rw [Goes, runCallbacks_eq, callbackSteps, ← Goes]
  refine hpost.andThen fun _ t hp => Goes.thenRead (goes_phases files inputs (.sourceProduction sink) _ fun _ h => ?_) _
  exact Option.some.inj h ▸ Nat.lt_of_lt_of_le hsink (hpost.sinks_le hp)

theorem goes_initialization (files : FileTree) (inputs : Inputs) (script : Script) (s : Session) :
    Goes (phase files inputs (.initialization inputs [] []) script)
      (phaseSteps files inputs (.initialization inputs [] []) script s) s :=
  goes_phase fun _ h => nomatch h

/-- The sink of a run is there when the callbacks are called. -/
theorem sink_lt_of_initialization {context : Nat}
    (h : phase files inputs (.initialization inputs [] []) script s.withSink = .ok context t) :
    s.sinks.length < t.sinks.length :=
  Nat.lt_of_lt_of_le (by simp [withSink]) ((goes_initialization files inputs script s.withSink).sinks_le h)

/-- A run is the course of its steps. -/
theorem goes_run (files : FileTree) (inputs : Inputs) (script : Script) (s : Session) :
    Goes (phase files inputs (.initialization inputs [] []) script >>= runCallbacks files inputs s.sinks.length)
      (runSteps files inputs script s) s.withSink :=
  (goes_initialization files inputs script s.withSink).andThen fun _ _ hp =>
    goes_runCallbacks (sink_lt_of_initialization hp)

end Phases
end Generation
end GeneratorHost
