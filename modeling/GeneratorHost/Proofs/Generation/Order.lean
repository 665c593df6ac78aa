import GeneratorHost.Proofs.Generation.Contexts

/-! In what order a generator is called. It is initialized once; then its post-initialization callbacks are called, then
    its source callbacks, each once for each registration and in the order of registration, up to the first call that
    fails. Whatever a callback does, it does not change which callbacks there are. -/

namespace GeneratorHost

/-! ### Registrations -/

/-- The callbacks of a kind that are registered on a context, in order. -/
def registrations (id : Nat) (method : Method) (steps : List (Event × Moment)) : List Script :=
  steps.filterMap fun step => match step.1 with
    | .registered context kind script => if context = id ∧ kind = method then some script else none
    | _ => none

theorem registrations_append (id : Nat) (method : Method) (steps more : List (Event × Moment)) :
    registrations id method (steps ++ more) = registrations id method steps ++ registrations id method more :=
  List.filterMap_append

section Registrations
variable {m m' : Moment} {e : Event} {steps : List (Event × Moment)} {id : Nat} {inputs : Inputs}
  {post source : List Script} {b : Bool}

/-- An initialization context has one more callback if one is registered on it, and the same ones otherwise. -/
theorem Change.initialization (h : Change m e m')
    (hc : m.session.contexts[id]? = some ⟨.initialization inputs post source, b⟩) :
    ∃ b', m'.session.contexts[id]? =
      some ⟨.initialization inputs (post ++ registrations id .registerPost [(e, m')])
        (source ++ registrations id .registerSource [(e, m')]), b'⟩ := by
  cases h with
  | began => exact ⟨b, by simpa [registrations] using Session.contexts_withContext.mpr (Or.inl hc)⟩
  | @ended s i =>
    by_cases he : i = id
    · exact ⟨true, Session.contexts_withSealed.mpr ⟨_, hc, by simp [registrations, he]⟩⟩
    · exact ⟨b, Session.contexts_withSealed.mpr ⟨_, hc, by simp [registrations, he]⟩⟩
  | @registered running s i c method script hi ho hm =>
    by_cases he : i = id
    · subst he
      obtain rfl := Option.some.inj (hi.symm.trans hc)
      refine ⟨b, (Session.contexts_withRole hi _).mpr ?_⟩
      -- an initialization context offers nothing but the two ways to register
      cases method with
      | addSource | report => cases hm
      | registerPost | registerSource => simp [registrations, Role.extended]
    · exact ⟨b, (Session.contexts_withRole hi _).mpr (by simpa [registrations, he] using hc)⟩
  | added | reported | noted | kept => exact ⟨b, hc.trans (by simp [registrations])⟩

/-- The callbacks of an initialization context are those that were registered on it. -/
theorem Course.initialization (h : Course m steps m') :
    ∀ {post source : List Script} {b : Bool},
      m.session.contexts[id]? = some ⟨.initialization inputs post source, b⟩ →
        ∃ b', m'.session.contexts[id]? =
          some ⟨.initialization inputs (post ++ registrations id .registerPost steps)
            (source ++ registrations id .registerSource steps), b'⟩ := by
  induction h with
  | here => exact fun {_ _ b} hc => ⟨b, hc.trans (by simp [registrations])⟩
  | @step m next last e steps hstep _ ih =>
    intro post source b hc
    obtain ⟨b₁, hc₁⟩ := hstep.initialization hc
    obtain ⟨b₂, hc₂⟩ := ih hc₁
    refine ⟨b₂, ?_⟩
    rw [hc₂, List.append_assoc, List.append_assoc, ← registrations_append, ← registrations_append]
    rfl

end Registrations

/-! ### Calls of the generator -/

/-- A call of the generator, as it begins. -/
structure Start where
  role : Role
  script : Script
  moment : Moment

/-- The call of the generator that begins with a step. -/
def start? : Event × Moment → Option Start
  | (.began role script, moment) => some ⟨role, script, moment⟩
  | _ => none

def starts (steps : List (Event × Moment)) : List Start := steps.filterMap start?

theorem starts_append (steps more : List (Event × Moment)) : starts (steps ++ more) = starts steps ++ starts more :=
  List.filterMap_append

/-- What comes of a call of the generator. -/
def Start.outcome (files : FileTree) (inputs : Inputs) (start : Start) : EStateM.Result Failure Session Unit :=
  Session.performAll files (some inputs) start.moment.running start.script start.moment.session

/-- Calls that are planned are made one after the other, up to the first that fails, and the result is that failure. If
    all of them return, then so does the whole. -/
inductive Ran {α : Type} (files : FileTree) (inputs : Inputs) (result : EStateM.Result Failure Session α) :
    List (Role × Script) → List Start → Prop
  | returned {a : α} {t : Session} (h : result = .ok a t) : Ran files inputs result [] []
  | raised (start : Start) {e : Failure} {t : Session} (ho : start.outcome files inputs = .error e t)
    (h : result = .error e t) (planned : List (Role × Script)) :
    Ran files inputs result ((start.role, start.script) :: planned) [start]
  | next (start : Start) {t : Session} {planned : List (Role × Script)} {starts : List Start}
    (ho : start.outcome files inputs = .ok () t) (h : Ran files inputs result planned starts) :
    Ran files inputs result ((start.role, start.script) :: planned) (start :: starts)

/-- No call of the generator begins while another one is going on. -/
theorem starts_during {id : Nat} {m : Moment} :
    ∀ {steps : List (Event × Session)} {s : Session}, Course ⟨some id, s⟩ (Session.during (some id) steps) m →
      starts (Session.during (some id) steps) = []
  | [], _, _ => rfl
  | (e, t) :: steps, s, h => by
    cases h with
    | step hchange hrest =>
      have hnone : start? (e, ⟨some id, t⟩) = none := by
        cases e with
        | began => cases hchange
        | _ => rfl
      exact (List.filterMap_cons_none hnone).trans (starts_during hrest)

namespace Generation
open Session

section Calls
variable {α : Type} {files : FileTree} {inputs : Inputs} {role : Role} {script : Script} {s t : Session}
  {result : EStateM.Result Failure Session α} {planned : List (Role × Script)}

theorem starts_phaseSteps (files : FileTree) (inputs : Inputs) (role : Role) (script : Script) (s : Session) :
    starts (phaseSteps files inputs role script s) =
      [⟨role, script, ⟨some s.contexts.length, s.withContext role⟩⟩] := by
  have hbody : Leads (some s.contexts.length) (performAll files (some inputs) (some s.contexts.length) script) _ _ :=
    leads_performAllSteps (some s.contexts.length) script (s.withContext role)
  have hend : starts (stepsAfter (performAll files (some inputs) (some s.contexts.length) script)
      (fun _ t => [(Event.ended, Moment.mk none (t.withSealed s.contexts.length))]) (s.withContext role)) = [] := by
    rw [stepsAfter]
    split <;> rfl
  change _ :: starts (_ ++ _) = _
  rw [starts_append, starts_during hbody, hend]
  rfl

/-- A call of the generator, with what is done after it. -/
theorem ran_phase {more : Nat → Session → List (Event × Moment)}
    (hok : ∀ context t, phase files inputs role script s = .ok context t →
      Ran files inputs result planned (starts (more context t)))
    (herror : ∀ e t, phase files inputs role script s = .error e t → result = .error e t) :
    Ran files inputs result ((role, script) :: planned)
      (starts (phaseSteps files inputs role script s ++ stepsAfter (phase files inputs role script) more s)) := by
  have hp := phase_eq files inputs role script s
  let start : Start := ⟨role, script, ⟨some s.contexts.length, s.withContext role⟩⟩
  rw [starts_append, starts_phaseSteps]
  cases h : performAll files (some inputs) (some s.contexts.length) script (s.withContext role) with
  | ok u t =>
    replace hp := hp.trans (Act.bind_ok h)
    rw [stepsAfter_of_ok hp]
    exact Ran.next start h (hok _ _ hp)
  | error e t =>
    replace hp := hp.trans (Act.bind_error h)
    rw [stepsAfter_of_error hp]
    exact Ran.raised start h (herror e t hp) planned

/-- A row of calls, with what is done after it. -/
theorem ran_phases {more : Session → List (Event × Moment)} :
    ∀ (scripts : List Script) {s : Session},
      (∀ u t, phases files inputs role scripts s = .ok u t → Ran files inputs result planned (starts (more t))) →
        (∀ e t, phases files inputs role scripts s = .error e t → result = .error e t) →
          Ran files inputs result (scripts.map (role, ·) ++ planned)
            (starts (phasesSteps files inputs role scripts s ++
              stepsAfter (phases files inputs role scripts) (fun _ => more) s))
  | [], _, hok, _ => hok _ _ rfl
  | script :: scripts, s, hok, herror => by
    rw [phases] at hok herror
    rw [phases, phasesSteps, stepsAfter_bind, List.append_assoc, stepsAfter_append]
    refine ran_phase (fun context t hp => ?_) fun e t hp => herror e t (Act.bind_error hp)
    rw [Act.bind_ok hp] at hok herror
    exact ran_phases scripts hok herror

end Calls

/-! ### The callbacks of a run -/

section Callbacks
variable {files : FileTree} {inputs : Inputs} {script : Script} {s t : Session} {context id : Nat}
  {post source : List Script}

theorem callbacks_of_initialization {b : Bool} (h : s.contexts[id]? = some ⟨.initialization inputs post source, b⟩) :
    s.callbacks id = (post, source) := by
  rw [callbacks, h]

/-- The context of an initialization that returned is sealed, with the callbacks that were registered on it. -/
theorem phase_initialization
    (h : phase files inputs (.initialization inputs [] []) script s = .ok context t) :
    let first := phaseSteps files inputs (.initialization inputs [] []) script s
    context = s.contexts.length ∧ t.contexts[s.contexts.length]? =
      some ⟨.initialization inputs (registrations s.contexts.length .registerPost first)
        (registrations s.contexts.length .registerSource first), true⟩ := by
  intro first
  have hcourse := (goes_initialization files inputs script s).of_ok h
  have halone := (hcourse.alone (alone_start s)).2
  have hid : context = s.contexts.length := by
    rw [phase_eq] at h
    obtain ⟨_, _, -, hclose⟩ := Act.bind_eq_ok.mp h
    cases hclose
    rfl
  have hopened : (s.withContext (.initialization inputs [] [])).contexts[s.contexts.length]? =
      some ⟨.initialization inputs [] [], false⟩ := contexts_withContext.mpr (Or.inr ⟨rfl, rfl⟩)
  obtain ⟨b, hb⟩ : ∃ b, t.contexts[s.contexts.length]? =
      some ⟨.initialization inputs (registrations s.contexts.length .registerPost first)
        (registrations s.contexts.length .registerSource first), b⟩ := by
    cases (show Course _ (_ :: _) _ from hcourse) with
    | step hbegan hrest => exact hrest.initialization hopened
  refine ⟨hid, ?_⟩
  cases b with
  | true => exact hb
  | false => cases (halone.isOpen_iff _ (Nat.le_refl _)).mp ⟨_, hb, rfl⟩

/-- Nothing is registered on a sealed context. -/
theorem registrations_of_sealed {m m' : Moment} {steps : List (Event × Moment)} (h : Course m steps m')
    (hc : m.session.contexts[id]? = some ⟨.initialization inputs post source, true⟩) :
    registrations id .registerPost steps = [] ∧ registrations id .registerSource steps = [] := by
  obtain ⟨b, hb⟩ := h.initialization hc
  have hsame := hb.symm.trans (h.keeps.2.1.sealed id _ hc rfl)
  simp only [Option.some.injEq, Context.mk.injEq, Role.initialization.injEq, List.append_right_eq_self] at hsame
  exact ⟨hsame.1.2.1, hsame.1.2.2⟩

/-- After the initialization nothing is registered any more, and the callbacks are the same at every moment. -/
theorem runSteps_eq (files : FileTree) (inputs : Inputs) (script : Script) (s : Session) :
    let first := phaseSteps files inputs (.initialization inputs [] []) script s.withSink
    let n := s.contexts.length
    ∃ rest, runSteps files inputs script s = first ++ rest ∧
      registrations n .registerPost rest = [] ∧ registrations n .registerSource rest = [] ∧
      ∀ step ∈ rest, step.2.session.callbacks n =
        (registrations n .registerPost first, registrations n .registerSource first) := by
  intro first n
  refine ⟨_, rfl, ?_⟩
  cases h : phase files inputs (.initialization inputs [] []) script s.withSink with
  | error e t =>
    rw [stepsAfter_of_error h]
    exact ⟨rfl, rfl, (fun _ h => nomatch h)⟩
  | ok context t =>
    have hc := (phase_initialization h).2
    have hcallbacks : Goes (runCallbacks files inputs s.sinks.length context) _ t :=
      goes_runCallbacks (sink_lt_of_initialization h)
    obtain ⟨running, hcourse⟩ := hcallbacks.course
    rw [stepsAfter_of_ok h]
    obtain ⟨hpost, hsource⟩ := registrations_of_sealed hcourse hc
    exact ⟨hpost, hsource, fun step hstep =>
      callbacks_of_initialization ((hcourse.keeps.1 step hstep).sealed _ _ hc rfl)⟩

/-- The calls that a run is to make: the initialization, and then every callback once. -/
def plan (inputs : Inputs) (sink : Nat) (script : Script) (post source : List Script) : List (Role × Script) :=
  (.initialization inputs [] [], script) ::
    (post.map (.postInitialization sink, ·) ++ source.map (.sourceProduction sink, ·))

/-- The calls of the callbacks, and what comes of a whole that ends as they do. -/
theorem ran_callbacks {α : Type} {result : EStateM.Result Failure Session α} {sink : Nat}
    (hc : s.callbacks context = (post, source))
    (hok : ∀ a t, runCallbacks files inputs sink context s = .ok a t → ∃ a, result = .ok a t)
    (herror : ∀ e t, runCallbacks files inputs sink context s = .error e t → result = .error e t) :
    Ran files inputs result (post.map (.postInitialization sink, ·) ++ source.map (.sourceProduction sink, ·))
      (starts (callbackSteps files inputs sink context s)) := by
  simp only [runCallbacks_eq, hc] at hok herror
  simp only [callbackSteps, hc]
  refine ran_phases post (fun u t hpost => ?_) fun e t hpost => herror e t (Act.bind_error hpost)
  rw [Act.bind_ok hpost] at hok herror
  -- nothing is called after the last of them
  have hlast : Ran files inputs result (source.map (.sourceProduction sink, ·) ++ [])
      (starts (phasesSteps files inputs (.sourceProduction sink) source t ++
        stepsAfter (phases files inputs (.sourceProduction sink) source) (fun _ _ => []) t)) := by
    refine ran_phases source (fun u t' hsource => ?_) fun e t' hsource => herror e t' (Act.bind_error hsource)
    obtain ⟨a, ha⟩ := hok _ t' (Act.bind_ok hsource)
    exact .returned ha
  rwa [stepsAfter_nil, List.append_nil, List.append_nil] at hlast

/-- The calls of a run, and what comes of a whole that ends as the run does. -/
theorem ran_run {α : Type} {result : EStateM.Result Failure Session α}
    (hok : ∀ sink t, run files inputs script s = .ok sink t → ∃ a, result = .ok a t)
    (herror : ∀ e t, run files inputs script s = .error e t → result = .error e t) :
    let first := phaseSteps files inputs (.initialization inputs [] []) script s.withSink
    Ran files inputs result
      (plan inputs s.sinks.length script (registrations s.contexts.length .registerPost first)
        (registrations s.contexts.length .registerSource first))
      (starts (runSteps files inputs script s)) := by
  intro first
  rw [run_eq] at hok herror
  refine ran_phase (fun context t hp => ?_) fun e t hp => herror e t (Act.bind_error hp)
  obtain ⟨rfl, hc⟩ := phase_initialization hp
  rw [Act.bind_ok hp] at hok herror
  exact ran_callbacks (callbacks_of_initialization hc) hok herror

/-! ### Lists that could grow -/

/-- Calls the callbacks of a kind from the `i`-th one on, looking for each of them among those that there are by then. -/
inductive Iterates (files : FileTree) (inputs : Inputs) (role : Role) (context : Nat)
    (kind : List Script × List Script → List Script) :
    Nat → Session → EStateM.Result Failure Session Unit → Prop
  | finished {i : Nat} {s : Session} (h : (kind (s.callbacks context))[i]? = none) :
    Iterates files inputs role context kind i s (.ok () s)
  | raised {i : Nat} {s t : Session} {callback : Script} {e : Failure}
    (h : (kind (s.callbacks context))[i]? = some callback) (hp : phase files inputs role callback s = .error e t) :
    Iterates files inputs role context kind i s (.error e t)
  | next {i id : Nat} {s t : Session} {callback : Script} {r : EStateM.Result Failure Session Unit}
    (h : (kind (s.callbacks context))[i]? = some callback) (hp : phase files inputs role callback s = .ok id t)
    (hrest : Iterates files inputs role context kind (i + 1) t r) : Iterates files inputs role context kind i s r

/-- A run in which every callback is looked up when its turn has come. -/
inductive LiveRun (files : FileTree) (inputs : Inputs) (script : Script) (s : Session) :
    EStateM.Result Failure Session Sink → Prop
  | initialization {e : Failure} {t : Session}
    (h : phase files inputs (.initialization inputs [] []) script s.withSink = .error e t) :
    LiveRun files inputs script s (.error e t)
  | post {context : Nat} {e : Failure} {t u : Session}
    (h : phase files inputs (.initialization inputs [] []) script s.withSink = .ok context t)
    (hpost : Iterates files inputs (.postInitialization s.sinks.length) context Prod.fst 0 t (.error e u)) :
    LiveRun files inputs script s (.error e u)
  | source {context : Nat} {e : Failure} {t u v : Session}
    (h : phase files inputs (.initialization inputs [] []) script s.withSink = .ok context t)
    (hpost : Iterates files inputs (.postInitialization s.sinks.length) context Prod.fst 0 t (.ok () u))
    (hsource : Iterates files inputs (.sourceProduction s.sinks.length) context Prod.snd 0 u (.error e v)) :
    LiveRun files inputs script s (.error e v)
  | returned {context : Nat} {t u v : Session}
    (h : phase files inputs (.initialization inputs [] []) script s.withSink = .ok context t)
    (hpost : Iterates files inputs (.postInitialization s.sinks.length) context Prod.fst 0 t (.ok () u))
    (hsource : Iterates files inputs (.sourceProduction s.sinks.length) context Prod.snd 0 u (.ok () v)) :
    LiveRun files inputs script s (.ok (v.sink s.sinks.length) v)

/-- The callbacks of a sealed context are called as if they had been copied beforehand. -/
theorem iterates_iff {role : Role} {kind : List Script × List Script → List Script} {c : Context}
    {r : EStateM.Result Failure Session Unit} (hs : c.isSealed = true) :
    ∀ (rest before : List Script) {s : Session}, (∀ sink, role.sink? = some sink → sink < s.sinks.length) →
      s.contexts[context]? = some c → kind (s.callbacks context) = before ++ rest →
        (Iterates files inputs role context kind before.length s r ↔ phases files inputs role rest s = r)
  | [], before, s, _, _, hlist => by
    have hend : (kind (s.callbacks context))[before.length]? = none := by simp [hlist]
    constructor
    · intro h
      cases h with
      | finished => rfl
      | raised h | next h => cases hend.symm.trans h
    · rintro rfl
      exact .finished hend
  | callback :: rest, before, s, hsink, hc, hlist => by
    have hnext : (kind (s.callbacks context))[before.length]? = some callback := by simp [hlist]
    cases hp : phase files inputs role callback s with
    | error e t =>
      rw [phases, Act.bind_error hp]
      constructor
      · intro h
        cases h with
        | finished h => cases hnext.symm.trans h
        | raised h hp' =>
          obtain rfl := Option.some.inj (hnext.symm.trans h)
          cases hp.symm.trans hp'
          rfl
        | next h hp' =>
          obtain rfl := Option.some.inj (hnext.symm.trans h)
          cases hp.symm.trans hp'
      · rintro rfl
        exact .raised hnext hp
    | ok id t =>
      have hgoes : Goes (phase files inputs role callback) (phaseSteps files inputs role callback s) s := goes_phase hsink
      -- the context is sealed, so the call leaves it and its callbacks as they are
      have hkept : t.contexts[context]? = some c := (hgoes.of_ok hp).keeps.2.1.sealed context c hc hs
      have hrest : Iterates files inputs role context kind (before ++ [callback]).length t r ↔ _ := iterates_iff hs rest _
        (fun sink h => Nat.lt_of_lt_of_le (hsink sink h) (hgoes.sinks_le hp)) hkept
        (by rw [callbacks_congr (hkept.trans hc.symm), hlist, List.append_assoc]; rfl)
      rw [List.length_append, List.length_singleton] at hrest
      rw [phases, Act.bind_ok hp, ← hrest]
      constructor
      · intro h
        cases h with
        | finished h => cases hnext.symm.trans h
        | raised h hp' =>
          obtain rfl := Option.some.inj (hnext.symm.trans h)
          cases hp.symm.trans hp'
        | next h hp' h' =>
          obtain rfl := Option.some.inj (hnext.symm.trans h)
          cases hp.symm.trans hp'
          exact h'
      · exact .next hnext hp

/-- Both kinds of callbacks of a run are on a sealed context when they are called. -/
theorem iterates_run (h : phase files inputs (.initialization inputs [] []) script s.withSink = .ok context t) :
    (∀ r, Iterates files inputs (.postInitialization s.sinks.length) context Prod.fst 0 t r ↔
      phases files inputs (.postInitialization s.sinks.length) (t.callbacks context).1 t = r) ∧
    ∀ u, phases files inputs (.postInitialization s.sinks.length) (t.callbacks context).1 t = .ok () u → ∀ r,
      (Iterates files inputs (.sourceProduction s.sinks.length) context Prod.snd 0 u r ↔
        phases files inputs (.sourceProduction s.sinks.length) (t.callbacks context).2 u = r) := by
  obtain ⟨rfl, hc⟩ := phase_initialization h
  have hsink := sink_lt_of_initialization h
  refine ⟨fun r => iterates_iff rfl _ [] (fun _ h => Option.some.inj h ▸ hsink) hc rfl, fun u hu r => ?_⟩
  have hpost := goes_phases files inputs (.postInitialization s.sinks.length)
    (t.callbacks s.withSink.contexts.length).1 (s := t) fun _ h => Option.some.inj h ▸ hsink
  have hkept := (hpost.of_ok hu).keeps.2.1.sealed _ _ hc rfl
  have hsink' : s.sinks.length < u.sinks.length := Nat.lt_of_lt_of_le hsink (hpost.sinks_le hu)
  exact iterates_iff rfl _ [] (fun _ h => Option.some.inj h ▸ hsink') hkept
    (by rw [callbacks_congr (hkept.trans hc.symm), List.nil_append])

/-- That callbacks are looked up when their turn has come makes no difference to a run. -/
theorem liveRun_iff {r : EStateM.Result Failure Session Sink} :
    LiveRun files inputs script s r ↔ run files inputs script s = r := by
  constructor
  · intro h
    rw [run_eq]
    cases h with
    | initialization h => exact Act.bind_error h
    | post h hpost =>
      have hphases := ((iterates_run h).1 _).mp hpost
      rw [Act.bind_ok h, runCallbacks_eq, Act.bind_error hphases]
    | source h hpost hsource =>
      have hphases := ((iterates_run h).1 _).mp hpost
      rw [Act.bind_ok h, runCallbacks_eq, Act.bind_ok hphases]
      exact Act.bind_error (((iterates_run h).2 _ hphases _).mp hsource)
    | returned h hpost hsource =>
      have hphases := ((iterates_run h).1 _).mp hpost
      rw [Act.bind_ok h, runCallbacks_eq, Act.bind_ok hphases]
      exact Act.bind_ok (((iterates_run h).2 _ hphases _).mp hsource)
  · rintro rfl
    rw [run_eq]
    cases h : phase files inputs (.initialization inputs [] []) script s.withSink with
    | error e t =>
      rw [Act.bind_error h]
      exact .initialization h
    | ok context t =>
      rw [Act.bind_ok h, runCallbacks_eq]
      obtain ⟨hpost, hsource⟩ := iterates_run h
      cases hp : phases files inputs (.postInitialization s.sinks.length) (t.callbacks context).1 t with
      | error e u =>
        rw [Act.bind_error hp]
        exact .post h ((hpost _).mpr hp)
      | ok _ u =>
        rw [Act.bind_ok hp]
        cases hs : phases files inputs (.sourceProduction s.sinks.length) (t.callbacks context).2 u with
        | error e v =>
          rw [Act.bind_error hs]
          exact .source h ((hpost _).mpr hp) ((hsource u hp _).mpr hs)
        | ok _ v =>
          rw [Act.bind_ok hs]
          exact .returned h ((hpost _).mpr hp) ((hsource u hp _).mpr hs)

/-! ### One pass -/

/-- How a run goes, whatever comes of it. -/
structure SinglePass {α : Type} (files : FileTree) (inputs : Inputs) (script : Script) (s : Session)
    (steps : List (Event × Moment)) (result : EStateM.Result Failure Session α) : Prop where
  /-- The steps lead from the beginning of the run to its end. -/
  course : ∃ running, Course ⟨none, s.withSink⟩ steps ⟨running, (run files inputs script).after s⟩
  /-- The generator is initialized, and its callbacks are called once for each registration, in order. -/
  ran : Ran files inputs result
    (plan inputs s.sinks.length script (registrations s.contexts.length .registerPost steps)
      (registrations s.contexts.length .registerSource steps)) (starts steps)
  /-- From the end of the initialization on, the callbacks are those that were registered. -/
  fixed : ∃ rest, steps = phaseSteps files inputs (.initialization inputs [] []) script s.withSink ++ rest ∧
    ∀ step ∈ rest, step.2.session.callbacks s.contexts.length =
      (registrations s.contexts.length .registerPost steps, registrations s.contexts.length .registerSource steps)
  /-- To look the callbacks up while they are called would make no difference. -/
  live : ∀ r, LiveRun files inputs script s r ↔ run files inputs script s = r

theorem run_single_pass {α : Type} {result : EStateM.Result Failure Session α}
    (hok : ∀ sink t, run files inputs script s = .ok sink t → ∃ a, result = .ok a t)
    (herror : ∀ e t, run files inputs script s = .error e t → result = .error e t) :
    SinglePass files inputs script s (runSteps files inputs script s) result := by
  obtain ⟨rest, hsteps, hpost, hsource, hfixed⟩ := runSteps_eq files inputs script s
  have hran := ran_run hok herror
  dsimp only at hran
  have hregistered : ∀ method, registrations s.contexts.length method rest = [] →
      registrations s.contexts.length method (runSteps files inputs script s) =
        registrations s.contexts.length method
          (phaseSteps files inputs (.initialization inputs [] []) script s.withSink) := fun method h => by
    rw [hsteps, registrations_append, h, List.append_nil]
  rw [← hregistered _ hpost, ← hregistered _ hsource] at hran hfixed
  exact ⟨(goes_run files inputs script s).course, hran, ⟨rest, hsteps, hfixed⟩, fun _ => liveRun_iff⟩

/-- A generator is called only if there is a compilation to begin with; it is then run in a single pass, and the
    generation fails if and only if one of the calls does, with that failure. -/
theorem execute_single_pass (files : FileTree) (references : List Reference) (options : Options Text)
    (texts : List AdditionalText) (script : Script) (s : Session) :
    match baseCompilation references s with
    | .error e t => steps files references options texts script s = [] ∧
        execute files references options texts script s = .error e t
    | .ok base t => SinglePass files ⟨base, options, texts⟩ script t
        (steps files references options texts script s) (execute files references options texts script s) := by
  cases hb : baseCompilation references s with
  | error e t => exact ⟨stepsAfter_of_error hb _, Act.bind_error hb⟩
  | ok base t =>
    obtain ⟨hok, herror⟩ := execute_of_run files options texts script hb
    have hsteps : steps files references options texts script s = _ := stepsAfter_of_ok hb _
    rw [hsteps]
    exact run_single_pass hok herror

/-- The callbacks of both kinds are sorted out, and that of one that fails is the last. -/
example :
    (starts (runSteps default default
      [.source [.raise (.exit .null)], .post [], .source [], .post []] Session.new)).map (·.role.name) =
      ["GeneratorInitializationContext", "PostInitializationContext", "PostInitializationContext",
        "SourceProductionContext"] := by
  decide +kernel

end Callbacks
end Generation
end GeneratorHost
