import GeneratorHost.Proofs.Generation.Course

/-! Which contexts can be used, and when. While a generator is run, the context of the call that is going on is open and
    no other that this run handed out; what was left open by earlier runs leads to their sinks and callbacks. Afterwards
    all contexts are sealed, but for that of a call that failed. -/

namespace GeneratorHost

/-- The actions that call a method of a context, with arguments of whatever kind. -/
inductive Action.Calls : Action → Method → Prop
  | post (script : Script) : Calls (.post script) .registerPost
  | source (script : Script) : Calls (.source script) .registerSource
  | add (name text : Value) : Calls (.add name text) .addSource
  | report {fields : Fields} {d : Diagnostic} (h : Diagnostic.create fields = .ok d) : Calls (.report fields) .report
  | reportValue (v : Value) : Calls (.reportValue v) .report

namespace Session

variable {s t : Session} {id n k : Nat} {c : Context} {action : Action} {method : Method}

/-! ### Calls through sealed contexts -/

/-- Every call through a context fails and changes nothing: the context is closed, or it has no such method. -/
def Refuses (s : Session) (id : Nat) (c : Context) : Prop :=
  ∀ (files : FileTree) (inputs : Option Inputs) (action : Action) (method : Method), action.Calls method →
    perform files inputs (some id) action s =
      .error (if c.role.offers method then .closed method.name c.role.name
        else .noAttribute c.role.name method.name) s

theorem lookUp_of_offers (h : s.contexts[id]? = some c) (ho : c.role.offers method = true) :
    lookUp (some id) method s = .ok (id, c) s := by
  simp only [lookUp, member, pure_bind, Act.get_bind, h, Option.map_some, ho, if_true]
  rfl

theorem lookUp_of_not_offers (h : s.contexts[id]? = some c) (ho : c.role.offers method = false) :
    lookUp (some id) method s = .error (.noAttribute c.role.name method.name) s := by
  simp only [lookUp, member, pure_bind, Act.get_bind, h, Option.map_some, ho]
  rfl

/-- A call is looked up first; nothing of it is done if the context is sealed. -/
theorem perform_of_offers (h : s.contexts[id]? = some c) (hs : c.isSealed = true) (files : FileTree)
    (inputs : Option Inputs) (hc : action.Calls method) (ho : c.role.offers method = true) :
    perform files inputs (some id) action s = .error (.closed method.name c.role.name) s := by
  have hlook := lookUp_of_offers h ho
  have hclosed := checkOpen_of_sealed hs method s
  cases hc with
  | post | source | reportValue => exact (Act.bind_ok hlook).trans (Act.bind_error hclosed)
  | add name text =>
    have hadd : addSource c name text s = .error (.closed Method.addSource.name c.role.name) s := Act.bind_error hclosed
    exact (Act.bind_ok hlook).trans hadd
  | @report fields d hd =>
    have hreport : Session.report c d s = .error (.closed Method.report.name c.role.name) s := Act.bind_error hclosed
    rw [perform, Act.bind_ok hlook, hd]
    exact hreport

theorem perform_of_not_offers (h : s.contexts[id]? = some c) (files : FileTree) (inputs : Option Inputs)
    (hc : action.Calls method) (ho : c.role.offers method = false) :
    perform files inputs (some id) action s = .error (.noAttribute c.role.name method.name) s := by
  have hlook := lookUp_of_not_offers h ho
  cases hc <;> exact Act.bind_error hlook

theorem refuses_of_sealed (h : s.contexts[id]? = some c) (hs : c.isSealed = true) : s.Refuses id c := by
  intro files inputs action method hc
  cases ho : c.role.offers method with
  | true => exact perform_of_offers h hs files inputs hc ho
  | false => exact perform_of_not_offers h files inputs hc ho

/-! ### Calls through contexts of earlier runs -/

theorem callbacks_congr (h : t.contexts[id]? = s.contexts[id]?) : t.callbacks id = s.callbacks id := by
  simp only [callbacks, h]

theorem callbacks_withRole_of_ne {role : Role} {j : Nat} (h : id ≠ j) :
    (s.withRole id c role).callbacks j = s.callbacks j :=
  callbacks_congr (List.getElem?_set_ne h)

theorem sink_modify_of_ne {sink : Nat} (h : sink ≠ k) (change : Sink → Sink) :
    ({ s with sinks := s.sinks.modify sink change } : Session).sink k = s.sink k := by
  simp [Session.sink, h]

/-- A call through a context that writes to another sink leaves sink `k` and the callbacks of all other contexts as
    they are. -/
theorem call_apart (files : FileTree) (inputs : Option Inputs) (hc : action.Calls method)
    (hk : ∀ c : Context, s.contexts[id]? = some c → c.role.sink? ≠ some k) :
    ((perform files inputs (some id) action).after s).sink k = s.sink k ∧
      ∀ j, id ≠ j → ((perform files inputs (some id) action).after s).callbacks j = s.callbacks j := by
  -- A call that is refused changes nothing, and one that returns goes to the sink or the callbacks of its own context.
  have hstay : ∀ {e}, perform files inputs (some id) action s = .error e s →
      ((perform files inputs (some id) action).after s).sink k = s.sink k ∧
        ∀ j, id ≠ j → ((perform files inputs (some id) action).after s).callbacks j = s.callbacks j := fun h => by
    rw [Act.after_of_error h]
    exact ⟨rfl, fun _ _ => rfl⟩
  have hother : ∀ {sink c}, s.contexts[id]? = some c → c.role.sink? = some sink → sink ≠ k := fun hc hs he =>
    hk _ hc (he ▸ hs)
  have hregistered : ∀ {method script}, method = .registerPost ∨ method = .registerSource →
      perform files inputs (some id) action =
        (lookUp (some id) method >>= fun held => register held.1 held.2 method script) →
      ((perform files inputs (some id) action).after s).sink k = s.sink k ∧
        ∀ j, id ≠ j → ((perform files inputs (some id) action).after s).callbacks j = s.callbacks j := by
    intro method script hm hp
    rcases register_cases (some id) hm script s with ⟨e, h⟩ | ⟨i, c, role, hid, -, -, -, h⟩
    · exact hstay (hp ▸ h)
    · obtain rfl := Option.some.inj hid
      rw [hp, Act.after_of_ok h]
      exact ⟨rfl, fun j hj => callbacks_withRole_of_ne hj⟩
  cases hc with
  | post script => exact hregistered (Or.inl rfl) rfl
  | source script => exact hregistered (Or.inr rfl) rfl
  | add name text =>
    rcases addThrough_cases (Act.reads_pure text) (some id) name s with
      ⟨e, h⟩ | ⟨i, c, sink, path, text, hid, hc, -, hs, -, -, h⟩
    · exact hstay h
    · obtain rfl := Option.some.inj hid
      have hp : perform files inputs (some id) (.add name _) s = .ok () (s.withDocument sink ⟨path, text⟩) := h
      rw [Act.after_of_ok hp]
      exact ⟨sink_modify_of_ne (hother hc hs) _, fun _ _ => rfl⟩
  | report =>
    rcases report_cases files inputs (some id) _ s with ⟨e, h⟩ | ⟨i, c, sink, d, hid, hc, -, hs, -, h⟩
    · exact hstay h
    · obtain rfl := Option.some.inj hid
      rw [Act.after_of_ok h]
      exact ⟨sink_modify_of_ne (hother hc hs) _, fun _ _ => rfl⟩
  | reportValue v =>
    obtain ⟨e, h⟩ := reportValue_error files inputs (some id) v s
    exact hstay h

/-! ### Sound sessions -/

theorem sound_new : Session.new.Sound := fun _ _ _ h => nomatch h

theorem Sound.withSink (h : s.Sound) : s.withSink.Sound := fun id c sink hc hs =>
  Nat.lt_of_lt_of_le (h id c sink hc hs) (by simp [Session.withSink])

end Session

namespace Generation
open Session

variable {files : FileTree} {inputs : Inputs} {references : List Reference} {options : Options Text}
  {texts : List AdditionalText} {script : Script} {s t u : Session} {id : Nat}

/-! ### From one run to the next -/

theorem after_run (files : FileTree) (inputs : Inputs) (script : Script) (s : Session) :
    (run files inputs script).after s =
      (phase files inputs (.initialization inputs [] []) script >>= runCallbacks files inputs s.sinks.length).after
        s.withSink := rfl

theorem sound_run (hs : s.Sound) : ((run files inputs script).after s).Sound := by
  obtain ⟨running, hcourse⟩ := (goes_run files inputs script s).course
  rw [after_run]
  exact hcourse.sound hs.withSink

/-- A session is later than another if it is left by scripts and generations from there, whatever came of them. -/
inductive Later : Session → Session → Prop
  | now (s : Session) : Later s s
  | acted {s t : Session} (h : Later s t) (files : FileTree) (inputs : Option Inputs) (context : Option Nat)
    (actions : List Action) : Later s ((performAll files inputs context actions).after t)
  | executed {s t : Session} (h : Later s t) (files : FileTree) (references : List Reference) (options : Options Text)
    (texts : List AdditionalText) (script : Script) :
    Later s ((execute files references options texts script).after t)

theorem baseCompilation_cases (references : List Reference) (s : Session) :
    (∃ e, baseCompilation references s = .error e s) ∨
      ∃ base, baseCompilation references s = .ok base (s.withStamps 2) := by
  unfold baseCompilation
  cases references with
  | nil => exact Or.inl ⟨_, rfl⟩
  | cons reference references => exact Or.inr ⟨_, rfl⟩

/-- A generation that has a compilation to begin with ends as its run does. -/
theorem execute_of_run (files : FileTree) (options : Options Text) (texts : List AdditionalText) (script : Script)
    {base : Compilation} (hb : baseCompilation references s = .ok base t) :
    (∀ sink u, run files ⟨base, options, texts⟩ script t = .ok sink u →
        ∃ result, execute files references options texts script s = .ok result u) ∧
      ∀ e u, run files ⟨base, options, texts⟩ script t = .error e u →
        execute files references options texts script s = .error e u := by
  have hexecute : execute files references options texts script s = _ := Act.bind_ok hb
  constructor
  · intro sink u hr
    have hupdate : update files ⟨base, options, texts⟩ script t = .ok (base.add sink.documents, sink.diagnostics) u :=
      Act.bind_ok hr
    exact ⟨_, hexecute.trans (Act.bind_ok hupdate)⟩
  · intro e u hr
    have hupdate : update files ⟨base, options, texts⟩ script t = .error e u := Act.bind_error hr
    exact hexecute.trans (Act.bind_error hupdate)

theorem after_execute {base : Compilation} (hb : baseCompilation references s = .ok base t) :
    (execute files references options texts script).after s = (run files ⟨base, options, texts⟩ script).after t := by
  obtain ⟨hok, herror⟩ := execute_of_run files options texts script hb
  cases hr : run files ⟨base, options, texts⟩ script t with
  | ok sink u =>
    obtain ⟨result, h⟩ := hok sink u hr
    rw [Act.after_of_ok h, Act.after_of_ok hr]
  | error e u => rw [Act.after_of_error (herror e u hr), Act.after_of_error hr]

theorem keeps_execute (files : FileTree) (references : List Reference) (options : Options Text)
    (texts : List AdditionalText) (script : Script) (s : Session) :
    s.Keeps ((execute files references options texts script).after s) := by
  rcases baseCompilation_cases references s with ⟨e, hb⟩ | ⟨base, hb⟩
  · have h : execute files references options texts script s = .error e s := Act.bind_error hb
    rw [Act.after_of_error h]
    exact .of_contexts_eq rfl
  · obtain ⟨running, hcourse⟩ := (goes_run files ⟨base, options, texts⟩ script (s.withStamps 2)).course
    rw [after_execute hb, after_run]
    have hstart : s.Keeps (s.withStamps 2).withSink := .of_contexts_eq rfl
    exact hstart.trans hcourse.keeps.2.1

theorem sound_execute (hs : s.Sound) : ((execute files references options texts script).after s).Sound := by
  rcases baseCompilation_cases references s with ⟨e, hb⟩ | ⟨base, hb⟩
  · have h : execute files references options texts script s = .error e s := Act.bind_error hb
    rwa [Act.after_of_error h]
  · rw [after_execute hb]
    exact sound_run (s := s.withStamps 2) hs

theorem Later.keeps (h : Later s t) : s.Keeps t := by
  induction h with
  | now => exact .of_contexts_eq rfl
  | @acted u _ files inputs context actions ih =>
    have hcourse : Leads none (performAll files inputs context actions) _ u := leads_performAllSteps context actions u
    exact ih.trans (Course.keeps hcourse).2.1
  | executed _ files references options texts script ih =>
    exact ih.trans (keeps_execute files references options texts script _)

theorem Later.sound (h : Later s t) (hs : s.Sound) : t.Sound := by
  induction h with
  | now => exact hs
  | @acted u _ files inputs context actions ih =>
    have hcourse : Leads none (performAll files inputs context actions) _ u := leads_performAllSteps context actions u
    exact Course.sound hcourse ih
  | executed _ files references options texts script ih => exact sound_execute ih

/-! ### During a run -/

/-- What holds at every moment of a run that opens its contexts from `n` on and writes to sink `k`: the context of the
    call that is going on is open and no other one of the run, so that all others refuse every call, and a call through a
    context from before the run changes neither its sink nor its callbacks. -/
structure OnlyRunning (n k : Nat) (m : Moment) : Prop where
  isOpen_iff : ∀ id, n ≤ id → (m.session.IsOpen id ↔ m.running = some id)
  refuses : ∀ (id : Nat) (c : Context), n ≤ id → m.session.contexts[id]? = some c → m.running ≠ some id →
    m.session.Refuses id c
  apart : ∀ (id : Nat), id < n → ∀ (files : FileTree) (inputs : Option Inputs) (action : Action) (method : Method),
    action.Calls method →
      ((perform files inputs (some id) action).after m.session).sink k = m.session.sink k ∧
        ∀ j, n ≤ j → ((perform files inputs (some id) action).after m.session).callbacks j = m.session.callbacks j

theorem onlyRunning_of_alone {m : Moment} (hs : s.Sound) (ha : Alone s.contexts.length m)
    (hkeeps : s.withSink.Keeps m.session) : OnlyRunning s.contexts.length s.sinks.length m where
  isOpen_iff := ha.isOpen_iff
  refuses id c hn hc hr := by
    refine refuses_of_sealed hc ?_
    cases hsealed : c.isSealed with
    | true => rfl
    | false => exact absurd ((ha.isOpen_iff id hn).mp ⟨c, hc, hsealed⟩) hr
  apart id hid files inputs action method hcalls := by
    have hother : ∀ c : Context, m.session.contexts[id]? = some c → c.role.sink? ≠ some s.sinks.length := by
      -- the context was there before the run, with the same sink, and so was that sink
      intro c hc hsink
      have hold : s.contexts[id]? = some s.contexts[id] := List.getElem?_eq_getElem hid
      obtain ⟨c', hc', hsame⟩ := hkeeps.sinks id _ hold
      obtain rfl := Option.some.inj (hc.symm.trans hc')
      exact Nat.lt_irrefl _ (hs id _ _ hold (hsame.symm.trans hsink))
    obtain ⟨h₁, h₂⟩ := call_apart files inputs hcalls hother
    exact ⟨h₁, fun j hj => h₂ j (Nat.ne_of_lt (Nat.lt_of_lt_of_le hid hj))⟩

/-- The steps of a run lead from its beginning to its end. At each of them the only open context of this run is that of
    the call that is going on; no context that was sealed is opened again. -/
theorem run_contexts (hs : s.Sound) :
    (∃ running, Course ⟨none, s.withSink⟩ (runSteps files inputs script s) ⟨running, (run files inputs script).after s⟩) ∧
      (∀ step ∈ runSteps files inputs script s, OnlyRunning s.contexts.length s.sinks.length step.2) ∧
      (∀ step ∈ runSteps files inputs script s, s.Keeps step.2.session) ∧
      (runSteps files inputs script s).Pairwise (fun p q => p.2.session.Keeps q.2.session) ∧
      ((run files inputs script).after s).Sound := by
  obtain ⟨running, hcourse⟩ := (goes_run files inputs script s).course
  obtain ⟨hkeeps, -, hpairs⟩ := hcourse.keeps
  have hstart : s.Keeps s.withSink := .of_contexts_eq rfl
  refine ⟨⟨running, hcourse⟩, fun step hstep => ?_, fun step hstep => hstart.trans (hkeeps step hstep), hpairs,
    sound_run hs⟩
  exact onlyRunning_of_alone hs ((hcourse.alone (alone_start s.withSink)).1 step hstep) (hkeeps step hstep)

/-- A generator that saves the context of its callback and then fails. -/
def abandoning : Script := [.post [.save "old", .raise (.raised "ValueError" "stop")]]

/-- A generator that uses a saved context of an earlier run and its own initialization context in a callback. -/
def meddling : Script :=
  [.save "mine", .source [.within "old" [.add (.text "a") (.text "b")], .attempt [.within "mine" [.source []]]]]

/-- The context that the first run left open takes a document during the second one, into the sink of the first. -/
theorem run_contexts_meddling :
    let left := (run default default abandoning).after Session.new
    left.Sound ∧ left.contexts.map (·.isSealed) = [true, false] ∧
      ((run default default meddling).after left).sinks.map (·.documents.length) = [1, 0] ∧
      (runSteps default default meddling left).length = 8 ∧
      ∀ step ∈ runSteps default default meddling left, OnlyRunning 2 1 step.2 := by
  have hs : ((run default default abandoning).after Session.new).Sound := sound_run sound_new
  exact ⟨hs, by decide +kernel, by decide +kernel, by decide +kernel, (run_contexts hs).2.1⟩

/-- A generator that saves its initialization context and adds a document through it later. -/
def misdirected : Script := [.save "kept", .source [.within "kept" [.add (.text "a") (.text "b")]]]

/-- A context that is closed need not say so: it has no method for what the other kinds of contexts do. -/
theorem not_closed_misdirected :
    ¬∀ step ∈ runSteps default default misdirected Session.new, ∀ (id : Nat) (c : Context),
      step.2.session.contexts[id]? = some c → step.2.running ≠ some id →
        ∀ (action : Action) (method : Method), action.Calls method →
          ∃ operation role t, perform default (some default) (some id) action step.2.session =
            .error (.closed operation role) t := by
  have hcalled : (runSteps default default misdirected Session.new).any (fun step =>
      step.2.running == some 1 && (match step.2.session.contexts[0]? with
        | some c => !c.role.offers .addSource
        | none => false)) = true := by decide +kernel
  obtain ⟨step, hstep, hmoment⟩ := List.any_eq_true.mp hcalled
  obtain ⟨hrunning, hoffers⟩ := Bool.and_eq_true_iff.mp hmoment
  intro hclosed
  cases hc : step.2.session.contexts[0]? with
  | none =>
    rw [hc] at hoffers
    cases hoffers
  | some c =>
    rw [hc, Bool.not_eq_true'] at hoffers
    have hother : step.2.running ≠ some 0 := by
      rw [beq_iff_eq.mp hrunning]
      decide
    obtain ⟨operation, role, t, h⟩ := hclosed step hstep 0 c hc hother _ _ (.add (.text "a") (.text "b"))
    rw [perform_of_not_offers hc default (some default) (.add _ _) hoffers] at h
    cases h

/-! ### After a run -/

/-- Of the contexts of a run that is over one is open if it failed, the last one, and none if it returned. -/
theorem isOpen_after_run (files : FileTree) (inputs : Inputs) (script : Script) (s : Session)
    (hn : s.contexts.length ≤ id) :
    ((run files inputs script).after s).IsOpen id ↔
      (∃ e t, run files inputs script s = .error e t) ∧
        id + 1 = ((run files inputs script).after s).contexts.length := by
  have hgoes := goes_run files inputs script s
  have hstart : Alone s.contexts.length ⟨none, s.withSink⟩ := alone_start s.withSink
  cases hr : run files inputs script s with
  | ok sink t =>
    have halone := ((hgoes.of_ok hr).alone hstart).2
    rw [Act.after_of_ok hr, halone.isOpen_iff id hn]
    simp
  | error e t =>
    obtain ⟨last, hcourse⟩ := hgoes.of_error hr
    have halone := (hcourse.alone hstart).2
    obtain ⟨-, hlast⟩ := halone.last last rfl
    rw [Act.after_of_error hr, halone.isOpen_iff id hn]
    constructor
    · intro he
      exact ⟨⟨e, t, rfl⟩, Option.some.inj he ▸ hlast⟩
    · rintro ⟨-, he⟩
      exact congrArg some (Nat.succ.inj (hlast.trans he.symm))

/-- A generation that has a compilation to begin with fails if and only if its run does. -/
theorem execute_fails_iff {base : Compilation} (hb : baseCompilation references s = .ok base t) :
    (∃ e u, execute files references options texts script s = .error e u) ↔
      ∃ e u, run files ⟨base, options, texts⟩ script t = .error e u := by
  obtain ⟨hok, herror⟩ := execute_of_run files options texts script hb
  cases hr : run files ⟨base, options, texts⟩ script t with
  | ok sink u =>
    obtain ⟨result, h⟩ := hok sink u hr
    simp [h]
  | error e u => simp [herror e u hr]

/-- Of the contexts that a generation handed out all are sealed afterwards, but for the last one if the generation
    failed: that of the call that failed. A sealed context refuses every call from then on. -/
theorem execute_sealed (files : FileTree) (references : List Reference) (options : Options Text)
    (texts : List AdditionalText) (script : Script) (s : Session) :
    let t := (execute files references options texts script).after s
    (∀ (id : Nat) (c : Context), s.contexts.length ≤ id → t.contexts[id]? = some c →
        (c.isSealed = false ↔
          (∃ e u, execute files references options texts script s = .error e u) ∧ id + 1 = t.contexts.length)) ∧
      ∀ (id : Nat) (c : Context), t.contexts[id]? = some c → c.isSealed = true →
        ∀ u, Later t u → u.Refuses id c := by
  intro t
  refine ⟨fun id c hn hc => ?_, fun id c hc hs u hu => refuses_of_sealed (hu.keeps.sealed id c hc hs) hs⟩
  have hopen : c.isSealed = false ↔ t.IsOpen id :=
    ⟨fun ho => ⟨c, hc, ho⟩, fun ⟨c', hc', ho⟩ => Option.some.inj (hc'.symm.trans hc) ▸ ho⟩
  rcases baseCompilation_cases references s with ⟨e, hb⟩ | ⟨base, hb⟩
  · -- nothing was handed out
    have h : execute files references options texts script s = .error e s := Act.bind_error hb
    have ht : t = s := Act.after_of_error h
    exact absurd (lt_of_context (ht ▸ hc)) (Nat.not_lt_of_ge hn)
  · have ht : t = (run files ⟨base, options, texts⟩ script).after (s.withStamps 2) := after_execute hb
    rw [hopen, ht, execute_fails_iff hb]
    exact isOpen_after_run files ⟨base, options, texts⟩ script (s.withStamps 2) hn

end Generation
end GeneratorHost
