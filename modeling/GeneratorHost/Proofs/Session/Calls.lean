import GeneratorHost.Proofs.Act
import GeneratorHost.Session.Perform

/-! The calls that a generator makes. Each of them either fails and leaves the session as it is, or it returns and
    has one known effect. The calls that return are listed in the order in which they are made, whether or not
    what surrounds them fails later. -/

namespace GeneratorHost

/-- A call that returned: a document was added, or a diagnostic reported. -/
inductive Call
  | added (source : Source)
  | reported (d : Diagnostic)

namespace Call

/-- The document that a call added. -/
def source? : Call → Option Source
  | added source => some source
  | reported _ => none

/-- The diagnostic that a call reported. -/
def diagnostic? : Call → Option Diagnostic
  | added _ => none
  | reported d => some d

end Call

namespace Session

/-! ### What a call does -/

/-- The session after a document went to a sink. -/
def withDocument (s : Session) (sink : Nat) (source : Source) : Session :=
  { s with
    nextStamp := s.nextStamp + 1
    sinks := s.sinks.modify sink fun k => { k with documents := k.documents ++ [⟨s.nextStamp, source⟩] } }

/-- The session after a diagnostic went to a sink. -/
def withDiagnostic (s : Session) (sink : Nat) (d : Diagnostic) : Session :=
  { s with sinks := s.sinks.modify sink fun k => { k with diagnostics := k.diagnostics ++ [d] } }

/-- The session after something was noted. -/
def withNote (s : Session) (n : Note) : Session := { s with notes := s.notes ++ [n] }

/-- The session after a context was kept under a name. -/
def withSlot (s : Session) (name : Text) (context : Option Nat) : Session :=
  { s with slots := (name, context) :: s.slots.filter fun slot => slot.1 != name }

/-- The session after a context got another role. -/
def withRole (s : Session) (id : Nat) (c : Context) (role : Role) : Session :=
  { s with contexts := s.contexts.set id { c with role } }

/-- The role of an initialization context with one more callback. -/
def Registers (role role' : Role) : Prop :=
  ∃ inputs post source script, role = .initialization inputs post source ∧
    (role' = .initialization inputs (post ++ [script]) source ∨
      role' = .initialization inputs post (source ++ [script]))

theorem member_cases {α : Type} (context : Option Nat) (name : String) (find : Context → Option α) (s : Session) :
    (∃ e, member context name find s = .error e s) ∨
      ∃ id c a, context = some id ∧ s.contexts[id]? = some c ∧ find c = some a ∧
        member context name find s = .ok (id, a) s := by
  cases context with
  | none => exact Or.inl ⟨_, rfl⟩
  | some id =>
    simp only [member, pure_bind, Act.get_bind]
    cases hc : s.contexts[id]? with
    | none => exact Or.inl ⟨_, rfl⟩
    | some c =>
      simp only [Option.map_some]
      cases hf : find c with
      | none => exact Or.inl ⟨_, rfl⟩
      | some a => exact Or.inr ⟨id, c, a, rfl, hc, hf, rfl⟩

theorem lookUp_cases (context : Option Nat) (method : Method) (s : Session) :
    (∃ e, lookUp context method s = .error e s) ∨
      ∃ id c, context = some id ∧ s.contexts[id]? = some c ∧ c.role.offers method ∧
        lookUp context method s = .ok (id, c) s := by
  rcases member_cases context method.name (fun c => if c.role.offers method then some c else none) s with
    h | ⟨id, c, a, hid, hc, hf, h⟩
  · exact Or.inl h
  · obtain ⟨ho, hca⟩ := Option.ite_none_right_eq_some.mp hf
    obtain rfl := Option.some.inj hca
    exact Or.inr ⟨id, c, hid, hc, ho, h⟩

theorem checkOpen_of_sealed {c : Context} (h : c.isSealed = true) (method : Method) (s : Session) :
    checkOpen c method s = .error (.closed method.name c.role.name) s := by
  simp [checkOpen, h]
  rfl

theorem checkOpen_of_open {c : Context} (h : c.isSealed = false) (method : Method) (s : Session) :
    checkOpen c method s = .ok () s := by
  simp [checkOpen, h]
  rfl

theorem sink?_of_offers_addSource {role : Role} (h : role.offers .addSource) : ∃ sink, role.sink? = some sink := by
  cases role with
  | initialization inputs post source => cases h
  | postInitialization sink => exact ⟨sink, rfl⟩
  | sourceProduction sink => exact ⟨sink, rfl⟩

theorem sink?_of_offers_report {role : Role} (h : role.offers .report) : ∃ sink, role.sink? = some sink := by
  cases role with
  | initialization inputs post source => cases h
  | postInitialization sink => cases h
  | sourceProduction sink => exact ⟨sink, rfl⟩

theorem addSource_cases {c : Context} {sink : Nat} (hs : c.role.sink? = some sink) (name text : Value) (s : Session) :
    (∃ e, addSource c name text s = .error e s) ∨
      ∃ path content, name = .text path ∧ text = .text content ∧ c.isSealed = false ∧
        addSource c name text s = .ok () (s.withDocument sink ⟨path, content⟩) := by
  cases hsealed : c.isSealed with
  | true => exact Or.inl ⟨_, Act.bind_error (checkOpen_of_sealed hsealed _ s)⟩
  | false =>
    by_cases ht : ∃ path content, name = .text path ∧ text = .text content
    · obtain ⟨path, content, rfl, rfl⟩ := ht
      refine Or.inr ⟨path, content, rfl, rfl, rfl, ?_⟩
      rw [addSource, Act.bind_ok (checkOpen_of_open hsealed _ s)]
      simp only [produce, hs]
      rfl
    · refine Or.inl ⟨.sourceNotText, ?_⟩
      rw [addSource, Act.bind_ok (checkOpen_of_open hsealed _ s)]
      · rfl
      · intro path content hname htext
        exact ht ⟨path, content, hname, htext⟩

/-- Adding a document fails and changes nothing, or puts the document into the sink of an open context. -/
theorem addThrough_cases {content : Act Session Value} (hr : content.Reads) (context : Option Nat) (name : Value)
    (s : Session) :
    (∃ e, addThrough context name content s = .error e s) ∨
      ∃ id c sink path text, context = some id ∧ s.contexts[id]? = some c ∧ c.isSealed = false ∧
        c.role.sink? = some sink ∧ name = .text path ∧ content s = .ok (.text text) s ∧
        addThrough context name content s = .ok () (s.withDocument sink ⟨path, text⟩) := by
  rcases lookUp_cases context .addSource s with ⟨e, h⟩ | ⟨id, c, hid, hc, ho, h⟩
  · exact Or.inl ⟨e, Act.bind_error h⟩
  · obtain ⟨sink, hs⟩ := sink?_of_offers_addSource ho
    have hstep : addThrough context name content s = (content >>= fun text => addSource c name text) s :=
      Act.bind_ok h
    cases hcontent : content s with
    | error e t =>
      obtain rfl := hr.error hcontent
      exact Or.inl ⟨e, hstep.trans (Act.bind_error hcontent)⟩
    | ok v t =>
      obtain rfl := hr.ok hcontent
      rw [hstep, Act.bind_ok hcontent]
      rcases addSource_cases hs name v t with h' | ⟨path, text, hname, rfl, hopen, h'⟩
      · exact Or.inl h'
      · exact Or.inr ⟨id, c, sink, path, text, hid, hc, hopen, hs, hname, rfl, h'⟩

theorem reportTo_cases {c : Context} {sink : Nat} (hs : c.role.sink? = some sink) (d : Diagnostic) (s : Session) :
    (∃ e, report c d s = .error e s) ∨
      c.isSealed = false ∧ report c d s = .ok () (s.withDiagnostic sink d) := by
  cases hsealed : c.isSealed with
  | true => exact Or.inl ⟨_, Act.bind_error (checkOpen_of_sealed hsealed .report s)⟩
  | false =>
    refine Or.inr ⟨rfl, ?_⟩
    rw [report, Act.bind_ok (checkOpen_of_open hsealed _ s)]
    simp only [produce, hs]
    rfl

/-- Reporting a diagnostic fails and changes nothing, or puts it into the sink of an open context. -/
theorem report_cases (files : FileTree) (inputs : Option Inputs) (context : Option Nat) (fields : Fields)
    (s : Session) :
    (∃ e, perform files inputs context (.report fields) s = .error e s) ∨
      ∃ id c sink d, context = some id ∧ s.contexts[id]? = some c ∧ c.isSealed = false ∧
        c.role.sink? = some sink ∧ Diagnostic.create fields = .ok d ∧
        perform files inputs context (.report fields) s = .ok () (s.withDiagnostic sink d) := by
  rw [perform]
  rcases lookUp_cases context .report s with ⟨e, h⟩ | ⟨id, c, hid, hc, ho, h⟩
  · exact Or.inl ⟨e, Act.bind_error h⟩
  · obtain ⟨sink, hs⟩ := sink?_of_offers_report ho
    rw [Act.bind_ok h]
    cases hd : Diagnostic.create fields with
    | error e => exact Or.inl ⟨e, rfl⟩
    | ok d =>
      rcases reportTo_cases hs d s with ⟨e, h'⟩ | ⟨hopen, h'⟩
      · exact Or.inl ⟨e, h'⟩
      · exact Or.inr ⟨id, c, sink, d, hid, hc, hopen, hs, rfl, h'⟩

/-- Reporting what is no diagnostic fails and changes nothing. -/
theorem reportValue_error (files : FileTree) (inputs : Option Inputs) (context : Option Nat) (v : Value) (s : Session) :
    ∃ e, perform files inputs context (.reportValue v) s = .error e s := by
  rw [perform]
  rcases lookUp_cases context .report s with ⟨e, h⟩ | ⟨id, c, -, -, -, h⟩
  · exact ⟨e, Act.bind_error h⟩
  · rw [Act.bind_ok h]
    cases hsealed : c.isSealed with
    | true => exact ⟨_, Act.bind_error (checkOpen_of_sealed hsealed .report s)⟩
    | false => exact ⟨.notDiagnostic, Act.bind_ok (checkOpen_of_open hsealed .report s)⟩

/-- Registering a callback fails and changes nothing, or appends it to those of an open context. -/
theorem register_cases (context : Option Nat) {method : Method} (hm : method = .registerPost ∨ method = .registerSource)
    (script : Script) (s : Session) :
    (∃ e, (lookUp context method >>= fun held => register held.1 held.2 method script) s = .error e s) ∨
      ∃ id c role, context = some id ∧ s.contexts[id]? = some c ∧ c.isSealed = false ∧ Registers c.role role ∧
        (lookUp context method >>= fun held => register held.1 held.2 method script) s =
          .ok () (s.withRole id c role) := by
  rcases lookUp_cases context method s with ⟨e, h⟩ | ⟨id, c, hid, hc, ho, h⟩
  · exact Or.inl ⟨e, Act.bind_error h⟩
  · rw [Act.bind_ok h]
    cases hsealed : c.isSealed with
    | true => exact Or.inl ⟨_, Act.bind_error (checkOpen_of_sealed hsealed method s)⟩
    | false =>
      obtain ⟨role, isSealed⟩ := c
      obtain rfl : isSealed = false := hsealed
      cases role with
      | initialization inputs post source =>
        rcases hm with rfl | rfl
        · exact Or.inr ⟨id, _, .initialization inputs (post ++ [script]) source, hid, hc, rfl,
            ⟨inputs, post, source, script, rfl, Or.inl rfl⟩, rfl⟩
        · exact Or.inr ⟨id, _, .initialization inputs post (source ++ [script]), hid, hc, rfl,
            ⟨inputs, post, source, script, rfl, Or.inr rfl⟩, rfl⟩
      | postInitialization sink => rcases hm with rfl | rfl <;> cases ho
      | sourceProduction sink => rcases hm with rfl | rfl <;> cases ho

/-! ### Other actions -/

section Actions
variable {files : FileTree} {inputs : Option Inputs} {context : Option Nat} {s : Session}

theorem readInputs_some (i : Inputs) (name : String) : readInputs (some i) name = pure i := rfl

theorem perform_echoOption_some {i : Inputs} {key name : Value} {value : Text} (h : i.options.find? key = some value) :
    perform files (some i) context (.echoOption key name) = addThrough context name (pure (.text value)) := by
  simp only [perform, readInputs_some, pure_bind, h]

theorem perform_echoOption_none {i : Inputs} {key name : Value} (h : i.options.find? key = none) (s : Session) :
    perform files (some i) context (.echoOption key name) s = .ok () s := by
  simp only [perform, readInputs_some, pure_bind, h]
  rfl

theorem perform_within_some {slot : Text} {kept : Option Nat} (h : s.slot? slot = some kept) (actions : List Action) :
    perform files inputs context (.within slot actions) s = performAll files inputs kept actions s := by
  rw [perform, Act.get_bind, h]

theorem perform_within_none {slot : Text} (h : s.slot? slot = none) {actions : List Action} :
    perform files inputs context (.within slot actions) s = .ok () s := by
  rw [perform, Act.get_bind, h]
  rfl

/-- Observing through a context fails, or notes the inputs of that context. -/
theorem observe_cases (files : FileTree) (inputs : Option Inputs) (context : Option Nat) (s : Session) :
    (∃ e, perform files inputs context (.observe true) s = .error e s) ∨
      ∃ id c i, context = some id ∧ s.contexts[id]? = some c ∧ c.role.inputs? = some i ∧
        perform files inputs context (.observe true) s = .ok () (s.withNote (.observation (observe i))) := by
  have hp : perform files inputs context (.observe true) s =
      (member context "compilation" (·.role.inputs?) >>= fun held => note (.observation (observe held.2))) s := rfl
  rw [hp]
  rcases member_cases context "compilation" (·.role.inputs?) s with ⟨e, h⟩ | ⟨id, c, i, hid, hc, hi, h⟩
  · exact Or.inl ⟨e, Act.bind_error h⟩
  · exact Or.inr ⟨id, c, i, hid, hc, hi, Act.bind_ok h⟩

/-- An attempt notes how its actions ended, unless they leave the program or are interrupted. -/
theorem attempt_cases (step : Act Session Unit) (s : Session) :
    (∃ n, (∀ o, n ≠ .observation o) ∧ attempt step s = .ok () ((step.after s).withNote n)) ∨
      ∃ e, attempt step s = .error e (step.after s) := by
  cases h : step s with
  | ok u t => exact Or.inl ⟨.finished, by simp, by rw [attempt, h, Act.after_of_ok h]; rfl⟩
  | error e t =>
    rw [Act.after_of_error h]
    cases ho : e.isOrdinary with
    | true => exact Or.inl ⟨.failed e, by simp, by simp only [attempt, h, ho]; rfl⟩
    | false => exact Or.inr ⟨e, by simp only [attempt, h, ho]; rfl⟩

end Actions

/-! ### The calls that return -/

/-- The call that adds a document, if it returns. -/
def addCalls (context : Option Nat) (name : Value) (content : Act Session Value) (s : Session) : List Call :=
  match name, content s, addThrough context name content s with
  | .text path, .ok (.text text) _, .ok _ _ => [.added ⟨path, text⟩]
  | _, _, _ => []

theorem addCalls_of_error {context : Option Nat} {name : Value} {content : Act Session Value} {s t : Session}
    {e : Failure} (h : addThrough context name content s = .error e t) : addCalls context name content s = [] := by
  unfold addCalls
  split
  · next hok =>
    rw [h] at hok
    cases hok
  · rfl

/-- The calls that return while a document is added for each of the texts. -/
def echoCalls (files : FileTree) (context : Option Nat) : List AdditionalText → Session → List Call
  | [], _ => []
  | t :: ts, s =>
    let name : Value := .text ((Path.ofText t.path).name ++ echoSuffix)
    let content : Act Session Value := do return .text (← Act.ofExcept (t.content files))
    addCalls context name content s ++
      match addThrough context name content s with
      | .ok _ s' => echoCalls files context ts s'
      | .error _ _ => []

/-- The calls that return while a document is added for each of the options. -/
def dumpCalls (context : Option Nat) : List (Text × Text) → Session → List Call
  | [], _ => []
  | (key, value) :: rest, s =>
    addCalls context (.text (key ++ echoSuffix)) (pure (.text value)) s ++
      match addThrough context (.text (key ++ echoSuffix)) (pure (.text value)) s with
      | .ok _ s' => dumpCalls context rest s'
      | .error _ _ => []

/-- The call that reports a diagnostic, if it returns. -/
def reportCalls (files : FileTree) (inputs : Option Inputs) (context : Option Nat) (fields : Fields) (s : Session) :
    List Call :=
  match Diagnostic.create fields, perform files inputs context (.report fields) s with
  | .ok d, .ok _ _ => [.reported d]
  | _, _ => []

theorem reportCalls_of_error {files : FileTree} {inputs : Option Inputs} {context : Option Nat} {fields : Fields}
    {s t : Session} {e : Failure} (h : perform files inputs context (.report fields) s = .error e t) :
    reportCalls files inputs context fields s = [] := by
  unfold reportCalls
  split
  · next hok =>
    rw [h] at hok
    cases hok
  · rfl

mutual

/-- The calls that return while an action is taken. Those of an attempt count even if it fails. -/
def performCalls (files : FileTree) (inputs : Option Inputs) (context : Option Nat) : Action → Session → List Call
  | .add name text, s => addCalls context name (pure text) s
  | .report fields, s => reportCalls files inputs context fields s
  | .echoTexts, s => match inputs with
    | some i => echoCalls files context i.texts s
    | none => []
  | .echoOption key name, s => match inputs.bind (·.options.find? key) with
    | some value => addCalls context name (pure (.text value)) s
    | none => []
  | .dumpOptions, s => match inputs with
    | some i => dumpCalls context i.options.toPairs s
    | none => []
  | .within slot actions, s => match s.slot? slot with
    | some kept => performAllCalls files inputs kept actions s
    | none => []
  | .attempt actions, s => performAllCalls files inputs context actions s
  | _, _ => []

/-- The calls that return while actions are taken, up to the first that fails. -/
def performAllCalls (files : FileTree) (inputs : Option Inputs) (context : Option Nat) :
    List Action → Session → List Call
  | [], _ => []
  | action :: actions, s =>
    performCalls files inputs context action s ++
      match perform files inputs context action s with
      | .ok _ t => performAllCalls files inputs context actions t
      | .error _ _ => []

end

end Session
end GeneratorHost
