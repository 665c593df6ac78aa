import GeneratorHost.Proofs.Act.Simulation
import GeneratorHost.Proofs.Session.Calls
import Mathlib.Data.List.Forall2

/-! Scripts that report other diagnostics. The fields of a report are taken for the name of a place, and a diagnostic is
    handed over there that is made from other fields. Two scripts that differ in what they put in such places do the
    same to a session, but for the diagnostics in its sinks, and these stand in the same order. -/

namespace GeneratorHost

/-! ### Other diagnostics in the same places -/

mutual

/-- An action whose reports are made from the fields that `σ` puts in the place of theirs. -/
def Action.reporting (σ : Fields → Fields) : Action → Action
  | .post actions => .post (Action.allReporting σ actions)
  | .source actions => .source (Action.allReporting σ actions)
  | .report fields => .report (σ fields)
  | .within slot actions => .within slot (Action.allReporting σ actions)
  | .attempt actions => .attempt (Action.allReporting σ actions)
  | action => action

def Action.allReporting (σ : Fields → Fields) : List Action → List Action
  | [] => []
  | action :: actions => action.reporting σ :: Action.allReporting σ actions

end

def Script.reporting (σ : Fields → Fields) (script : Script) : Script := Action.allReporting σ script

def Role.reporting (σ : Fields → Fields) : Role → Role
  | initialization inputs post source =>
    initialization inputs (post.map (Script.reporting σ)) (source.map (Script.reporting σ))
  | role => role

def Context.reporting (σ : Fields → Fields) (c : Context) : Context := { c with role := c.role.reporting σ }

/-- Two ways to fill the places of diagnostics, of which both give a proper diagnostic wherever they differ. -/
def Interchangeable (σ τ : Fields → Fields) : Prop :=
  ∀ fields, σ fields = τ fields ∨
    (∃ d, Diagnostic.create (σ fields) = .ok d) ∧ ∃ d, Diagnostic.create (τ fields) = .ok d

/-- Two diagnostics in the same place: the same ones, or those that two fillings put there. -/
def Stands (σ τ : Fields → Fields) (d d' : Diagnostic) : Prop :=
  d = d' ∨ ∃ fields, Diagnostic.create (σ fields) = .ok d ∧ Diagnostic.create (τ fields) = .ok d'

/-- Two sinks with the same documents, and with diagnostics in the same places. -/
structure Sink.Alike (σ τ : Fields → Fields) (a b : Sink) : Prop where
  documents : b.documents = a.documents
  diagnostics : List.Forall₂ (Stands σ τ) a.diagnostics b.diagnostics

/-- Two sessions that differ in the diagnostics in certain places alone. -/
structure Session.Alike (σ τ : Fields → Fields) (s t : Session) : Prop where
  contexts : ∃ contexts : List Context,
    s.contexts = contexts.map (Context.reporting σ) ∧ t.contexts = contexts.map (Context.reporting τ)
  sinks : List.Forall₂ (Sink.Alike σ τ) s.sinks t.sinks
  slots : t.slots = s.slots
  notes : t.notes = s.notes
  nextStamp : t.nextStamp = s.nextStamp

variable {σ τ : Fields → Fields}

theorem Interchangeable.create (h : Interchangeable σ τ) (fields : Fields) :
    (∃ e, Diagnostic.create (σ fields) = .error e ∧ Diagnostic.create (τ fields) = .error e) ∨
      ∃ d d', Diagnostic.create (σ fields) = .ok d ∧ Diagnostic.create (τ fields) = .ok d' ∧ Stands σ τ d d' := by
  rcases h fields with he | ⟨⟨d, hd⟩, d', hd'⟩
  · cases hc : Diagnostic.create (σ fields) with
    | error e => exact Or.inl ⟨e, rfl, he ▸ hc⟩
    | ok d => exact Or.inr ⟨d, d, rfl, he ▸ hc, Or.inl rfl⟩
  · exact Or.inr ⟨d, d', hd, hd', Or.inr ⟨fields, hd, hd'⟩⟩

/-! ### Contexts -/

section Roles
variable (role : Role)

@[simp] theorem Role.name_reporting : (role.reporting σ).name = role.name := by
  cases role <;> rfl

@[simp] theorem Role.offers_reporting (method : Method) : (role.reporting σ).offers method = role.offers method := by
  cases role <;> cases method <;> rfl

@[simp] theorem Role.inputs?_reporting : (role.reporting σ).inputs? = role.inputs? := by
  cases role <;> rfl

@[simp] theorem Role.sink?_reporting : (role.reporting σ).sink? = role.sink? := by
  cases role <;> rfl

end Roles

namespace Session

open Act

/-- Steps that do the same to sessions that differ in diagnostics alone. -/
abbrev MatchesAlike (σ τ : Fields → Fields) {α β : Type} (Q : α → β → Prop) (x : Act Session α) (y : Act Session β) :
    Prop := Matches (Alike σ τ) Q x y

/-! ### Elementary changes -/

theorem matches_freshStamp : MatchesAlike σ τ (fun a b => b = a) freshStamp freshStamp := fun s t h =>
  Or.inl ⟨s.nextStamp, t.nextStamp, _, _, rfl, rfl, h.nextStamp,
    ⟨h.contexts, h.sinks, h.slots, h.notes, congrArg (· + 1) h.nextStamp⟩⟩

theorem matches_note (n : Note) : MatchesAlike σ τ (fun _ _ => True) (note n) (note n) :=
  matches_modify fun _ _ h => ⟨h.contexts, h.sinks, h.slots, congrArg (· ++ [n]) h.notes, h.nextStamp⟩

theorem matches_keep (name : Text) (context : Option Nat) :
    MatchesAlike σ τ (fun _ _ => True) (keep name context) (keep name context) :=
  matches_modify fun s t h => ⟨h.contexts, h.sinks, by rw [h.slots], h.notes, h.nextStamp⟩

theorem matches_openSink : MatchesAlike σ τ (fun a b => b = a) openSink openSink := fun s t h =>
  Or.inl ⟨s.sinks.length, t.sinks.length, _, _, rfl, rfl, h.sinks.length_eq.symm,
    ⟨h.contexts, List.rel_append h.sinks (.cons ⟨rfl, .nil⟩ .nil), h.slots, h.notes, h.nextStamp⟩⟩

theorem matches_openContext (role : Role) :
    MatchesAlike σ τ (fun a b => b = a) (openContext (role.reporting σ)) (openContext (role.reporting τ)) := by
  intro s t h
  obtain ⟨contexts, hs, ht⟩ := h.contexts
  refine Or.inl ⟨s.contexts.length, t.contexts.length, _, _, rfl, rfl, by rw [hs, ht, List.length_map, List.length_map],
    ⟨⟨contexts ++ [⟨role, false⟩], ?_, ?_⟩, h.sinks, h.slots, h.notes, h.nextStamp⟩⟩
  · rw [hs, List.map_append]
    rfl
  · rw [ht, List.map_append]
    rfl

theorem Alike.withContexts {s t : Session} (h : Alike σ τ s t) {contexts : List Context} :
    Alike σ τ { s with contexts := contexts.map (Context.reporting σ) }
      { t with contexts := contexts.map (Context.reporting τ) } :=
  ⟨⟨contexts, rfl, rfl⟩, h.sinks, h.slots, h.notes, h.nextStamp⟩

theorem map_modify_reporting (contexts : List Context) (id : Nat) :
    (contexts.map (Context.reporting σ)).modify id (fun c => { c with isSealed := true }) =
      (contexts.modify id fun c => { c with isSealed := true }).map (Context.reporting σ) := by
  refine List.ext_getElem? fun i => ?_
  simp only [List.getElem?_modify, List.getElem?_map]
  cases contexts[i]? with
  | none => rfl
  | some c => by_cases h : id = i <;> simp [h, Context.reporting]

theorem matches_close (context : Nat) : MatchesAlike σ τ (fun _ _ => True) (close context) (close context) := by
  refine matches_modify fun s t h => ?_
  obtain ⟨contexts, hs, ht⟩ := h.contexts
  simp only [hs, ht, map_modify_reporting]
  exact h.withContexts

theorem Alike.withSink {s t : Session} (h : Alike σ τ s t) (sink : Nat) {f g : Sink → Sink}
    (hfg : ∀ a b, Sink.Alike σ τ a b → Sink.Alike σ τ (f a) (g b)) :
    Alike σ τ { s with sinks := s.sinks.modify sink f } { t with sinks := t.sinks.modify sink g } := by
  refine ⟨h.contexts, ?_, h.slots, h.notes, h.nextStamp⟩
  have hsinks := List.forall₂_iff_get.mp h.sinks
  refine List.forall₂_iff_get.mpr ⟨by simpa using hsinks.1, fun i hi hi' => ?_⟩
  rw [List.length_modify] at hi hi'
  have hsink := hsinks.2 i hi hi'
  simp only [List.get_eq_getElem, List.getElem_modify] at hsink ⊢
  split
  · exact hfg _ _ hsink
  · exact hsink

/-! ### Calls on a context -/

/-- What is found on a context, under two fillings of its scripts. -/
theorem matches_member {α β : Type} {Q : α → β → Prop} (context : Option Nat) (name : String)
    {find : Context → Option α} {find' : Context → Option β}
    (h : ∀ c : Context, (find (c.reporting σ) = none ∧ find' (c.reporting τ) = none) ∨
      ∃ a b, find (c.reporting σ) = some a ∧ find' (c.reporting τ) = some b ∧ Q a b) :
    MatchesAlike σ τ (fun a b => b.1 = a.1 ∧ Q a.2 b.2) (member context name find) (member context name find') := by
  cases context with
  | none => exact matches_throw _
  | some id =>
    intro s t hr
    obtain ⟨contexts, hs, ht⟩ := hr.contexts
    simp only [member, pure_bind, Act.get_bind, hs, ht, List.getElem?_map]
    cases contexts[id]? with
    | none => exact matches_throw _ s t hr
    | some c =>
      simp only [Option.map_some]
      rcases h c with ⟨hf, hf'⟩ | ⟨a, b, hf, hf', hq⟩
      · -- The message names the kind of the context, which has nothing to do with its scripts.
        have hname : (c.reporting τ).role.name = (c.reporting σ).role.name := by simp [Context.reporting]
        simp only [hf, hf', hname]
        exact matches_throw _ s t hr
      · simp only [hf, hf']
        exact Or.inl ⟨_, _, s, t, rfl, rfl, ⟨rfl, hq⟩, hr⟩

/-- One context, with its scripts filled in two ways. -/
def Fillings (σ τ : Fields → Fields) (a b : Context) : Prop :=
  ∃ c : Context, a = c.reporting σ ∧ b = c.reporting τ

theorem matches_lookUp (context : Option Nat) (method : Method) :
    MatchesAlike σ τ (fun a b => b.1 = a.1 ∧ Fillings σ τ a.2 b.2) (lookUp context method) (lookUp context method) := by
  refine matches_member context method.name fun c => ?_
  simp only [Context.reporting, Role.offers_reporting]
  cases c.role.offers method with
  | false => exact Or.inl ⟨rfl, rfl⟩
  | true => exact Or.inr ⟨_, _, rfl, rfl, c, rfl, rfl⟩

theorem matches_checkOpen (c : Context) (method : Method) :
    MatchesAlike σ τ (fun _ _ => True) (checkOpen (c.reporting σ) method) (checkOpen (c.reporting τ) method) := by
  simp only [checkOpen, Context.reporting, Role.name_reporting]
  split
  · exact matches_throw _
  · exact matches_pure trivial

/-- The role of a context after a callback was registered on it. -/
def registered (role : Role) (method : Method) (script : Script) : Role :=
  match role, method with
  | .initialization inputs post source, .registerPost => .initialization inputs (post ++ [script]) source
  | .initialization inputs post source, .registerSource => .initialization inputs post (source ++ [script])
  | role, _ => role

theorem registered_reporting (role : Role) (method : Method) (script : Script) :
    registered (role.reporting σ) method (script.reporting σ) = (registered role method script).reporting σ := by
  cases role with
  | initialization inputs post source => cases method <;> simp [registered, Role.reporting]
  | postInitialization sink => rfl
  | sourceProduction sink => rfl

theorem matches_register (id : Nat) (c : Context) (method : Method) (script : Script) :
    MatchesAlike σ τ (fun _ _ => True) (register id (c.reporting σ) method (script.reporting σ))
      (register id (c.reporting τ) method (script.reporting τ)) := by
  have hregister : ∀ c script, register id c method script = checkOpen c method >>= fun _ =>
      modify fun s => { s with contexts := s.contexts.set id { c with role := registered c.role method script } } :=
    fun _ _ => rfl
  have hset : ∀ (ρ : Fields → Fields) (contexts : List Context),
      (contexts.map (Context.reporting ρ)).set id
          { c.reporting ρ with role := registered (c.reporting ρ).role method (script.reporting ρ) } =
        (contexts.set id { c with role := registered c.role method script }).map (Context.reporting ρ) := by
    intro ρ contexts
    simp only [List.map_set, Context.reporting, registered_reporting]
  rw [hregister, hregister]
  refine (matches_checkOpen c method).bind fun _ _ _ => matches_modify fun s t h => ?_
  obtain ⟨contexts, hs, ht⟩ := h.contexts
  simp only [hs, ht, hset]
  exact h.withContexts

theorem matches_produce (c : Context) {f g : Sink → Sink}
    (hfg : ∀ a b, Sink.Alike σ τ a b → Sink.Alike σ τ (f a) (g b)) :
    MatchesAlike σ τ (fun _ _ => True) (produce (c.reporting σ) f) (produce (c.reporting τ) g) := by
  simp only [produce, Context.reporting, Role.sink?_reporting]
  cases c.role.sink? with
  | none => exact matches_pure trivial
  | some sink => exact matches_modify fun s t h => h.withSink sink hfg

theorem matches_addSource (c : Context) (name text : Value) :
    MatchesAlike σ τ (fun _ _ => True) (addSource (c.reporting σ) name text) (addSource (c.reporting τ) name text) := by
  refine (matches_checkOpen c .addSource).bind fun _ _ _ => ?_
  split
  · refine matches_freshStamp.bind ?_
    rintro _ stamp rfl
    exact matches_produce c fun a b h => ⟨congrArg (· ++ _) h.documents, h.diagnostics⟩
  · exact matches_throw _

theorem matches_report (c : Context) {d d' : Diagnostic} (hd : Stands σ τ d d') :
    MatchesAlike σ τ (fun _ _ => True) (report (c.reporting σ) d) (report (c.reporting τ) d') :=
  (matches_checkOpen c .report).bind fun _ _ _ =>
    matches_produce c fun _ _ h => ⟨h.documents, List.rel_append h.diagnostics (.cons hd .nil)⟩

theorem matches_addThrough (context : Option Nat) (name : Value) {content : Act Session Value}
    (hc : MatchesAlike σ τ (fun a b => b = a) content content) :
    MatchesAlike σ τ (fun _ _ => True) (addThrough context name content) (addThrough context name content) := by
  refine (matches_lookUp context .addSource).bind ?_
  rintro ⟨_, _⟩ ⟨_, _⟩ ⟨-, c, rfl, rfl⟩
  refine hc.bind ?_
  rintro _ text rfl
  exact matches_addSource c name text

/-! ### Actions -/

theorem matches_readInputs (inputs : Option Inputs) (part : String) :
    MatchesAlike σ τ (fun a b => b = a) (readInputs inputs part) (readInputs inputs part) := by
  cases inputs with
  | none => exact matches_throw _
  | some i => exact matches_pure rfl

theorem matches_echoTexts (files : FileTree) (context : Option Nat) :
    ∀ texts, MatchesAlike σ τ (fun _ _ => True) (echoTexts files context texts) (echoTexts files context texts)
  | [] => matches_pure trivial
  | t :: ts => by
    refine (matches_addThrough context _ ?_).bind fun _ _ _ => matches_echoTexts files context ts
    cases t.content files with
    | error e => exact (matches_throw e).bind fun _ b (hb : False) => hb.elim
    | ok text => exact matches_pure rfl

theorem matches_dumpOptions (context : Option Nat) :
    ∀ pairs, MatchesAlike σ τ (fun _ _ => True) (dumpOptions context pairs) (dumpOptions context pairs)
  | [] => matches_pure trivial
  | _ :: pairs =>
    (matches_addThrough context _ (matches_pure rfl)).bind fun _ _ _ => matches_dumpOptions context pairs

theorem matches_attempt {x y : Act Session Unit} (h : MatchesAlike σ τ (fun _ _ => True) x y) :
    MatchesAlike σ τ (fun _ _ => True) (attempt x) (attempt y) := by
  intro s t hr
  rcases h s t hr with ⟨a, b, s', t', hx, hy, -, hr'⟩ | ⟨e, s', t', hx, hy, hr'⟩
  · simp only [attempt, hx, hy]
    exact matches_note _ s' t' hr'
  · simp only [attempt, hx, hy]
    -- Both fail with the same failure, so it is caught in both or in neither.
    split
    · exact matches_note _ s' t' hr'
    · exact Or.inr ⟨e, s', t', rfl, rfl, hr'⟩

mutual

/-- An action does the same under two fillings, but for the diagnostics that it reports. -/
theorem matches_perform (h : Interchangeable σ τ) (files : FileTree) (inputs : Option Inputs) :
    ∀ (context : Option Nat) (action : Action), MatchesAlike σ τ (fun _ _ => True)
      (perform files inputs context (action.reporting σ)) (perform files inputs context (action.reporting τ))
  | context, .post actions => by
    refine (matches_lookUp context .registerPost).bind ?_
    rintro ⟨_, _⟩ ⟨id, _⟩ ⟨rfl, c, rfl, rfl⟩
    exact matches_register id c .registerPost actions
  | context, .source actions => by
    refine (matches_lookUp context .registerSource).bind ?_
    rintro ⟨_, _⟩ ⟨id, _⟩ ⟨rfl, c, rfl, rfl⟩
    exact matches_register id c .registerSource actions
  | context, .add name text => matches_addThrough context name (matches_pure rfl)
  | context, .report fields => by
    refine (matches_lookUp context .report).bind ?_
    rintro ⟨_, _⟩ ⟨_, _⟩ ⟨-, c, rfl, rfl⟩
    -- Here alone the two scripts differ: both hand over a diagnostic, or both the same thing.
    rcases h.create fields with ⟨e, hd, hd'⟩ | ⟨d, d', hd, hd', hstands⟩
    · rw [hd, hd']
      exact (matches_throw (Q := fun _ _ => False) e).bind fun _ _ => False.elim
    · rw [hd, hd']
      exact matches_report c hstands
  | context, .reportValue _ => by
    refine (matches_lookUp context .report).bind ?_
    rintro ⟨_, _⟩ ⟨_, _⟩ ⟨-, c, rfl, rfl⟩
    exact (matches_checkOpen c .report).bind fun _ _ _ => matches_throw _
  | context, .echoTexts => by
    refine (matches_readInputs inputs "additional_texts").bind ?_
    rintro _ i rfl
    exact matches_echoTexts files context i.texts
  | context, .echoOption key name => by
    refine (matches_readInputs inputs "options").bind ?_
    rintro _ i rfl
    cases i.options.find? key with
    | none => exact matches_pure trivial
    | some value => exact matches_addThrough context name (matches_pure rfl)
  | context, .dumpOptions => by
    refine (matches_readInputs inputs "options").bind ?_
    rintro _ i rfl
    exact matches_dumpOptions context i.options.toPairs
  | context, .observe true => by
    have hmember : MatchesAlike σ τ (fun a b => b.1 = a.1 ∧ b.2 = a.2) (member context "compilation" (·.role.inputs?))
        (member context "compilation" (·.role.inputs?)) := by
      refine matches_member (Q := fun i j => j = i) context "compilation" fun c => ?_
      simp only [Context.reporting, Role.inputs?_reporting]
      cases c.role.inputs? with
      | none => exact Or.inl ⟨rfl, rfl⟩
      | some i => exact Or.inr ⟨i, i, rfl, rfl, rfl⟩
    refine hmember.bind ?_
    rintro ⟨_, _⟩ ⟨_, i⟩ ⟨-, rfl⟩
    exact matches_note _
  | context, .observe false => by
    refine (matches_readInputs inputs "compilation").bind ?_
    rintro _ i rfl
    exact matches_note _
  | _, .note v => matches_note _
  | context, .save slot => matches_keep slot context
  | _, .within slot actions => by
    -- The same context is kept under a name in both sessions, though its scripts may differ.
    refine matches_get.bind fun s t hr => ?_
    rw [slot?, slot?, hr.slots]
    cases (s.slots.find? (·.1 == slot)).map (·.2) with
    | none => exact matches_pure trivial
    | some kept => exact matches_performAll h files inputs kept actions
  | context, .attempt actions => matches_attempt (matches_performAll h files inputs context actions)
  | _, .raise failure => matches_throw failure

theorem matches_performAll (h : Interchangeable σ τ) (files : FileTree) (inputs : Option Inputs) :
    ∀ (context : Option Nat) (actions : List Action), MatchesAlike σ τ (fun _ _ => True)
      (performAll files inputs context (Action.allReporting σ actions))
      (performAll files inputs context (Action.allReporting τ actions))
  | _, [] => matches_pure trivial
  | context, action :: actions =>
    (matches_perform h files inputs context action).bind fun _ _ _ => matches_performAll h files inputs context actions

end

end Session
end GeneratorHost
