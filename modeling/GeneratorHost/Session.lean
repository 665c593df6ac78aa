import GeneratorHost.AdditionalText
import GeneratorHost.Compilation
import GeneratorHost.Options
import GeneratorHost.Script

/-! A session: every context that was handed to a generator, what was produced through them, and what the
    generator kept and noted. A context serves one phase and is sealed when that phase is over; a sealed
    context refuses everything and changes nothing. -/

namespace GeneratorHost

/-- Everything that a generator may read. -/
structure Inputs where
  compilation : Compilation
  options : Options Text
  texts : List AdditionalText
  deriving Inhabited

inductive Method
  | registerPost
  | registerSource
  | addSource
  | report
  deriving DecidableEq, Repr

def Method.name : Method → String
  | registerPost => "register_post_initialization_output"
  | registerSource => "register_source_output"
  | addSource => "add_source"
  | report => "report_diagnostic"

/-- The phase that a context serves. In the first one the inputs can be read through the context and
    callbacks are registered; in the other two the output goes to a sink. -/
inductive Role
  | initialization (inputs : Inputs) (post source : List Script)
  | postInitialization (sink : Nat)
  | sourceProduction (sink : Nat)
  deriving Inhabited

namespace Role

def name : Role → String
  | initialization .. => "GeneratorInitializationContext"
  | postInitialization _ => "PostInitializationContext"
  | sourceProduction _ => "SourceProductionContext"

def offers : Role → Method → Bool
  | initialization .., .registerPost => true
  | initialization .., .registerSource => true
  | postInitialization _, .addSource => true
  | sourceProduction _, .addSource => true
  | sourceProduction _, .report => true
  | _, _ => false

/-- The inputs that can be read through a context. -/
def inputs? : Role → Option Inputs
  | initialization inputs .. => some inputs
  | _ => none

/-- The sink that the output goes to. -/
def sink? : Role → Option Nat
  | initialization .. => none
  | postInitialization sink => some sink
  | sourceProduction sink => some sink

end Role

/-- A context and whether it is sealed. -/
structure Context where
  role : Role
  isSealed : Bool
  deriving Inhabited

/-- What was produced, in order. -/
structure Sink where
  documents : List Document
  diagnostics : List Diagnostic
  deriving Inhabited

/-- What the inputs look like to a generator. -/
structure Observation where
  documents : List Source
  references : List Reference
  options : List (Text × Text)
  texts : List Text
  /-- the number of options that hold for the documents alone -/
  documentOptions : Nat
  deriving DecidableEq, Repr, Inhabited

inductive Note
  | observation (o : Observation)
  | value (v : Value)
  | finished
  | failed (failure : Failure)
  deriving Inhabited

/-- The contexts and sinks made so far, the contexts kept under a name, and the notes. What is kept may be no
    context at all. -/
structure Session where
  contexts : List Context
  sinks : List Sink
  slots : List (Text × Option Nat)
  notes : List Note
  nextStamp : Nat
  deriving Inhabited

namespace Session

def new : Session := ⟨[], [], [], [], 0⟩

/-- A stamp that was not given out before. -/
def freshStamp : Act Session Nat := modifyGet fun s => (s.nextStamp, { s with nextStamp := s.nextStamp + 1 })

def openSink : Act Session Nat :=
  modifyGet fun s => (s.sinks.length, { s with sinks := s.sinks ++ [⟨[], []⟩] })

def openContext (role : Role) : Act Session Nat :=
  modifyGet fun s => (s.contexts.length, { s with contexts := s.contexts ++ [⟨role, false⟩] })

def close (context : Nat) : Act Session Unit :=
  modify fun s => { s with contexts := s.contexts.modify context fun c => { c with isSealed := true } }

def note (n : Note) : Act Session Unit := modify fun s => { s with notes := s.notes ++ [n] }

/-- What is kept under a name. -/
def slot? (s : Session) (name : Text) : Option (Option Nat) := (s.slots.find? (·.1 == name)).map (·.2)

def keep (name : Text) (context : Option Nat) : Act Session Unit :=
  modify fun s => { s with slots := (name, context) :: s.slots.filter fun slot => slot.1 != name }

/-- The callbacks registered on a context, for post-initialization and for source production. -/
def callbacks (s : Session) (context : Nat) : List Script × List Script :=
  match s.contexts[context]? with
  | some ⟨.initialization _ post source, _⟩ => (post, source)
  | _ => ([], [])

/-- What went to a sink so far. -/
def sink (s : Session) (sink : Nat) : Sink := s.sinks[sink]?.getD ⟨[], []⟩

/-! ### Calls on a context -/

/-- Looks up a member on what a generator holds, which may be no context at all. -/
def member {α : Type} (context : Option Nat) (name : String) (find : Context → Option α) :
    Act Session (Nat × α) := do
  let held ← match context with
    | some id => pure ((← get).contexts[id]?.map fun c => (id, c))
    | none => pure none
  match held with
  | none => throw (.noAttribute "NoneType" name)
  | some (id, c) => match find c with
    | some a => pure (id, a)
    | none => throw (.noAttribute c.role.name name)

/-- Looks up a method. -/
def lookUp (context : Option Nat) (method : Method) : Act Session (Nat × Context) :=
  member context method.name fun c => if c.role.offers method then some c else none

/-- Refuses a call on a context that is sealed. -/
def checkOpen (c : Context) (method : Method) : Act Session Unit :=
  if c.isSealed then throw (.closed method.name c.role.name) else pure ()

def register (id : Nat) (c : Context) (method : Method) (script : Script) : Act Session Unit := do
  checkOpen c method
  let role := match c.role, method with
    | .initialization inputs post source, .registerPost => Role.initialization inputs (post ++ [script]) source
    | .initialization inputs post source, .registerSource => Role.initialization inputs post (source ++ [script])
    | role, _ => role
  modify fun s => { s with contexts := s.contexts.set id { c with role } }

/-- Puts a document or a diagnostic into the sink that a context's output goes to. -/
def produce (c : Context) (change : Sink → Sink) : Act Session Unit :=
  match c.role.sink? with
  | none => pure ()
  | some sink => modify fun s => { s with sinks := s.sinks.modify sink change }

/-- Adds a document. Name and text have to be texts. -/
def addSource (c : Context) (name text : Value) : Act Session Unit := do
  checkOpen c .addSource
  match name, text with
  | .text path, .text content =>
    let stamp ← freshStamp
    produce c fun sink => { sink with documents := sink.documents ++ [⟨stamp, ⟨path, content⟩⟩] }
  | _, _ => throw .sourceNotText

/-- Reports a diagnostic. -/
def report (c : Context) (d : Diagnostic) : Act Session Unit := do
  checkOpen c .report
  produce c fun sink => { sink with diagnostics := sink.diagnostics ++ [d] }

end Session
end GeneratorHost
