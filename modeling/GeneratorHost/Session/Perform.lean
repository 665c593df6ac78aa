import GeneratorHost.Session

/-! Scripts at work. An action is taken with a context, or with none after a run; it may fail, and what it
    did before that stays done. -/

namespace GeneratorHost
namespace Session

/-- The inputs of a run; outside of one there are none, and no part of them can be read. -/
def readInputs (inputs : Option Inputs) (part : String) : Act Session Inputs :=
  match inputs with
  | some i => pure i
  | none => throw (.noAttribute "NoneType" part)

/-- The ending of the name of a document that echoes a text or an option. -/
def echoSuffix : Text := ".g.txt"

/-- What `inputs` look like. No options hold for the documents alone. -/
def observe (inputs : Inputs) : Observation where
  documents := inputs.compilation.documents.map (·.source)
  references := inputs.compilation.references
  options := inputs.options.toPairs
  texts := inputs.texts.map AdditionalText.path
  documentOptions := (Options.empty : Options Text).size

/-- Adds a document of the given name through a context; `content` is computed once the method is found. -/
def addThrough (context : Option Nat) (name : Value) (content : Act Session Value) : Act Session Unit := do
  let (_, c) ← lookUp context .addSource
  let text ← content
  addSource c name text

/-- Adds a document for each of the texts, with the text as it is now. -/
def echoTexts (files : FileTree) (context : Option Nat) : List AdditionalText → Act Session Unit
  | [] => pure ()
  | t :: ts => do
    addThrough context (.text ((Path.ofText t.path).name ++ echoSuffix)) do
      return .text (← Act.ofExcept (t.content files))
    echoTexts files context ts

/-- Adds a document for each of the options. -/
def dumpOptions (context : Option Nat) : List (Text × Text) → Act Session Unit
  | [] => pure ()
  | (key, value) :: rest => do
    addThrough context (.text (key ++ echoSuffix)) (pure (.text value))
    dumpOptions context rest

/-- Takes a step and notes how it ended, unless it leaves the program or is interrupted. -/
def attempt (step : Act Session Unit) : Act Session Unit := fun s =>
  match step s with
  | .ok _ t => note .finished t
  | .error e t => if e.isOrdinary then note (.failed e) t else .error e t

mutual

/-- Takes one action. -/
def perform (files : FileTree) (inputs : Option Inputs) (context : Option Nat) : Action → Act Session Unit
  | .post actions => do
    let (id, c) ← lookUp context .registerPost
    register id c .registerPost actions
  | .source actions => do
    let (id, c) ← lookUp context .registerSource
    register id c .registerSource actions
  | .add name text => addThrough context name (pure text)
  | .report fields => do
    let (_, c) ← lookUp context .report
    let d ← Act.ofExcept (Diagnostic.create fields)
    report c d
  | .reportValue _ => do
    let (_, c) ← lookUp context .report
    checkOpen c .report
    throw .notDiagnostic
  | .echoTexts => do
    let i ← readInputs inputs "additional_texts"
    echoTexts files context i.texts
  | .echoOption key name => do
    let i ← readInputs inputs "options"
    match i.options.find? key with
    | some value => addThrough context name (pure (.text value))
    | none => pure ()
  | .dumpOptions => do
    let i ← readInputs inputs "options"
    dumpOptions context i.options.toPairs
  | .observe throughContext => do
    let i ←
      if throughContext then pure (← member context "compilation" (·.role.inputs?)).2
      else readInputs inputs "compilation"
    note (.observation (observe i))
  | .note v => note (.value v)
  | .save slot => keep slot context
  | .within slot actions => do
    match (← get).slot? slot with
    | some kept => performAll files inputs kept actions
    | none => pure ()
  | .attempt actions => attempt (performAll files inputs context actions)
  | .raise failure => throw failure

/-- Takes actions in order, up to the first that fails. -/
def performAll (files : FileTree) (inputs : Option Inputs) (context : Option Nat) :
    List Action → Act Session Unit
  | [] => pure ()
  | action :: actions => do
    perform files inputs context action
    performAll files inputs context actions

end

end Session
end GeneratorHost
