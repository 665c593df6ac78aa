import GeneratorHost.Failure

/-! Generators as data. A script is the list of actions that a generator takes when it is called with a
    context; a callback that it registers is a script of its own. -/

namespace GeneratorHost

/-- What a generator does with the context that it was called with. -/
inductive Action
  /-- registers a callback for post-initialization -/
  | post (actions : List Action)
  /-- registers a callback for source production -/
  | source (actions : List Action)
  | add (name text : Value)
  /-- builds a diagnostic from fields and reports it -/
  | report (fields : Fields)
  /-- reports a value that is no diagnostic -/
  | reportValue (value : Value)
  /-- adds a document for every additional text -/
  | echoTexts
  /-- adds a document with the value of an option, if the option is there -/
  | echoOption (key name : Value)
  /-- adds a document for every option -/
  | dumpOptions
  /-- notes what the inputs look like, or what they look like through the context -/
  | observe (throughContext : Bool)
  | note (value : Value)
  /-- keeps the context under a name -/
  | save (slot : Text)
  /-- acts with the context kept under a name, if there is one -/
  | within (slot : Text) (actions : List Action)
  /-- acts, and notes how that ended -/
  | attempt (actions : List Action)
  | raise (failure : Failure)
  deriving Inhabited

/-- A list of actions, taken in order. -/
abbrev Script := List Action

end GeneratorHost
