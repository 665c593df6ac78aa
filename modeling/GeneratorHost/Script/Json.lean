import GeneratorHost.Json
import GeneratorHost.Script

/-! Scripts in JSON: an action is an object that names what it does in its field `do`. -/

namespace GeneratorHost

def Json.textField? (name : String) (j : Json) : Option Text :=
  match j.get? name with
  | some (.text t) => some t
  | _ => none

/-- The value in a field; a field that is not there holds nothing. -/
def Json.valueField (name : String) (j : Json) : Value :=
  ((j.get? name).getD .null).toValue

def Json.toFields : Json → Fields
  | .object fields => fields.map fun (name, v) => (name, v.toValue)
  | _ => []

/-- The failure of a kind. Without a message the wording is empty. -/
def Failure.ofKind (kind : Text) (message : Option Text) : Failure :=
  if kind == "SystemExit" then .exit ((message.map Value.text).getD .null)
  else if kind == "KeyboardInterrupt" then .interrupt (message.getD .empty)
  else match message with
    | some text => if kind == "KeyError" then .missingKey (.text text) else .raised kind text
    | none => .raised kind .empty

def Failure.ofJson? (j : Json) : Option Failure :=
  (j.textField? "kind").map fun kind => Failure.ofKind kind (j.textField? "message")

/-- The action that an object describes, given the actions that it holds. -/
def Action.ofObject? (j : Json) (actions : List Action) : Option Action :=
  match (j.textField? "do").bind Text.string? with
  | some "post" => some (.post actions)
  | some "source" => some (.source actions)
  | some "add" => some (.add (j.valueField "name") (j.valueField "text"))
  | some "report" => some (.report ((j.get? "diagnostic").getD .null).toFields)
  | some "report_value" => some (.reportValue (j.valueField "value"))
  | some "echo_texts" => some .echoTexts
  | some "echo_option" => some (.echoOption (j.valueField "key") (j.valueField "name"))
  | some "dump_options" => some .dumpOptions
  | some "observe" => some (.observe (j.valueField "init").isGiven)
  | some "trace" => some (.note (j.valueField "value"))
  | some "save" => (j.textField? "slot").map .save
  | some "with" => (j.textField? "slot").map fun slot => .within slot actions
  | some "try" => some (.attempt actions)
  | some "raise" => (Failure.ofJson? j).map .raise
  | some "exit" => some (.raise (.exit (j.valueField "code")))
  | _ => none

mutual

def Action.ofJson? : Json → Option Action
  | .object fields => (Script.inFields? fields).bind fun actions => Action.ofObject? (.object fields) actions
  | _ => none

def Script.inFields? : List (Text × Json) → Option (List Action)
  | [] => some []
  | (name, v) :: rest => if name == "actions" then Script.ofJson? v else Script.inFields? rest

def Script.ofJson? : Json → Option (List Action)
  | .list items => Script.ofItems? items
  | _ => none

def Script.ofItems? : List Json → Option (List Action)
  | [] => some []
  | item :: items =>
    match Action.ofJson? item, Script.ofItems? items with
    | some action, some actions => some (action :: actions)
    | _, _ => none

end

end GeneratorHost
