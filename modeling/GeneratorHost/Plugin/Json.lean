import GeneratorHost.Plugin.Statement
import GeneratorHost.Script.Json
import GeneratorHost.Text.Split

/-! Plug-in modules in JSON: a statement is an object whose fields tell what it states. -/

namespace GeneratorHost

def Json.textsField (name : Text) (j : Json) : List Text :=
  match j.get? name with
  | some (.list items) => items.filterMap fun
      | .text t => some t
      | _ => none
  | _ => []

namespace Plugin

def Base.ofName (name : Text) : Base :=
  match name.string? with
  | some "generator" => .generator
  | some "abstract" => .abstract
  | some "plain" => .plain
  | _ => .named name

def ClassStatement.ofJson? (j : Json) : Option ClassStatement := do
  let name ← j.textField? "class"
  let script ← match j.get? "script" with
    | none => some none
    | some v => (Script.ofJson? v).map some
  some {
    name, script
    base := Base.ofName ((j.textField? "base").getD "generator")
    shownName := j.textField? "name"
    abstractMethods := j.textsField "abstract_methods"
    implemented := j.textsField "implements"
    requiresArgument := match j.get? "requires_argument" with
      | some (.bool b) => b
      | _ => false
    creationFailure := (j.get? "init_raise").bind Failure.ofJson?
    moduleSuffix := (j.textField? "module_suffix").getD .empty
    within := j.textField? "within" }

def ImportSource.ofText (t : Text) : ImportSource :=
  match t.letters with
  | [.char '.'] => .package
  | .char '.' :: rest => .submodule (Text.splitAt '.' ⟨rest⟩)
  | _ => .external

def Statement.ofJson? (j : Json) : Option Statement :=
  if (j.get? "class").isSome then (ClassStatement.ofJson? j).map .define
  else if let some name := j.textField? "alias" then
    some (.alias name ((j.textField? "of").getD ""))
  else if let some name := j.textField? "delete" then some (.delete name)
  else if let some name := j.textField? "value" then some (.bindValue name)
  else if let some name := j.textField? "import" then
    some (.importFrom (ImportSource.ofText ((j.textField? "from").getD "")) name)
  else if (j.get? "set_file").isSome then some (.setFile (j.textField? "set_file"))
  else if let some failure := j.get? "raise" then (Failure.ofJson? failure).map .raise
  else if (j.get? "exit").isSome then some (.raise (.exit (j.valueField "exit")))
  else none

def Statement.listOfJson? : Json → Option (List Statement)
  | .list items => items.mapM Statement.ofJson?
  | _ => none

end Plugin
end GeneratorHost
