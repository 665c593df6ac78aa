import GeneratorHost.Proofs.Plugin.EditImport

/-! Plug-ins without the names that their classes give to generators. Such a name is taken away by putting the empty
    text in its place, which is an edit of classes. -/

namespace GeneratorHost

namespace Plugin

/-- A class statement without the name for generators. -/
def ClassStatement.unnamed (d : ClassStatement) : ClassStatement := { d with shownName := d.shownName.map fun _ => .empty }

/-- A statement without names for generators. -/
def Statement.unnamed : Statement → Statement
  | define d => define d.unnamed
  | s => s

/-- Taking away the names for generators, as an edit. -/
def Edit.unnaming : Edit where
  shownName _ := .empty
  script := id
  script_nil := rfl
  script_noScript := rfl

theorem Statement.unnamed_eq (s : Statement) : s.unnamed = s.edited .unnaming := by
  cases s with
  | define d =>
    have hscript : d.script.map id = d.script := Option.map_id_apply
    simp only [unnamed, edited, ClassStatement.unnamed, ClassStatement.edited, Edit.unnaming, hscript]
  | _ => rfl

end Plugin

/-- A content without names for generators. -/
def Content.unnamed : Content → Content
  | bytes bs => bytes bs
  | module statements => module (statements.map Plugin.Statement.unnamed)

theorem Content.unnamed_eq : Content.unnamed = Content.edited .unnaming := by
  funext content
  cases content with
  | bytes bs => rfl
  | module statements => exact congrArg module (List.map_congr_left fun s _ => s.unnamed_eq)

theorem Content.keepsBytes_unnamed : Content.KeepsBytes Content.unnamed := by
  rw [unnamed_eq]
  exact keepsBytes_edited

namespace FileTree

/-- A file tree whose plug-ins give no names to generators. -/
def unnamed (t : FileTree) : FileTree := t.mapContent Content.unnamed

theorem unnamed_eq (t : FileTree) : t.unnamed = t.edited .unnaming := by
  rw [unnamed, Content.unnamed_eq, edited]

end FileTree

namespace Plugin

/-- A name of a generator with the empty text for the one that it is. -/
def GeneratorName.blank : GeneratorName → GeneratorName
  | text _ => text .empty
  | method => method

/-- A generator without its name. -/
def Generator.unnamed (g : Generator) : Generator := { g with name := g.name.blank }

theorem instantiate_unnamed (c : Class) :
    (instantiate (c.edited .unnaming)).map Generator.unnamed = (instantiate c).map Generator.unnamed := by
  rw [instantiate_edited]
  cases h : instantiate c with
  | error e => rfl
  | ok g =>
    -- To take a name away before it is made blank makes no difference.
    have hblank : ((c.shownName.map (GeneratorName.edited .unnaming)).getD (.text c.name)).blank = g.name.blank := by
      rw [name_of_instantiate h]
      cases c.shownName with
      | none => rfl
      | some name => cases name <;> rfl
    exact congrArg (fun name => Except.ok (Generator.mk name g.className g.script)) hblank

end Plugin
end GeneratorHost
