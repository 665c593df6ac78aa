import GeneratorHost.Text.Basic

/-! The nodes of a YAML document: scalars, sequences and mappings, each with the tag that says what it means.
    A node stands for every one of its aliases, and may lie inside itself; so the nodes make up a graph, in
    which each has a place. -/

namespace GeneratorHost
namespace Yaml

/-- What every tag of the language itself starts with. -/
def Tag.common : String := "tag:yaml.org,2002:"

/-- A tag of the language itself. -/
def Tag.of (name : String) : String := Tag.common ++ name

/-- The kind that a tag names, if it is one of the language itself. -/
def Tag.kind (tag : String) : String :=
  if Tag.common.toList.isPrefixOf tag.toList then String.ofList (tag.toList.drop Tag.common.length) else ""

abbrev Place := Nat

/-- An entry of a mapping: the places of its key and of its value. -/
abbrev Pair := Place × Place

/-- What a node holds. -/
inductive Body
  | scalar (text : Text)
  | sequence (items : List Place)
  | mapping (entries : List Pair)
  deriving DecidableEq, Repr, Inhabited

structure Node where
  tag : String
  body : Body
  deriving DecidableEq, Repr, Inhabited

structure Graph where
  nodes : Array Node
  deriving Inhabited

namespace Graph

def empty : Graph := ⟨#[]⟩

def size (g : Graph) : Nat := g.nodes.size

/-- A scalar that is not there. -/
def absent : Node := ⟨Tag.of "null", .scalar .empty⟩

def node (g : Graph) (p : Place) : Node := g.nodes[p]?.getD absent

/-- The graph with one more node, and its place. -/
def add (g : Graph) (n : Node) : Place × Graph := (g.nodes.size, ⟨g.nodes.push n⟩)

/-- The graph with a node changed. -/
def modify (g : Graph) (p : Place) (change : Node → Node) : Graph := ⟨g.nodes.modify p change⟩

def tag (g : Graph) (p : Place) : String := (g.node p).tag

def entries (g : Graph) (p : Place) : List Pair :=
  match (g.node p).body with
  | .mapping entries => entries
  | _ => []

def setEntries (g : Graph) (p : Place) (entries : List Pair) : Graph :=
  g.modify p fun n => { n with body := .mapping entries }

end Graph
end Yaml
end GeneratorHost
