import GeneratorHost.Yaml.Base64
import GeneratorHost.Yaml.Calendar
import GeneratorHost.Yaml.Graph.Merge
import GeneratorHost.Yaml.Number

/-! The values of the nodes of a graph. A scalar has its value at once. A collection waits: the members of
    collections are gone through in the order in which the collections are met, and the first fault met that
    way is the fault of the document. -/

namespace GeneratorHost
namespace Yaml

/-- What a node stands for: a scalar, the value that is no number, or a collection of what other nodes stand
    for. That value is the same key as itself, though no number equals it. -/
inductive Meaning
  | scalar (v : Value)
  | noNumber
  | list (items : List Place)
  | pairs (entries : List Pair)
  | set (keys : List Place)
  | map (entries : List Pair)
  deriving Inhabited

/-- What a scalar or a collection that is not gone into holds. -/
def Meaning.shallow : Meaning → Value
  | scalar v => v
  | noNumber => .float .nan
  | list _ | pairs _ => .list []
  | set _ => .set []
  | map _ => .map []

/-- Collections are no keys. -/
def Meaning.isKey : Meaning → Bool
  | scalar _ | noNumber => true
  | _ => false

/-- The graph, what its nodes stand for as far as it is known, and the collections that wait, the one met last
    in front. -/
structure Builder where
  graph : Graph
  meanings : Array (Option Meaning)
  waiting : List Place
  deriving Inhabited

abbrev Build := StateT Builder (Except Fault)

namespace Builder

/-! ### Scalars -/

/-- How many mappings may be gone into for the text of a scalar. -/
def deepestText : Nat := 970

/-- The text of a node: that of a scalar, or that of the value behind the equals sign of a mapping. -/
def text (g : Graph) (p : Place) : Nat → Except Fault Text
  | 0 => throw .tooDeep
  | fuel + 1 =>
    match (g.node p).body with
    | .scalar t => pure t
    | .mapping entries =>
      match entries.find? fun e => g.tag e.1 == Tag.of "value" with
      | some e => text g e.2 fuel
      | none => throw .malformed
    | .sequence _ => throw .malformed

/-- How scalars of a kind are read, given their text and whether they are scalars themselves and no mappings
    with an equals sign; none if the kind is no kind of scalars. -/
def scalarReader? : String → Option (Text → Bool → Except Fault Meaning)
  | "null" => some fun _ _ => pure (.scalar .null)
  | "bool" => some fun t _ => (Number.truthOfScalar t).map fun b => .scalar (.bool b)
  | "int" => some fun t _ => (Number.integerOfScalar t).map fun n => .scalar (.int n)
  | "float" => some fun t _ => (Number.doubleOfScalar t).map fun x =>
      if Number.isNoNumber t then .noNumber else .scalar (.float x)
  | "binary" => some fun t _ => match Base64.decode? t with
      | some bs => pure (.scalar (.bytes bs))
      | none => throw .malformed
  | "timestamp" => some fun t isScalar =>
      if isScalar then (Calendar.ofScalar t).map .scalar else throw (.instantOfCollection "list")
  | "str" => some fun t _ => pure (.scalar (.text t))
  | _ => none

/-- What a collection of a kind stands for before its members are known. -/
def collection? : String → Option Meaning
  | "seq" => some (.list [])
  | "omap" | "pairs" => some (.pairs [])
  | "set" => some (.set [])
  | "map" => some (.map [])
  | _ => none

def isScalar (g : Graph) (p : Place) : Bool :=
  match (g.node p).body with
  | .scalar _ => true
  | _ => false

/-- What a node that is no collection stands for. -/
def scalar (g : Graph) (p : Place) : Except Fault Meaning := do
  match scalarReader? (Tag.kind (g.tag p)) with
  | some read => read (← text g p deepestText) (isScalar g p)
  | none => throw .malformed

/-! ### Members -/

/-- What a node stands for, if it is known. -/
def known? (b : Builder) (p : Place) : Option Meaning := b.meanings[p]?.join

/-- Notes what a node stands for. -/
def note (p : Place) (m : Meaning) : Build Unit :=
  modify fun b => { b with meanings := b.meanings.setIfInBounds p (some m) }

/-- Meets a node: what it stands for is found, a collection is left to wait. -/
def meet (p : Place) : Build Meaning := do
  let b ← get
  match b.known? p with
  | some m => pure m
  | none =>
    match collection? (Tag.kind (b.graph.tag p)) with
    | some m =>
      note p m
      modify fun b => { b with waiting := p :: b.waiting }
      pure m
    | none =>
      let m ← scalar b.graph p
      note p m
      pure m

/-- Whether two nodes are one key. -/
def isSameKey (b : Builder) (p q : Place) : Bool :=
  p == q || match b.known? p, b.known? q with
    | some (.scalar v), some (.scalar w) => v.sameKey w
    | some .noNumber, some .noNumber => true
    | _, _ => false

/-- Sets the value of a key. The key that was there first is kept, in its place. -/
def insert (b : Builder) (e : Pair) : List Pair → List Pair
  | [] => [e]
  | first :: rest => if b.isSameKey first.1 e.1 then (first.1, e.2) :: rest else first :: insert b e rest

/-- The members of a sequence. -/
def items (p : Place) : Build (List Place) := do
  match ((← get).graph.node p).body with
  | .sequence items => pure items
  | _ => throw .malformed

/-- The only entry of a member of a sequence of pairs. -/
def onlyEntry (p : Place) : Build Pair := do
  match ((← get).graph.node p).body with
  | .mapping [e] => pure e
  | _ => throw .malformed

def meetAll : List Place → Build Unit
  | [] => pure ()
  | p :: ps => do
    let _ ← meet p
    meetAll ps

/-- Meets the entries of a mapping, whose keys may not be collections; `found` holds those met so far. -/
def meetEntries (found : List Pair) : List Pair → Build (List Pair)
  | [] => pure found
  | e :: es => do
    if !(← meet e.1).isKey then throw .malformed
    let _ ← meet e.2
    meetEntries (insert (← get) e found) es

/-- Meets the members of a sequence of pairs. -/
def meetPairs : List Place → Build (List Pair)
  | [] => pure []
  | p :: ps => do
    let e ← onlyEntry p
    meetAll [e.1, e.2]
    return e :: (← meetPairs ps)

/-- The entries of a mapping once it is merged. The number bounds the merges. -/
def mergedEntries (p : Place) (merges : Nat) : Build (List Pair) := do
  let b ← get
  match (b.graph.node p).body with
  | .mapping _ =>
    let (_, graph) ← (Graph.mergeIn 1 p [] merges).run b.graph
    set { b with graph }
    pure (graph.entries p)
  | _ => throw .malformed

/-- Goes through the members of a collection. The number bounds the merges. -/
def fill (merges : Nat) (p : Place) : Build Unit := do
  match (← get).known? p with
  | some (.list _) =>
    let items ← items p
    meetAll items
    note p (.list items)
  | some (.pairs _) => note p (.pairs (← meetPairs (← items p)))
  | some (.set _) => note p (.set ((← meetEntries [] (← mergedEntries p merges)).map (·.1)))
  | some (.map _) => note p (.map (← meetEntries [] (← mergedEntries p merges)))
  | _ => pure ()

/-- Goes through the members of collections, in order. The number bounds the merges. -/
def fillAll (merges : Nat) : List Place → Build Unit
  | [] => pure ()
  | p :: ps => do
    fill merges p
    fillAll merges ps

/-- Goes through the collections that wait, in the order in which they were met, and then through those met on
    the way. The numbers bound the merges and the rounds. -/
def fillWaiting (merges : Nat) : Nat → Build Unit
  | 0 => pure ()
  | fuel + 1 => do
    let waiting := (← get).waiting
    if waiting.isEmpty then return
    modify fun b => { b with waiting := [] }
    fillAll merges waiting.reverse
    fillWaiting merges fuel

/-! ### Values -/

/-- The value of a node, gone into through `depth` collections, the last of which are left empty. -/
def value (b : Builder) (p : Place) : Nat → Value
  | 0 => ((b.known? p).map Meaning.shallow).getD .null
  | depth + 1 =>
    match b.known? p with
    | some (.list items) => .list (items.map fun q => value b q depth)
    | some (.pairs entries) => .list (entries.map fun e => .pair (value b e.1 depth) (value b e.2 depth))
    | some (.set keys) => .set (keys.map fun q => value b q depth)
    | some (.map entries) => .map (entries.map fun e => (value b e.1 depth, value b e.2 depth))
    | some m => m.shallow
    | none => .null

end Builder

/-- The value of a node. It may hold itself, so collections are gone into `depth` deep and the ones below are
    left empty. -/
def Graph.value (g : Graph) (p : Place) (depth : Nat) : Except Fault Value := do
  let build : Build Unit := do
    let _ ← Builder.meet p
    Builder.fillWaiting (g.merges + 1) (g.size + 1)
  let (_, b) ← build.run ⟨g, Array.replicate g.size none, []⟩
  pure (b.value p depth)

end Yaml
end GeneratorHost
