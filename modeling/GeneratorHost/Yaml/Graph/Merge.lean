import GeneratorHost.Yaml.Fault
import GeneratorHost.Yaml.Graph

/-! Merging in a graph. An entry under the merge key of a mapping stands for the entries of the mapping that is
    its value, or of every mapping in the sequence that is its value. They are put in front of the others, and
    the entry itself is dropped. The mapping may lie in itself, so every merge is dropped before it is gone
    into; that is why the number of merges bounds the work. -/

namespace GeneratorHost
namespace Yaml
namespace Graph

abbrev Rewrite := StateT Graph (Except Fault)

/-- How many mappings may be gone into one inside the other. -/
def deepestMerge : Nat := 970

def isMerge (g : Graph) (e : Pair) : Bool := g.tag e.1 == Tag.of "merge"

/-- The number of merges in a node. -/
def mergesIn (g : Graph) (n : Node) : Nat :=
  match n.body with
  | .mapping entries => entries.countP g.isMerge
  | _ => 0

def merges (g : Graph) : Nat := g.nodes.foldl (fun count n => count + g.mergesIn n) 0

/-- The first merge among entries, between those in front of it and those behind it. -/
def splitAtMerge? (g : Graph) (entries : List Pair) : Option (List Pair × Place × List Pair) :=
  match entries.span fun e => !g.isMerge e with
  | (front, e :: back) => some (front, e.2, back)
  | (_, []) => none

/-- An equals sign as a key is text like any other. -/
def settleKey (g : Graph) (e : Pair) : Graph :=
  if g.tag e.1 == Tag.of "value" then g.modify e.1 fun n => { n with tag := Tag.of "str" } else g

/-- Ends the merging in a mapping: what was merged is put in front of its own entries. -/
def finish (g : Graph) (p : Place) (merged : List Pair) : Graph :=
  let own := g.entries p
  (own.foldl settleKey g).setEntries p (merged ++ own)

/-- Merges in a mapping `p`, which is gone into through `depth` others, behind `merged`. The number bounds the
    merges. -/
def mergeIn (depth : Nat) (p : Place) (merged : List Pair) : Nat → Rewrite Unit
  | 0 => throw .tooDeep
  | fuel + 1 => do
    if depth > deepestMerge then throw .tooDeep
    let source (q : Place) : Rewrite (List Pair) := do
      match ((← get).node q).body with
      | .mapping _ =>
        mergeIn (depth + 1) q [] fuel
        return (← get).entries q
      | _ => throw .malformed
    let g ← get
    match g.splitAtMerge? (g.entries p) with
    | none => set (g.finish p merged)
    | some (front, v, back) =>
      set (g.setEntries p (front ++ back))
      match (g.node v).body with
      | .sequence items => mergeIn depth p (merged ++ (← items.mapM source).reverse.flatten) fuel
      | _ => mergeIn depth p (merged ++ (← source v)) fuel
termination_by structural bound => bound

end Graph
end Yaml
end GeneratorHost
