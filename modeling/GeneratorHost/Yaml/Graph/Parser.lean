import GeneratorHost.Yaml.Kind
import GeneratorHost.Yaml.Token

/-! The graph of a document, from the tokens of a text. There has to be at most one document. An alias
    stands for the node that its anchor names, which has to come before it or around it. -/

namespace GeneratorHost
namespace Yaml

/-- The tokens that are left, the nodes read so far, the places that anchors name, and what tag handles
    mean. -/
structure Parser where
  tokens : List Token
  graph : Graph
  anchors : List (String × Place)
  handles : List (String × String)
  deriving Inhabited

abbrev Parse := StateT Parser (Except Fault)

namespace Parser

/-- What tag handles mean where no directive says otherwise. -/
def commonHandles : List (String × String) := [("!", "!"), ("!!", Tag.common)]

/-- How many collections may lie one inside the other. -/
def deepest : Nat := 485

/-- The next token. A fault shows when it is the next. -/
def peek : Parse Token := do
  match (← get).tokens with
  | [] => throw .malformed
  | .fault f :: _ => throw f
  | t :: _ => pure t

/-- Drops the next token. -/
def skip : Parse Unit := modify fun p => { p with tokens := p.tokens.drop 1 }

/-- Drops the next token if it is the given one. -/
def accept (t : Token) : Parse Bool := do
  if (← peek) == t then
    skip
    pure true
  else pure false

/-- Drops the next token, which has to be the given one. -/
def expect (t : Token) : Parse Unit := do
  if !(← accept t) then throw .malformed

/-- Whether the next token is one of some. -/
def isNext (ts : List Token) : Parse Bool := return ts.contains (← peek)

/-! ### Tags and anchors -/

/-- An anchor, if it is next. -/
def anchor? : Parse (Option String) := do
  match ← peek with
  | .anchor name =>
    skip
    pure (some name)
  | _ => pure none

/-- A tag, if it is next: its handle and its suffix. -/
def tag? : Parse (Option (Option String × String)) := do
  match ← peek with
  | .tag handle suffix =>
    skip
    pure (some (handle, suffix))
  | _ => pure none

/-- A tag with its handle replaced by what that means. It has to mean something. -/
def expand (tag : Option String × String) : Parse String := do
  match tag with
  | (none, suffix) => pure suffix
  | (some name, suffix) =>
    match (← get).handles.find? (·.1 == name) with
    | some (_, meaning) => pure (meaning ++ suffix)
    | none => throw .malformed

/-- An anchor and a tag, in either order, as far as they are there. -/
def properties : Parse (Option String × Option String) := do
  let (anchor, tag) ←
    match ← anchor? with
    | some name => pure (some name, ← tag?)
    | none => match ← tag? with
      | some tag => pure (← anchor?, some tag)
      | none => pure (none, none)
  match tag with
  | some tag => pure (anchor, some (← expand tag))
  | none => pure (anchor, none)

/-- An anchor may be used once. -/
def checkAnchor (anchor : Option String) : Parse Unit := do
  match anchor with
  | some name => if (← get).anchors.any (·.1 == name) then throw .malformed
  | none => pure ()

/-- The node of an alias. -/
def resolve (name : String) : Parse Place := do
  match (← get).anchors.find? (·.1 == name) with
  | some (_, p) => pure p
  | none => throw .malformed

def add (n : Node) : Parse Place :=
  modifyGet fun p => let (place, graph) := p.graph.add n; (place, { p with graph })

/-- Adds a node under its anchor. -/
def addUnder (anchor : Option String) (n : Node) : Parse Place := do
  checkAnchor anchor
  let place ← add n
  match anchor with
  | some name => modify fun p => { p with anchors := (name, place) :: p.anchors }
  | none => pure ()
  pure place

def addAbsent : Parse Place := add Graph.absent

def collectionTag (tag : Option String) (name : String) : String :=
  match tag with
  | some given => if given == "!" then Tag.of name else given
  | none => Tag.of name

/-- Reads a collection, which is known under its anchor from the start. -/
def collection (anchor : Option String) (tag : String) (start : Body) (read : Parse Body) : Parse Place := do
  let place ← addUnder anchor ⟨tag, start⟩
  let body ← read
  modify fun p => { p with graph := p.graph.modify place fun n => { n with body } }
  pure place

/-- The tag of a scalar. One without a tag is text unless it is plain. -/
def scalarTag (tag : Option String) (text : Text) (style : Style) : String :=
  match tag with
  | some given => if given == "!" then Kind.ofPlain text else given
  | none => if style == .plain then Kind.ofPlain text else Tag.of "str"

/-- Adds a scalar under its anchor. -/
def addScalar (anchor : Option String) (tag : Option String) (text : Text) (style : Style) : Parse Place :=
  addUnder anchor ⟨scalarTag tag text style, .scalar text⟩

/-! ### Nodes -/

/-- Where a node stands: in a block collection, or as a value of a block mapping, whose sequences need no
    indentation, or in a flow collection. -/
inductive Context
  | block
  | blockValue
  | flow
  deriving DecidableEq, Repr

mutual

/-- Reads a node, which lies in `depth` collections. The number bounds the tokens. -/
def node (context : Context) (depth : Nat) : Nat → Parse Place
  | 0 => throw .malformed
  | fuel + 1 => do
    if depth > deepest then throw .tooDeep
    if let .alias name ← peek then
      skip
      return ← resolve name
    let (anchor, tag) ← properties
    let sequence (read : Parse (List Place)) : Parse Place :=
      collection anchor (collectionTag tag "seq") (.sequence []) do return .sequence (← read)
    let mapping (read : Parse (List Pair)) : Parse Place :=
      collection anchor (collectionTag tag "map") (.mapping []) do return .mapping (← read)
    match ← peek, context with
    | .blockEntry, .blockValue => sequence (flatItems (depth + 1) [] fuel)
    | .scalar text style, _ =>
      skip
      addScalar anchor tag text style
    | .flowSequenceStart, _ => sequence (do skip; flowItems (depth + 1) [] fuel)
    | .flowMappingStart, _ => mapping (do skip; flowEntries (depth + 1) [] fuel)
    | t, _ =>
      if t == .blockSequenceStart && context != .flow then sequence (do skip; blockItems (depth + 1) [] fuel)
      else if t == .blockMappingStart && context != .flow then
        mapping (do skip; blockEntries (depth + 1) [] fuel)
      else if anchor.isSome || tag.isSome then addScalar anchor tag .empty .plain
      else throw .malformed
termination_by structural bound => bound

/-- Reads a node, or none before one of the tokens that end it. -/
def nodeBefore (ends : List Token) (context : Context) (depth : Nat) : Nat → Parse Place
  | 0 => throw .malformed
  | fuel + 1 => do if ← isNext ends then addAbsent else node context depth fuel
termination_by structural bound => bound

/-- Reads the members of a block sequence and its end; `back` holds those read so far, the last one first. -/
def blockItems (depth : Nat) (back : List Place) : Nat → Parse (List Place)
  | 0 => throw .malformed
  | fuel + 1 => do
    if ← accept .blockEntry then
      let n ← nodeBefore [.blockEntry, .blockEnd] .block depth fuel
      blockItems depth (n :: back) fuel
    else
      expect .blockEnd
      pure back.reverse
termination_by structural bound => bound

/-- Reads the members of a sequence that needs no indentation. -/
def flatItems (depth : Nat) (back : List Place) : Nat → Parse (List Place)
  | 0 => throw .malformed
  | fuel + 1 => do
    if ← accept .blockEntry then
      let n ← nodeBefore [.blockEntry, .key, .value, .blockEnd] .block depth fuel
      flatItems depth (n :: back) fuel
    else pure back.reverse
termination_by structural bound => bound

/-- Reads the entries of a block mapping and its end. -/
def blockEntries (depth : Nat) (back : List Pair) : Nat → Parse (List Pair)
  | 0 => throw .malformed
  | fuel + 1 => do
    let ends : List Token := [.key, .value, .blockEnd]
    if ← accept .key then
      let k ← nodeBefore ends .blockValue depth fuel
      let v ← if ← accept .value then nodeBefore ends .blockValue depth fuel else addAbsent
      blockEntries depth ((k, v) :: back) fuel
    else
      expect .blockEnd
      pure back.reverse
termination_by structural bound => bound

/-- Reads the members of a flow sequence and its end. -/
def flowItems (depth : Nat) (back : List Place) : Nat → Parse (List Place)
  | 0 => throw .malformed
  | fuel + 1 => do
    if ← accept .flowSequenceEnd then return back.reverse
    if !back.isEmpty then expect .flowEntry
    if ← accept .key then
      let pair ← collection none (Tag.of "map") (.mapping []) do
        let k ← nodeBefore [.value, .flowEntry, .flowSequenceEnd] .flow (depth + 1) fuel
        let v ← if ← accept .value then nodeBefore [.flowEntry, .flowSequenceEnd] .flow (depth + 1) fuel else addAbsent
        return .mapping [(k, v)]
      flowItems depth (pair :: back) fuel
    else if ← accept .flowSequenceEnd then return back.reverse
    else
      let n ← node .flow depth fuel
      flowItems depth (n :: back) fuel
termination_by structural bound => bound

/-- Reads the entries of a flow mapping and its end. -/
def flowEntries (depth : Nat) (back : List Pair) : Nat → Parse (List Pair)
  | 0 => throw .malformed
  | fuel + 1 => do
    let ends : List Token := [.flowEntry, .flowMappingEnd]
    if ← accept .flowMappingEnd then return back.reverse
    if !back.isEmpty then expect .flowEntry
    if ← accept .key then
      let k ← nodeBefore (.value :: ends) .flow depth fuel
      let v ← if ← accept .value then nodeBefore ends .flow depth fuel else addAbsent
      flowEntries depth ((k, v) :: back) fuel
    else if ← accept .flowMappingEnd then return back.reverse
    else
      let k ← node .flow depth fuel
      let v ← addAbsent
      flowEntries depth ((k, v) :: back) fuel
termination_by structural bound => bound

end

/-! ### Documents -/

/-- Reads the directives in front of a document. -/
def directives (version : Bool) (handles : List (String × String)) : Nat → Parse (List (String × String))
  | 0 => throw .malformed
  | fuel + 1 => do
    match ← peek with
    | .version major =>
      skip
      if version || major != 1 then throw .malformed
      directives true handles fuel
    | .handle name meaning =>
      skip
      if handles.any (·.1 == name) then throw .malformed
      directives version (handles ++ [(name, meaning)]) fuel
    | .reserved =>
      skip
      directives version handles fuel
    | _ => pure handles

/-- Drops the ends of documents. -/
def skipEnds : Nat → Parse Unit
  | 0 => pure ()
  | fuel + 1 => do if ← accept .documentEnd then skipEnds fuel

/-- Whether a directive is next. -/
def isDirective : Token → Bool
  | .version _ | .handle .. | .reserved => true
  | _ => false

/-- Reads what stands in front of a document that starts with directives or a mark of its own. False at the
    end of the text. -/
def documentStart (fuel : Nat) : Parse Bool := do
  skipEnds fuel
  if (← peek) == .streamEnd then return false
  let handles ← directives false [] fuel
  expect .documentStart
  modify fun p => { p with handles := handles ++ commonHandles }
  pure true

/-- Reads the node of a document behind its mark. -/
def explicitDocument (fuel : Nat) : Parse Place := do
  let t ← peek
  if isDirective t || [.documentStart, .documentEnd, .streamEnd].contains t then addAbsent
  else node .block 0 fuel

/-- Reads the only document of a text, if there is one. What stands in front of another one is read before that
    one is refused. -/
def document (fuel : Nat) : Parse (Option Place) := do
  let t ← peek
  let isExplicit := isDirective t || [.documentStart, .streamEnd].contains t
  if isExplicit then if !(← documentStart fuel) then return none
  let found ← if isExplicit then explicitDocument fuel else node .block 0 fuel
  if ← documentStart fuel then throw .malformed
  pure (some found)

end Parser

/-- The graph of the only document that tokens make up, and the place of the node that holds all others, if
    there is a document. -/
def Graph.ofTokens? (tokens : List Token) : Except Fault (Option (Place × Graph)) :=
  ((Parser.document (4 * tokens.length + 8)).run ⟨tokens, .empty, [], Parser.commonHandles⟩).map
    fun (found, p) => found.map fun place => (place, p.graph)

end Yaml
end GeneratorHost
