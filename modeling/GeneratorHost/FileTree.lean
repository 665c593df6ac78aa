import GeneratorHost.FileTree.Tree
import GeneratorHost.Text.Newline

/-! The tree of files that a run reads and writes. Every entry is found under its route; what a path names
    is found name by name, as long as there are directories to go through.

    A tree holds directories and files and nothing else. There are no links, so that every entry has one route;
    there are no permissions, so that nothing is refused for want of them; and no compiled plug-in is kept beside
    its source, as is the case where the interpreter is told to write none. The working directory may have been
    removed; then double dots lead out of it, but nothing else does, and it is found under no path. -/

namespace GeneratorHost

/-- The members of the root, and the directory that relative paths start from. -/
structure FileTree where
  workingDirectory : Route
  members : List (Text × Tree)
  deriving Inhabited

namespace FileTree

/-- The tree of everything. Its top is always a directory. -/
def tree (t : FileTree) : Tree := .directory t.members

/-- The entry at a route. -/
def lookup (t : FileTree) (route : Route) : Option Entry := (t.tree.at? route).map Tree.entry

/-- Puts an entry at a route, in the place of the one that was there. A directory keeps its members. -/
def put (t : FileTree) (route : Route) (entry : Entry) : FileTree :=
  let new : Tree := match entry with
    | .directory => .directory (((t.tree.at? route).map Tree.members).getD [])
    | .file content => .file content
  { t with members := (t.tree.put new route).members }

/-- Takes away the entry at a route, with everything below it. -/
def erase (t : FileTree) (route : Route) : FileTree := { t with members := (t.tree.erase route).members }

def entries (t : FileTree) : List (Route × Entry) := t.tree.entriesFrom []

/-! ### Finding what a path names -/

def longestName : Nat := 255

/-- The number of bytes that a written path has to stay below. -/
def pathBound : Nat := 4096

/-- The bytes of a written path. No zero may be among them. -/
def bytesOf (written : Text) : Except Failure (List UInt8) :=
  match written.encodeName with
  | .error e => .error (.unencodable e)
  | .ok bytes => if bytes.contains 0 then .error .embeddedNul else .ok bytes

def byteCount (written : Text) : Nat :=
  match written.encodeName with
  | .error _ => 0
  | .ok bytes => bytes.length

/-- One name further on from `route`: the route it leads to and the entry there. -/
def enter (t : FileTree) (route : Route) (name : Text) : Except OsCause (Route × Option Entry) :=
  match t.lookup route with
  | none => .error .missing
  | some (.file _) => .error .notDirectory
  | some .directory =>
    if name == Path.parentName then .ok (route.dropLast, some .directory)
    else if byteCount name > longestName then .error .nameTooLong
    else
      let next := route ++ [name.asName]
      .ok (next, t.lookup next)

/-- What `names` lead to from `route`; only what the last one names may be missing. -/
def follow (t : FileTree) (route : Route) (entry : Option Entry) :
    List Text → Except OsCause (Route × Option Entry)
  | [] => .ok (route, entry)
  | name :: names => do
    let (next, found) ← t.enter route name
    if found.isNone && !names.isEmpty then .error .missing
    else t.follow next found names

def isDirectoryAt (t : FileTree) (route : Route) : Bool := (t.lookup route).any Entry.isDirectory

/-- What `names` lead to from `route`. From where a directory was removed they lead nowhere but back. -/
def depart (t : FileTree) (route : Route) : List Text → Except OsCause (Route × Option Entry)
  | [] => if t.isDirectoryAt route then .ok (route, t.lookup route) else .error .missing
  | name :: names =>
    if t.isDirectoryAt route then t.follow route (t.lookup route) (name :: names)
    else if name == Path.parentName then t.depart route.dropLast names
    else .error .missing

def start (t : FileTree) (p : Path) : Route :=
  if p.isAbsolute then [] else t.workingDirectory

/-- The route of a path and the entry there, if all that lies before it exists. -/
def locate (t : FileTree) (p : Path) : Except OsCause (Route × Option Entry) :=
  if byteCount p.text < pathBound then t.depart (t.start p) p.names
  else .error .nameTooLong

/-- The entry that a path names. -/
def stat (t : FileTree) (p : Path) : Except OsCause Entry :=
  match t.locate p with
  | .ok (_, some entry) => .ok entry
  | .ok (_, none) => .error .missing
  | .error cause => .error cause

/-- The entry that a path names, or nothing if there is none. A name that is too long is an error. -/
def entryAt (t : FileTree) (p : Path) : Except Failure (Option Entry) :=
  match bytesOf p.text with
  | .error _ => .ok none
  | .ok _ => match t.stat p with
    | .ok entry => .ok (some entry)
    | .error .nameTooLong => .error (.os .nameTooLong p.text)
    | .error _ => .ok none

def «exists» (t : FileTree) (p : Path) : Except Failure Bool :=
  (t.entryAt p).map Option.isSome

def isDirectory (t : FileTree) (p : Path) : Except Failure Bool :=
  (t.entryAt p).map fun entry => entry.any Entry.isDirectory

def isFile (t : FileTree) (p : Path) : Except Failure Bool :=
  (t.entryAt p).map fun entry => entry.any fun e => !e.isDirectory

/-- Checks that every path on the way to what `names` lead to can be written; `back` holds the names so far,
    the last one first. -/
def checkWay (anchor : Anchor) (back : List Text) : List Text → Except Failure Unit
  | [] => .ok ()
  | name :: names =>
    if name == Path.parentName then
      let isKept := anchor == .relative && (back.isEmpty || back.head? == some Path.parentName)
      checkWay anchor (if isKept then name :: back else back.drop 1) names
    else match bytesOf name with
      | .ok _ => checkWay anchor (name :: back) names
      | .error _ => (bytesOf (Path.text ⟨anchor, (name :: back).reverse⟩)).map fun _ => ()

/-- Makes sure that there is something for a path to be taken from: only a path from the root can do without the
    working directory. -/
def checkStart (t : FileTree) (p : Path) : Except Failure Unit :=
  if t.isDirectoryAt (t.start p) then .ok () else .error .noWorkingDirectory

/-- The path without double dots, from the root. -/
def resolve (t : FileTree) (p : Path) : Except Failure Path := do
  checkWay (if p.isAbsolute then .root else .relative) [] p.names
  t.checkStart p
  .ok (.ofRoute (p.route t.workingDirectory))

/-! ### Reading and writing -/

def read (t : FileTree) (p : Path) : Except Failure Content := do
  let _ ← bytesOf p.text
  match t.stat p with
  | .ok (.file content) => .ok content
  | .ok .directory => .error (.os .isDirectory p.text)
  | .error cause => .error (.os cause p.text)

/-- The text of the file that a path names, with its line ends unified. -/
def readText (t : FileTree) (p : Path) : Except Failure String := do
  let content ← t.read p
  match Text.decode content.toBytes with
  | .ok s => .ok (Text.unifyNewlines s)
  | .error e => .error (.undecodable e)

/-- Where a file is written when it is opened under a path: the route of the file. -/
def fileRoute (t : FileTree) (p : Path) : Except Failure Route := do
  let _ ← bytesOf p.text
  match t.locate p with
  | .ok (_, some .directory) => .error (.os .isDirectory p.text)
  | .ok (route, _) => .ok route
  | .error cause => .error (.os cause p.text)

/-- The tree that an attempt to change it leaves, and how the attempt failed if it did. -/
abbrev Attempt := FileTree × Option Failure

/-- Writes a text to the file that a path names, which is made if it is missing. A text that cannot be written
    leaves the file empty. -/
def writeText (t : FileTree) (p : Path) (text : Text) : Attempt :=
  match t.fileRoute p with
  | .error e => (t, some e)
  | .ok route => match text.encode with
    | .ok bytes => (t.put route (.file (.bytes bytes)), none)
    | .error e => (t.put route (.file (.bytes [])), some (.unencodable e))

/-- Adds a text at the end of the file at a route, if there is one and the text can be written. -/
def appendAt (t : FileTree) (route : Route) (text : Text) : FileTree :=
  match t.lookup route, text.encode with
  | some (.file content), .ok bytes => t.put route (.file (.bytes (content.toBytes ++ bytes)))
  | _, _ => t

/-! ### Making directories -/

/-- Makes the directory that a path names, where everything before it exists. -/
def makeOne (t : FileTree) (p : Path) : Except OsCause FileTree :=
  match t.locate p with
  | .ok (_, some _) => .error .alreadyExists
  | .ok (route, none) => .ok (t.put route .directory)
  | .error cause => .error cause

/-- What is left after making a directory failed: nothing is wrong if the directory is there already. -/
def acceptExisting (t : FileTree) (p : Path) (cause : OsCause) : Attempt :=
  match t.isDirectory p with
  | .ok true => (t, none)
  | .ok false => (t, some (.os cause p.text))
  | .error e => (t, some e)

/-- How many missing directories may lie one inside the other. -/
def mostParents : Nat := 975

/-- Makes the directory that a path names, after those on the way to it that are missing. The number
    bounds how many of them there are. -/
def makeFrom (t : FileTree) (p : Path) : Nat → Attempt
  | 0 => (t, some .tooManyParents)
  | fuel + 1 =>
    match t.makeOne p with
    | .ok made => (made, none)
    | .error .missing =>
      if p.names.isEmpty then (t, some (.os .missing p.text))
      else match t.makeFrom p.parent fuel with
        | (parents, some e) => (parents, some e)
        | (parents, none) => match parents.makeOne p with
          | .ok made => (made, none)
          | .error cause => parents.acceptExisting p cause
    | .error cause => t.acceptExisting p cause

/-- Makes a directory and all that is missing on the way to it. -/
def makeDirectory (t : FileTree) (p : Path) : Attempt :=
  match bytesOf p.text with
  | .error e => (t, some e)
  | .ok _ => t.makeFrom p mostParents

/-! ### Frames -/

theorem tree_put {t : FileTree} {route : Route} (h : route ≠ []) (entry : Entry) :
    ∃ new : Tree, new.entry = entry ∧ (t.put route entry).tree = t.tree.put new route := by
  cases route with
  | nil => exact absurd rfl h
  | cons name route =>
    cases entry with
    | directory => exact ⟨_, rfl, rfl⟩
    | file content => exact ⟨_, rfl, rfl⟩

theorem lookup_put_self {t : FileTree} {route : Route} (h : route ≠ []) (entry : Entry) :
    (t.put route entry).lookup route = some entry := by
  obtain ⟨new, hn, ht⟩ := tree_put (t := t) h entry
  simp [lookup, ht, Tree.at?_put_self, hn]

end FileTree
end GeneratorHost
