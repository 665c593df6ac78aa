import GeneratorHost.Path
import GeneratorHost.Plugin.Statement

/-! Directories and files as a tree. What stands at a place is found by going down by names, and what was put at a
    place is found there. -/

namespace GeneratorHost

/-- What a file holds: bytes, or the statements of a plug-in module. -/
inductive Content
  | bytes (bs : List UInt8)
  | module (statements : List Plugin.Statement)
  deriving Inhabited

def Content.toBytes : Content → List UInt8
  | bytes bs => bs
  | module _ => []

inductive Entry
  | directory
  | file (content : Content)
  deriving Inhabited

def Entry.isDirectory : Entry → Bool
  | directory => true
  | file _ => false

/-- A directory with its members by name, or a file. -/
inductive Tree
  | directory (members : List (Text × Tree))
  | file (content : Content)
  deriving Inhabited

namespace Tree

def empty : Tree := directory []

def members : Tree → List (Text × Tree)
  | directory ms => ms
  | file _ => []

@[simp] theorem members_directory (ms : List (Text × Tree)) : (directory ms).members = ms := rfl

def entry : Tree → Entry
  | directory _ => .directory
  | file content => .file content

/-! ### Members -/

def find (name : Text) : List (Text × Tree) → Option Tree
  | [] => none
  | m :: ms => if m.1 = name then some m.2 else find name ms

/-- The members with one set, in the place of the one that had the name. -/
def set (name : Text) (t : Tree) : List (Text × Tree) → List (Text × Tree)
  | [] => [(name, t)]
  | m :: ms => if m.1 = name then (name, t) :: ms else m :: set name t ms

theorem find_set_self (name : Text) (t : Tree) : ∀ ms, find name (set name t ms) = some t
  | [] => by simp [set, find]
  | m :: ms => by
    by_cases h : m.1 = name <;> simp [set, find, h, find_set_self name t ms]

theorem find_set_other {name other : Text} (h : other ≠ name) (t : Tree) :
    ∀ ms, find other (set name t ms) = find other ms
  | [] => by simp [set, find, h.symm]
  | m :: ms => by
    by_cases hm : m.1 = name
    · simp [set, find, hm, h.symm]
    · simp [set, find, hm, find_set_other h t ms]

/-! ### Places -/

/-- What stands at the end of a route. -/
def at? (t : Tree) : Route → Option Tree
  | [] => some t
  | name :: route => (find name t.members).bind fun m => m.at? route

/-- The tree with another one at the end of a route. What lies on the way becomes a directory. -/
def put (t new : Tree) : Route → Tree
  | [] => new
  | name :: route => directory (set name (((find name t.members).getD empty).put new route) t.members)

/-- The tree without what stands at the end of a route. -/
def erase (t : Tree) : Route → Tree
  | [] => t
  | [name] => match t with
    | directory ms => directory (ms.filter fun m => m.1 != name)
    | file content => file content
  | name :: route => match find name t.members with
    | some m => directory (set name (m.erase route) t.members)
    | none => t

mutual

/-- Every entry below a route, that at the route itself first. -/
def entriesFrom (route : Route) : Tree → List (Route × Entry)
  | directory ms => (route, .directory) :: entriesIn route ms
  | file content => [(route, .file content)]

/-- Every entry of the members of the directory at a route. -/
def entriesIn (route : Route) : List (Text × Tree) → List (Route × Entry)
  | [] => []
  | (name, t) :: rest => entriesFrom (route ++ [name]) t ++ entriesIn route rest

end

theorem at?_put_self (new : Tree) : ∀ (route : Route) (t : Tree), (t.put new route).at? route = some new
  | [], _ => by simp [put, at?]
  | name :: route, t => by simp [put, at?, find_set_self, at?_put_self new route]

end Tree
end GeneratorHost
