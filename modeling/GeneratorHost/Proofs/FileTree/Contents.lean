import GeneratorHost.Proofs.FileTree.Lookup

/-! File trees whose files hold something else. What a path names, and what can be made or written there, depends on
    which entries are there and which of them are directories, and not on what the files hold. -/

namespace GeneratorHost

/-- An entry with another content, if it is a file. -/
def Entry.mapContent (f : Content → Content) : Entry → Entry
  | directory => directory
  | file content => file (f content)

namespace Entry

variable {f : Content → Content}

@[simp] theorem isDirectory_mapContent (e : Entry) : (e.mapContent f).isDirectory = e.isDirectory := by
  cases e <;> rfl

end Entry

namespace Tree

mutual

/-- A tree whose files hold other contents. -/
def mapContent (f : Content → Content) : Tree → Tree
  | directory ms => directory (mapMembers f ms)
  | file content => file (f content)

/-- Members whose files hold other contents. -/
def mapMembers (f : Content → Content) : List (Text × Tree) → List (Text × Tree)
  | [] => []
  | (name, t) :: rest => (name, t.mapContent f) :: mapMembers f rest

end

section Map
variable {f : Content → Content}

@[simp] theorem entry_mapContent (t : Tree) : (t.mapContent f).entry = t.entry.mapContent f := by
  cases t <;> rfl

@[simp] theorem members_mapContent (t : Tree) : (t.mapContent f).members = mapMembers f t.members := by
  cases t <;> rfl

theorem find_mapMembers (name : Text) : ∀ ms, find name (mapMembers f ms) = (find name ms).map (mapContent f)
  | [] => rfl
  | (other, t) :: ms => by
    by_cases h : other = name
    · simp [mapMembers, find, h]
    · simp [mapMembers, find, h, find_mapMembers name ms]

theorem set_mapMembers (name : Text) (t : Tree) :
    ∀ ms, set name (t.mapContent f) (mapMembers f ms) = mapMembers f (set name t ms)
  | [] => rfl
  | (other, m) :: ms => by
    by_cases h : other = name
    · simp [mapMembers, set, h]
    · simp [mapMembers, set, h, set_mapMembers name t ms]

theorem at?_mapContent : ∀ (route : Route) (t : Tree), (t.mapContent f).at? route = (t.at? route).map (mapContent f)
  | [], _ => rfl
  | name :: route, t => by
    simp only [at?, members_mapContent, find_mapMembers]
    cases find name t.members with
    | none => rfl
    | some m => exact at?_mapContent route m

theorem put_mapContent (new : Tree) :
    ∀ (route : Route) (t : Tree), (t.mapContent f).put (new.mapContent f) route = (t.put new route).mapContent f
  | [], _ => rfl
  | name :: route, t => by
    have hnext : ((find name (mapMembers f t.members)).getD empty).put (new.mapContent f) route =
        (((find name t.members).getD empty).put new route).mapContent f := by
      rw [find_mapMembers, ← put_mapContent new route]
      cases find name t.members <;> rfl
    simp only [put, members_mapContent, hnext, set_mapMembers, mapContent]

mutual

theorem length_entriesFrom_mapContent (route : Route) :
    ∀ t : Tree, ((t.mapContent f).entriesFrom route).length = (t.entriesFrom route).length
  | directory ms => congrArg (· + 1) (length_entriesIn_mapMembers route ms)
  | file _ => rfl

theorem length_entriesIn_mapMembers (route : Route) :
    ∀ ms, (entriesIn route (mapMembers f ms)).length = (entriesIn route ms).length
  | [] => rfl
  | (name, t) :: rest => by
    simp only [mapMembers, entriesIn, List.length_append, length_entriesFrom_mapContent (route ++ [name]) t,
      length_entriesIn_mapMembers route rest]

end

end Map

end Tree

namespace FileTree

/-- A file tree whose files hold other contents. -/
def mapContent (f : Content → Content) (t : FileTree) : FileTree := { t with members := Tree.mapMembers f t.members }

variable {f : Content → Content}

theorem tree_mapContent (t : FileTree) : (t.mapContent f).tree = t.tree.mapContent f := rfl

@[simp] theorem lookup_mapContent (t : FileTree) (route : Route) :
    (t.mapContent f).lookup route = (t.lookup route).map (Entry.mapContent f) := by
  rw [lookup, lookup, tree_mapContent, Tree.at?_mapContent]
  cases t.tree.at? route with
  | none => rfl
  | some m => exact congrArg some (Tree.entry_mapContent m)

theorem length_entries_mapContent (t : FileTree) : (t.mapContent f).entries.length = t.entries.length :=
  Tree.length_entriesFrom_mapContent [] t.tree

theorem put_mapContent (t : FileTree) (route : Route) (entry : Entry) :
    (t.mapContent f).put route (entry.mapContent f) = (t.put route entry).mapContent f := by
  have hput : ∀ new : Tree, ((t.tree.mapContent f).put (new.mapContent f) route).members =
      Tree.mapMembers f (t.tree.put new route).members := by
    intro new
    rw [Tree.put_mapContent, Tree.members_mapContent]
  cases entry with
  | file content => exact congrArg (FileTree.mk t.workingDirectory) (hput (.file content))
  | directory =>
    have hmembers : (((t.mapContent f).tree.at? route).map Tree.members).getD [] =
        Tree.mapMembers f (((t.tree.at? route).map Tree.members).getD []) := by
      rw [tree_mapContent, Tree.at?_mapContent]
      cases t.tree.at? route with
      | none => rfl
      | some m => exact Tree.members_mapContent m
    simp only [put, Entry.mapContent, hmembers]
    exact congrArg (FileTree.mk t.workingDirectory) (hput (.directory _))

/-! ### What a path names -/

/-- What was found, in the tree with the other contents. -/
def mapFound (f : Content → Content) (found : Route × Option Entry) : Route × Option Entry :=
  (found.1, found.2.map (Entry.mapContent f))

theorem enter_mapContent (t : FileTree) (route : Route) (name : Text) :
    (t.mapContent f).enter route name = (t.enter route name).map (mapFound f) := by
  unfold enter
  rw [lookup_mapContent]
  cases t.lookup route with
  | none => rfl
  | some e =>
    cases e with
    | file content => rfl
    | directory =>
      simp only [Option.map_some, Entry.mapContent, lookup_mapContent]
      split
      · rfl
      · split
        · rfl
        · rfl

theorem follow_mapContent (t : FileTree) : ∀ (names : List Text) (route : Route) (e : Option Entry),
    (t.mapContent f).follow route (e.map (Entry.mapContent f)) names = (t.follow route e names).map (mapFound f)
  | [], _, _ => rfl
  | name :: names, route, e => by
    simp only [follow]
    rw [enter_mapContent]
    cases t.enter route name with
    | error cause => rfl
    | ok found =>
      obtain ⟨next, e'⟩ := found
      show (if (e'.map (Entry.mapContent f)).isNone && !names.isEmpty then .error .missing
        else (t.mapContent f).follow next (e'.map (Entry.mapContent f)) names) =
          (if e'.isNone && !names.isEmpty then .error .missing else t.follow next e' names : Except OsCause _).map
            (mapFound f)
      rw [Option.isNone_map]
      split
      · rfl
      · exact follow_mapContent t names next e'

@[simp] theorem isDirectoryAt_mapContent (t : FileTree) (route : Route) :
    (t.mapContent f).isDirectoryAt route = t.isDirectoryAt route := by
  rw [isDirectoryAt, isDirectoryAt, lookup_mapContent]
  cases t.lookup route with
  | none => rfl
  | some e => exact Entry.isDirectory_mapContent e

theorem depart_mapContent (t : FileTree) : ∀ (names : List Text) (route : Route),
    (t.mapContent f).depart route names = (t.depart route names).map (mapFound f)
  | [], route => by
    rw [depart, depart, isDirectoryAt_mapContent, lookup_mapContent]
    split <;> rfl
  | name :: names, route => by
    rw [depart, depart, isDirectoryAt_mapContent, lookup_mapContent]
    split
    · exact follow_mapContent t (name :: names) route (t.lookup route)
    · split
      · exact depart_mapContent t names route.dropLast
      · rfl

theorem locate_mapContent (t : FileTree) (p : Path) :
    (t.mapContent f).locate p = (t.locate p).map (mapFound f) := by
  unfold locate
  split
  · exact depart_mapContent t p.names (t.start p)
  · rfl

theorem stat_mapContent (t : FileTree) (p : Path) :
    (t.mapContent f).stat p = (t.stat p).map (Entry.mapContent f) := by
  unfold stat
  rw [locate_mapContent]
  cases t.locate p with
  | error cause => rfl
  | ok found =>
    obtain ⟨route, e⟩ := found
    cases e <;> rfl

theorem entryAt_mapContent (t : FileTree) (p : Path) :
    (t.mapContent f).entryAt p = (t.entryAt p).map (Option.map (Entry.mapContent f)) := by
  unfold entryAt
  rw [stat_mapContent]
  cases bytesOf p.text with
  | error e => rfl
  | ok bytes =>
    cases t.stat p with
    | ok entry => rfl
    | error cause => cases cause <;> rfl

@[simp] theorem exists_mapContent (t : FileTree) (p : Path) : (t.mapContent f).exists p = t.exists p := by
  unfold «exists»
  rw [entryAt_mapContent]
  cases t.entryAt p with
  | error e => rfl
  | ok entry => exact congrArg Except.ok Option.isSome_map

@[simp] theorem isDirectory_mapContent (t : FileTree) (p : Path) :
    (t.mapContent f).isDirectory p = t.isDirectory p := by
  unfold isDirectory
  rw [entryAt_mapContent]
  cases t.entryAt p with
  | error e => rfl
  | ok entry =>
    cases entry with
    | none => rfl
    | some e => exact congrArg Except.ok (Entry.isDirectory_mapContent e)

@[simp] theorem isFile_mapContent (t : FileTree) (p : Path) : (t.mapContent f).isFile p = t.isFile p := by
  unfold isFile
  rw [entryAt_mapContent]
  cases t.entryAt p with
  | error e => rfl
  | ok entry =>
    cases entry with
    | none => rfl
    | some e => exact congrArg (fun b => Except.ok !b) (Entry.isDirectory_mapContent e)

@[simp] theorem checkStart_mapContent (t : FileTree) (p : Path) : (t.mapContent f).checkStart p = t.checkStart p := by
  rw [checkStart, checkStart, isDirectoryAt_mapContent]
  rfl

@[simp] theorem resolve_mapContent (t : FileTree) (p : Path) : (t.mapContent f).resolve p = t.resolve p := by
  rw [resolve, resolve, checkStart_mapContent]
  rfl

theorem read_mapContent (t : FileTree) (p : Path) : (t.mapContent f).read p = (t.read p).map f := by
  unfold read
  rw [stat_mapContent]
  cases bytesOf p.text with
  | error e => rfl
  | ok bytes =>
    cases t.stat p with
    | error cause => rfl
    | ok entry => cases entry <;> rfl

theorem readText_mapContent (hf : ∀ content, (f content).toBytes = content.toBytes) (t : FileTree) (p : Path) :
    (t.mapContent f).readText p = t.readText p := by
  unfold readText
  rw [read_mapContent]
  cases t.read p with
  | error e => rfl
  | ok content =>
    simp only [Except.map, bind, Except.bind, hf]

/-! ### What is made and written -/

/-- An attempt, in the tree with the other contents. -/
def mapAttempt (f : Content → Content) (attempt : Attempt) : Attempt := (attempt.1.mapContent f, attempt.2)

theorem fileRoute_mapContent (t : FileTree) (p : Path) : (t.mapContent f).fileRoute p = t.fileRoute p := by
  unfold fileRoute
  rw [locate_mapContent]
  cases bytesOf p.text with
  | error e => rfl
  | ok bytes =>
    cases t.locate p with
    | error cause => rfl
    | ok found =>
      obtain ⟨route, e⟩ := found
      cases e with
      | none => rfl
      | some entry => cases entry <;> rfl

theorem put_bytes_mapContent (hf : ∀ bytes, f (.bytes bytes) = .bytes bytes) (t : FileTree) (route : Route)
    (bytes : List UInt8) :
    (t.mapContent f).put route (.file (.bytes bytes)) = (t.put route (.file (.bytes bytes))).mapContent f := by
  rw [← put_mapContent, Entry.mapContent, hf]

theorem writeText_mapContent (hf : ∀ bytes, f (.bytes bytes) = .bytes bytes) (t : FileTree) (p : Path) (text : Text) :
    (t.mapContent f).writeText p text = mapAttempt f (t.writeText p text) := by
  have hput := put_bytes_mapContent hf t
  unfold writeText
  rw [fileRoute_mapContent]
  cases t.fileRoute p with
  | error e => rfl
  | ok route =>
    cases text.encode with
    | ok bytes => exact congrArg (·, none) (hput route bytes)
    | error e => exact congrArg (·, some _) (hput route [])

theorem appendAt_mapContent (hf : ∀ content, (f content).toBytes = content.toBytes)
    (hb : ∀ bytes, f (.bytes bytes) = .bytes bytes) (t : FileTree) (route : Route) (text : Text) :
    (t.mapContent f).appendAt route text = (t.appendAt route text).mapContent f := by
  unfold appendAt
  rw [lookup_mapContent]
  cases t.lookup route with
  | none => rfl
  | some e =>
    cases e with
    | directory => rfl
    | file content =>
      cases text.encode with
      | error e => rfl
      | ok bytes =>
        simp only [Option.map_some, Entry.mapContent, hf]
        exact put_bytes_mapContent hb t route _

theorem makeOne_mapContent (t : FileTree) (p : Path) :
    (t.mapContent f).makeOne p = (t.makeOne p).map (FileTree.mapContent f) := by
  unfold makeOne
  rw [locate_mapContent]
  cases t.locate p with
  | error cause => rfl
  | ok found =>
    obtain ⟨route, e⟩ := found
    cases e with
    | some entry => rfl
    | none => exact congrArg Except.ok (put_mapContent t route .directory)

theorem acceptExisting_mapContent (t : FileTree) (p : Path) (cause : OsCause) :
    (t.mapContent f).acceptExisting p cause = mapAttempt f (t.acceptExisting p cause) := by
  unfold acceptExisting
  rw [isDirectory_mapContent]
  cases t.isDirectory p with
  | error e => rfl
  | ok there => cases there <;> rfl

theorem makeFrom_mapContent : ∀ (fuel : Nat) (t : FileTree) (p : Path),
    (t.mapContent f).makeFrom p fuel = mapAttempt f (t.makeFrom p fuel)
  | 0, _, _ => rfl
  | fuel + 1, t, p => by
    rw [makeFrom, makeFrom, makeOne_mapContent]
    cases t.makeOne p with
    | ok made => rfl
    | error cause =>
      cases cause with
      | missing =>
        simp only [Except.map]
        split
        · rfl
        · rw [makeFrom_mapContent fuel t p.parent]
          cases t.makeFrom p.parent fuel with
          | mk parents failed =>
            cases failed with
            | some e => rfl
            | none =>
              simp only [mapAttempt]
              rw [makeOne_mapContent]
              cases parents.makeOne p with
              | ok made => rfl
              | error cause => exact acceptExisting_mapContent parents p cause
      | alreadyExists => exact acceptExisting_mapContent t p _
      | notDirectory => exact acceptExisting_mapContent t p _
      | isDirectory => exact acceptExisting_mapContent t p _
      | nameTooLong => exact acceptExisting_mapContent t p _

theorem makeDirectory_mapContent (t : FileTree) (p : Path) :
    (t.mapContent f).makeDirectory p = mapAttempt f (t.makeDirectory p) := by
  unfold makeDirectory
  cases bytesOf p.text with
  | error e => rfl
  | ok bytes => exact makeFrom_mapContent mostParents t p

end FileTree
end GeneratorHost
