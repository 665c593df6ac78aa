import Mathlib.Data.List.Flatten
import GeneratorHost.Proofs.FileTree.Changes

/-! Paths that are resolved. A path can be resolved if its letters have bytes. The resolved path leads by names alone to where
    the path leads to name by name, if the names of the working directory are as they are read back; and what stands there
    is found by it, unless all of it has too many bytes. -/

namespace GeneratorHost

/-! ### Letters of paths -/

namespace Text

/-- The bytes of one letter of a path. -/
def letterBytes : Letter → Option (List UInt8)
  | .char c => some (encodeChar c)
  | .half n => (nameByte n).map ([·])

/-- A letter that may stand in a path. -/
def MayName (l : Letter) : Prop := ∃ bytes, letterBytes l = some bytes ∧ 0 ∉ bytes

theorem encodeFrom_cons {l : Letter} {ls : List Letter} {position : Nat} {bytes : List UInt8} :
    encodeFrom nameByte position (l :: ls) = .ok bytes ↔ ∃ first rest, letterBytes l = some first ∧
      encodeFrom nameByte (position + 1) ls = .ok rest ∧ bytes = first ++ rest := by
  cases l with
  | char c =>
    rw [encodeFrom]
    cases encodeFrom nameByte (position + 1) ls <;> simp [letterBytes, Except.map, eq_comm]
  | half n =>
    rw [encodeFrom]
    cases hn : nameByte n with
    | none => simp [letterBytes, hn]
    | some b => cases encodeFrom nameByte (position + 1) ls <;> simp [letterBytes, hn, Except.map, eq_comm]

theorem exists_encodeFrom_iff : ∀ (ls : List Letter) (position : Nat),
    (∃ bytes, encodeFrom nameByte position ls = .ok bytes ∧ 0 ∉ bytes) ↔ ∀ l ∈ ls, MayName l
  | [], position => by simp [encodeFrom]
  | l :: ls, position => by
    rw [List.forall_mem_cons, ← exists_encodeFrom_iff ls (position + 1)]
    constructor
    · rintro ⟨bytes, he, hz⟩
      obtain ⟨first, rest, hf, hr, rfl⟩ := encodeFrom_cons.mp he
      rw [List.mem_append, not_or] at hz
      exact ⟨⟨first, hf, hz.1⟩, rest, hr, hz.2⟩
    · rintro ⟨⟨first, hf, hz⟩, rest, hr, hz'⟩
      refine ⟨first ++ rest, encodeFrom_cons.mpr ⟨first, rest, hf, hr, rfl⟩, ?_⟩
      rw [List.mem_append, not_or]
      exact ⟨hz, hz'⟩

end Text

theorem FileTree.exists_bytesOf_iff {t : Text} :
    (∃ bytes, bytesOf t = .ok bytes) ↔ ∀ l ∈ t.letters, Text.MayName l := by
  rw [← Text.exists_encodeFrom_iff t.letters 0, bytesOf, Text.encodeName]
  cases Text.encodeFrom Text.nameByte 0 t.letters with
  | error e => simp
  | ok bytes => by_cases hz : 0 ∈ bytes <;> simp [hz]

namespace Path

theorem mem_intersperse {separator name : Text} : ∀ {names : List Text}, name ∈ names →
    name ∈ names.intersperse separator
  | [_], h => h
  | first :: second :: names, h => by
    rw [List.intersperse_cons_cons]
    rcases List.mem_cons.mp h with rfl | h
    · exact List.mem_cons_self
    · exact List.mem_cons_of_mem _ (List.mem_cons_of_mem _ (mem_intersperse h))

theorem mem_text {p : Path} {name : Text} (hn : name ∈ p.names) {l : Letter} (hl : l ∈ name.letters) :
    l ∈ p.text.letters := by
  have hbody : l ∈ (p.anchor.text ++ Text.intercalate "/" p.names : Text).letters :=
    List.mem_append_right _ (List.mem_flatMap.mpr ⟨name, mem_intersperse hn, hl⟩)
  -- Only a path with nothing in it is written as a dot instead.
  have hne : (p.anchor.text ++ Text.intercalate "/" p.names : Text) ≠ .empty := by
    intro he
    rw [he] at hbody
    cases hbody
  rw [text, if_neg (by simpa using hne)]
  exact hbody

theorem mem_of_mem_intersperse {separator name : Text} : ∀ {names : List Text},
    name ∈ names.intersperse separator → name = separator ∨ name ∈ names
  | [_], h => Or.inr h
  | first :: second :: names, h => by
    rw [List.intersperse_cons_cons] at h
    rcases List.mem_cons.mp h with rfl | h
    · exact Or.inr List.mem_cons_self
    · rcases List.mem_cons.mp h with rfl | h
      · exact Or.inl rfl
      · exact (mem_of_mem_intersperse h).imp_right (List.mem_cons_of_mem first)

theorem sublist_intersperse (separator : Text) {names more : List Text} (h : names.Sublist more) :
    (names.intersperse separator).Sublist (more.intersperse separator) := by
  induction h with
  | slnil => exact .slnil
  | @cons names more name h ih =>
    cases more with
    | nil =>
      rw [List.sublist_nil.mp h]
      exact List.nil_sublist _
    | cons first more =>
      rw [List.intersperse_cons_cons]
      exact (ih.cons separator).cons name
  | @cons_cons names more name h ih =>
    cases more with
    | nil =>
      obtain rfl := List.sublist_nil.mp h
      exact List.Sublist.refl _
    | cons first more =>
      rw [List.intersperse_cons_cons]
      cases names with
      | nil => exact List.singleton_sublist.mpr List.mem_cons_self
      | cons first' names =>
        rw [List.intersperse_cons_cons]
        exact (ih.cons_cons separator).cons_cons name

theorem text_of_absolute {p : Path} (h : p.isAbsolute) :
    p.text.letters = (Text.ofString p.anchor.text).letters ++ (p.names.intersperse ("/" : Text)).flatMap Text.letters := by
  have hne : (p.anchor.text ++ Text.intercalate "/" p.names : Text) ≠ .empty := by
    intro he
    have hnil := congrArg Text.letters he
    cases ha : p.anchor with
    | relative =>
      rw [isAbsolute, ha] at h
      cases h
    | root =>
      rw [ha] at hnil
      cases hnil
    | doubleRoot =>
      rw [ha] at hnil
      cases hnil
  rw [text, if_neg (by simpa using hne)]
  rfl

/-! ### Routes of names -/

variable {workingDirectory : Route}

/-- Going back takes off the last name, so what is left is part of the names. -/
theorem sublist_follow (names : List Text) : (Route.follow [] names).Sublist names := by
  have hfold : ∀ (names back : List Text), (names.foldl (fun back name =>
      if name == parentName then back.drop 1 else name :: back) back).reverse.Sublist (back.reverse ++ names) := by
    intro names
    induction names with
    | nil => exact fun back => by simp
    | cons name names ih =>
      intro back
      rw [List.foldl_cons]
      refine (ih _).trans ?_
      split
      · exact ((List.drop_sublist 1 back).reverse).append (List.sublist_cons_self name names)
      · rw [List.reverse_cons, List.append_assoc]
        exact List.Sublist.refl _
  exact hfold names []

theorem mem_of_mem_route {p : Path} {name : Text} (h : name ∈ p.route workingDirectory) :
    name ∈ p.names ∨ ¬p.isAbsolute ∧ name ∈ workingDirectory := by
  have hn := (sublist_follow _).subset h
  split at hn
  · exact Or.inl hn
  · next ha => exact (List.mem_append.mp hn).symm.imp_right fun hn => ⟨ha, hn⟩

/-- To follow names before they are looked up leads to where they lead one by one. -/
theorem map_asName_follow (names : List Text) : (Route.follow [] names).map Text.asName = walk [] names := by
  have hfold : ∀ (names back : List Text), (names.foldl (fun back name =>
      if name == parentName then back.drop 1 else name :: back) back).reverse.map Text.asName =
        walk (back.reverse.map Text.asName) names := by
    intro names
    induction names with
    | nil => exact fun back => rfl
    | cons name names ih =>
      intro back
      rw [List.foldl_cons, ih]
      show walk _ names = walk (if name = parentName then _ else _) names
      by_cases hn : name = parentName
      · rw [if_pos (beq_iff_eq.mpr hn), if_pos hn]
        cases back with
        | nil => rfl
        | cons last back => simp
      · rw [if_neg fun hp => hn (beq_iff_eq.mp hp), if_neg hn, List.reverse_cons, List.map_append]
        rfl
  exact hfold names []

/-- The names of a resolved path lead to where the path leads, as far as those of the working directory do. -/
theorem map_asName_route {p : Path}
    (h : p.isAbsolute ∨ ∀ name ∈ workingDirectory, name.asName = name ∧ name ≠ parentName) :
    (p.route workingDirectory).map Text.asName = p.placeFrom workingDirectory := by
  rw [Path.route, map_asName_follow, placeFrom]
  split
  · rfl
  · next hrelative =>
    have hnames := h.resolve_left hrelative
    have hself : workingDirectory.map Text.asName = workingDirectory :=
      (List.map_congr_left fun name hn => (hnames name hn).1).trans (List.map_id _)
    rw [walk_append, walk_of_forward [] fun name hn => (hnames name hn).2, hself]
    rfl

end Path

/-- A route by names that are as they are read back, short enough and have bytes. -/
structure Route.Plain (route : Route) : Prop where
  name : ∀ name ∈ route, name.asName = name ∧ name ≠ Path.parentName
  short : ∀ name ∈ route, FileTree.byteCount name ≤ FileTree.longestName
  bytes : ∀ name ∈ route, ∃ bytes, FileTree.bytesOf name = .ok bytes

namespace FileTree

variable {t : FileTree} {p : Path}

theorem checkWay_ok (anchor : Anchor) : ∀ {names : List Text} (back : List Text),
    (∀ name ∈ names, ∃ bytes, bytesOf name = .ok bytes) → checkWay anchor back names = .ok ()
  | [], _, _ => rfl
  | name :: names, back, h => by
    obtain ⟨⟨bytes, hb⟩, hnames⟩ := List.forall_mem_cons.mp h
    rw [checkWay]
    split
    · exact checkWay_ok anchor _ hnames
    · rw [hb]
      exact checkWay_ok anchor _ hnames

theorem exists_bytesOf_name {bytes : List UInt8} (h : bytesOf p.text = .ok bytes) :
    ∀ name ∈ p.names, ∃ bytes, bytesOf name = .ok bytes := fun _ hn =>
  exists_bytesOf_iff.mpr fun l hl => exists_bytesOf_iff.mp ⟨bytes, h⟩ l (Path.mem_text hn hl)

theorem resolve_of_names (h : ∀ name ∈ p.names, ∃ bytes, bytesOf name = .ok bytes) (t : FileTree) :
    t.resolve p = (t.checkStart p).map fun _ => .ofRoute (p.route t.workingDirectory) := by
  rw [resolve, checkWay_ok _ _ h]
  show (t.checkStart p >>= fun _ => _) = _
  cases t.checkStart p <;> rfl

/-- A path that has bytes is resolved if there is something to take it from, and so is its directory. -/
theorem resolve_of_bytesOf {bytes : List UInt8} (h : bytesOf p.text = .ok bytes) (t : FileTree) :
    t.resolve p = (t.checkStart p).map fun _ => .ofRoute (p.route t.workingDirectory) :=
  resolve_of_names (exists_bytesOf_name h) t

theorem resolve_ok {bytes : List UInt8} (h : bytesOf p.text = .ok bytes) (hs : t.lookup (t.start p) = some .directory) :
    t.resolve p = .ok (.ofRoute (p.route t.workingDirectory)) := by
  rw [resolve_of_bytesOf h, checkStart_eq_ok.mpr hs]
  rfl

theorem resolve_parent_of_bytesOf {bytes : List UInt8} (h : bytesOf p.text = .ok bytes) (t : FileTree) :
    t.resolve p.parent = (t.checkStart p).map fun _ => .ofRoute (p.parent.route t.workingDirectory) :=
  resolve_of_names (fun name hn => exists_bytesOf_name h name (List.dropLast_subset _ hn)) t

theorem exists_bytesOf_ofRoute {route : Route} (h : ∀ name ∈ route, ∃ bytes, bytesOf name = .ok bytes) :
    ∃ bytes, bytesOf (Path.ofRoute route).text = .ok bytes := by
  have hslash : Text.MayName (.char '/') := ⟨_, rfl, by decide⟩
  refine exists_bytesOf_iff.mpr fun l hl => ?_
  rw [Path.text_of_absolute rfl] at hl
  have hanchor : (Text.ofString (Path.ofRoute route).anchor.text).letters = [.char '/'] := by
    show (Text.ofString "/").letters = _
    decide
  rw [hanchor] at hl
  rcases List.mem_append.mp hl with hl | hl
  · obtain rfl := List.mem_singleton.mp hl
    exact hslash
  · obtain ⟨name, hn, hl⟩ := List.mem_flatMap.mp hl
    rcases Path.mem_of_mem_intersperse hn with rfl | hn
    · obtain rfl : l = .char '/' := List.mem_singleton.mp hl
      exact hslash
    · exact exists_bytesOf_iff.mp (h name hn) l hl

/-! ### What is found by a resolved path -/

variable {route next : Route} {e : Option Entry}

theorem byteCount_le_of_enter {name : Text} (h : t.enter route name = .ok (next, e)) (hn : name ≠ Path.parentName) :
    byteCount name ≤ longestName := by
  unfold enter at h
  split at h
  · cases h
  · cases h
  · rw [if_neg fun hp => hn (beq_iff_eq.mp hp)] at h
    split at h
    · cases h
    · next hle => exact Nat.le_of_not_lt hle

theorem byteCount_le_of_follow : ∀ {names : List Text} {route : Route} {old : Option Entry},
    t.follow route old names = .ok (next, e) → ∀ name ∈ names, name ≠ Path.parentName → byteCount name ≤ longestName
  | [], _, _, _, _, hn, _ => nomatch hn
  | first :: names, route, old, h, name, hn, hforward => by
    rw [follow] at h
    cases hs : t.enter route first with
    | error cause =>
      rw [hs] at h
      cases h
    | ok found =>
      rw [hs] at h
      replace h : (if found.2.isNone && !names.isEmpty then .error .missing
        else t.follow found.1 found.2 names) = .ok (next, e) := h
      split at h
      · cases h
      · rcases List.mem_cons.mp hn with rfl | hn
        · exact byteCount_le_of_enter hs hforward
        · exact byteCount_le_of_follow h name hn hforward

/-- An entry is found by names that lead to it, since all that lies before it is a directory. -/
theorem follow_of_lookup {entry : Entry} : ∀ {names : List Text} {route : Route},
    (∀ name ∈ names, name ≠ Path.parentName ∧ byteCount name ≤ longestName) →
    t.lookup (route ++ names.map Text.asName) = some entry →
    t.follow route (t.lookup route) names = .ok (route ++ names.map Text.asName, some entry)
  | [], route, _, h => by
    rw [List.map_nil, List.append_nil] at h ⊢
    rw [follow, h]
  | name :: names, route, hnames, h => by
    obtain ⟨⟨hn, hshort⟩, hrest⟩ := List.forall_mem_cons.mp hnames
    have hsplit : route ++ (name :: names).map Text.asName = (route ++ [name.asName]) ++ names.map Text.asName := by
      rw [List.map_cons, List.append_assoc, List.singleton_append]
    rw [hsplit] at h ⊢
    have hnext := follow_of_lookup hrest h
    obtain ⟨found, hfound⟩ : ∃ found, t.lookup (route ++ [name.asName]) = some found := by
      by_cases he : names = []
      · rw [he, List.map_nil, List.append_nil] at h
        exact ⟨entry, h⟩
      · exact ⟨.directory, lookup_of_prefix h (List.prefix_append _ _) (by simpa using he)⟩
    have hdirectory : t.lookup route = some .directory := by
      refine lookup_of_prefix h ?_ ?_
      · rw [List.append_assoc]
        exact List.prefix_append _ _
      · simp
    have henter : t.enter route name = .ok (route ++ [name.asName], t.lookup (route ++ [name.asName])) := by
      simp only [enter, hdirectory]
      rw [if_neg fun hp => hn (beq_iff_eq.mp hp), if_neg (Nat.not_lt.mpr hshort)]
    rw [hfound] at henter hnext
    rw [follow, henter]
    exact hnext

theorem byteCount_le_of_depart : ∀ {names : List Text} {route next : Route},
    t.depart route names = .ok (next, e) → ∀ name ∈ names, name ≠ Path.parentName → byteCount name ≤ longestName
  | names, route, next, h => by
    by_cases hd : t.lookup route = some .directory
    · rw [depart_of_directory hd] at h
      exact byteCount_le_of_follow h
    · cases names with
      | nil => simp
      | cons name names =>
        by_cases hn : name = Path.parentName
        · subst hn
          rw [depart_parentName] at h
          intro other ho hne
          exact byteCount_le_of_depart h other ((List.mem_cons.mp ho).resolve_left hne) hne
        · rw [depart_of_not_directory hd hn] at h
          cases h

theorem byteCount_le_of_locate (h : t.locate p = .ok (route, e)) :
    byteCount p.text < pathBound ∧ ∀ name ∈ p.names, name ≠ Path.parentName → byteCount name ≤ longestName := by
  unfold locate at h
  split at h
  · next hshort => exact ⟨hshort, byteCount_le_of_depart h⟩
  · cases h

/-- What a path leads to is found by the resolved path, if that is not too long. -/
theorem locate_resolved {u : FileTree} {entry : Entry} (hp : t.fileRoute p = .ok route)
    (hw : p.isAbsolute ∨ Route.Plain t.workingDirectory) (he : u.lookup route = some entry) :
    u.locate (.ofRoute (p.route t.workingDirectory)) =
      if byteCount (Path.ofRoute (p.route t.workingDirectory)).text < pathBound then .ok (route, some entry)
      else .error .nameTooLong := by
  obtain ⟨-, e, hl, -⟩ := locate_of_fileRoute hp
  obtain ⟨hroute, -, -⟩ := locate_eq_ok hl
  have hplace : (p.route t.workingDirectory).map Text.asName = route := by
    rw [hroute]
    exact Path.map_asName_route (hw.imp_right Route.Plain.name)
  have hnames : ∀ name ∈ p.route t.workingDirectory, name ≠ Path.parentName ∧ byteCount name ≤ longestName := by
    intro name hn
    have hforward := Path.not_parentName_of_mem_route t.workingDirectory p name hn
    refine ⟨hforward, ?_⟩
    rcases Path.mem_of_mem_route hn with hn | ⟨hrelative, hn⟩
    · exact (byteCount_le_of_locate hl).2 name hn hforward
    · exact (hw.resolve_left hrelative).short name hn
  rw [locate]
  split
  · show u.depart [] (p.route t.workingDirectory) = _
    rw [depart_of_directory rfl, follow_of_lookup hnames (by rw [List.nil_append, hplace]; exact he), List.nil_append, hplace]
  · rfl

/-- A file that was opened under a path is read under the resolved path, if that is not too long. -/
theorem read_resolved {u : FileTree} {content : Content} (hp : t.fileRoute p = .ok route)
    (hw : p.isAbsolute ∨ Route.Plain t.workingDirectory) (he : u.lookup route = some (.file content)) :
    u.read (.ofRoute (p.route t.workingDirectory)) =
      if byteCount (Path.ofRoute (p.route t.workingDirectory)).text < pathBound then .ok content
      else .error (.os .nameTooLong (Path.ofRoute (p.route t.workingDirectory)).text) := by
  obtain ⟨⟨bytes, hb⟩, -⟩ := locate_of_fileRoute hp
  have hbytes : ∀ name ∈ p.route t.workingDirectory, ∃ bytes, bytesOf name = .ok bytes := by
    intro name hn
    rcases Path.mem_of_mem_route hn with hn | ⟨hrelative, hn⟩
    · exact exists_bytesOf_name hb name hn
    · exact (hw.resolve_left hrelative).bytes name hn
  obtain ⟨all, hall⟩ := exists_bytesOf_ofRoute hbytes
  rw [read, hall, stat, locate_resolved hp hw he]
  by_cases hshort : byteCount (Path.ofRoute (p.route t.workingDirectory)).text < pathBound
  · simp only [if_pos hshort]
    rfl
  · simp only [if_neg hshort]
    rfl

theorem readText_of_read {content : Content} (hr : t.read p = .ok content) :
    t.readText p = ((Text.decode content.toBytes).map Text.unifyNewlines).mapError .undecodable := by
  rw [readText, hr]
  simp only [bind, Except.bind]
  cases Text.decode content.toBytes <;> rfl

theorem readText_resolved {u : FileTree} {bytes : List UInt8} {s : String} (hp : t.fileRoute p = .ok route)
    (hw : p.isAbsolute ∨ Route.Plain t.workingDirectory) (he : u.lookup route = some (.file (.bytes bytes)))
    (hd : Text.decode bytes = .ok s) :
    u.readText (.ofRoute (p.route t.workingDirectory)) =
      if byteCount (Path.ofRoute (p.route t.workingDirectory)).text < pathBound then .ok (Text.unifyNewlines s)
      else .error (.os .nameTooLong (Path.ofRoute (p.route t.workingDirectory)).text) := by
  have hread := read_resolved hp hw he
  split
  · next hshort =>
    rw [if_pos hshort] at hread
    rw [readText_of_read hread, Content.toBytes, hd]
    rfl
  · next hlong =>
    rw [if_neg hlong] at hread
    rw [readText, hread]
    rfl

/-! ### How long a resolved path is -/

theorem encodeName_of_bytesOf {text : Text} {bytes : List UInt8} (h : bytesOf text = .ok bytes) :
    text.encodeName = .ok bytes := by
  unfold bytesOf at h
  cases he : text.encodeName with
  | error e =>
    rw [he] at h
    cases h
  | ok all =>
    rw [he] at h
    simp only [] at h
    split at h
    · cases h
    · cases h
      rfl

theorem byteCount_eq {text : Text} (h : ∃ bytes, bytesOf text = .ok bytes) :
    byteCount text = (text.letters.flatMap fun l => (Text.letterBytes l).getD []).length := by
  have hletters : ∀ (letters : List Letter) (position : Nat) (bytes : List UInt8),
      Text.encodeFrom Text.nameByte position letters = .ok bytes →
        bytes = letters.flatMap fun l => (Text.letterBytes l).getD [] := by
    intro letters
    induction letters with
    | nil =>
      intro position bytes he
      cases he
      rfl
    | cons l letters ih =>
      intro position bytes he
      obtain ⟨first, rest, hfirst, hrest, rfl⟩ := Text.encodeFrom_cons.mp he
      rw [List.flatMap_cons, hfirst, ← ih _ _ hrest]
      rfl
  obtain ⟨bytes, hb⟩ := h
  rw [byteCount, encodeName_of_bytesOf hb, ← hletters _ 0 _ (encodeName_of_bytesOf hb)]

/-- Resolving an absolute path makes it no longer. -/
theorem byteCount_resolved_le {bytes : List UInt8} (hb : bytesOf p.text = .ok bytes) (h : p.isAbsolute)
    (workingDirectory : Route) : byteCount (Path.ofRoute (p.route workingDirectory)).text ≤ byteCount p.text := by
  have hnames : (p.route workingDirectory).Sublist p.names := by
    rw [Path.route, if_pos h]
    exact Path.sublist_follow p.names
  have hbytes := exists_bytesOf_ofRoute fun name hn => exists_bytesOf_name hb name (hnames.subset hn)
  have hanchor : (Text.ofString Anchor.root.text).letters.Sublist (Text.ofString p.anchor.text).letters := by
    cases ha : p.anchor with
    | relative =>
      rw [Path.isAbsolute, ha] at h
      cases h
    | root => exact List.Sublist.refl _
    | doubleRoot => decide
  rw [byteCount_eq hbytes, byteCount_eq ⟨bytes, hb⟩, Path.text_of_absolute rfl, Path.text_of_absolute h]
  exact ((hanchor.append ((Path.sublist_intersperse "/" hnames).flatMap _)).flatMap _).length_le

end FileTree
end GeneratorHost
