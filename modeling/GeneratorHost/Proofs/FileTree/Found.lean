import GeneratorHost.Proofs.FileTree.Resolve

/-! What is found at a resolved path. It is the entry at the route of its names; only a path that is too long as a whole is
    not looked up. -/

namespace GeneratorHost

/-- A path all of whose names have bytes and are short enough. -/
def Path.Nameable (p : Path) : Prop :=
  ∀ name ∈ p.names, (∃ bytes, FileTree.bytesOf name = .ok bytes) ∧ FileTree.byteCount name ≤ FileTree.longestName

/-- A path that is short enough as a whole. -/
def Path.Fits (p : Path) : Prop := FileTree.byteCount p.text < FileTree.pathBound

instance (p : Path) : Decidable p.Fits := inferInstanceAs (Decidable (_ < _))

namespace Path

variable {p : Path}

theorem Direct.child (h : p.Direct) {name : Text} (hn : name ≠ parentName) : (p.child name).Direct :=
  ⟨h.absolute, fun other hm => (List.mem_append.mp hm).elim (h.forward other) fun hm => List.mem_singleton.mp hm ▸ hn⟩

theorem Nameable.child (h : p.Nameable) {name : Text} (hb : ∃ bytes, FileTree.bytesOf name = .ok bytes)
    (hs : FileTree.byteCount name ≤ FileTree.longestName) : (p.child name).Nameable := by
  intro other hm
  rcases List.mem_append.mp hm with hm | hm
  · exact h other hm
  · rw [List.mem_singleton.mp hm]
    exact ⟨hb, hs⟩

theorem Direct.eq_ofRoute (h : p.Direct) (ha : p.anchor = .root) : p = .ofRoute p.names := by
  obtain ⟨anchor, names⟩ := p
  obtain rfl : anchor = .root := ha
  rfl

/-- A route without double dots is that of its names. -/
theorem route_ofRoute (workingDirectory : Route) {names : Route} (h : ∀ name ∈ names, name ≠ parentName) :
    (ofRoute names).route workingDirectory = names := by
  have hfold : ∀ (names back : List Text), (∀ name ∈ names, name ≠ parentName) →
      names.foldl (fun back name => if name == parentName then back.drop 1 else name :: back) back =
        names.reverse ++ back := by
    intro names
    induction names with
    | nil => exact fun back _ => rfl
    | cons first names ih =>
      intro back hn
      obtain ⟨hfirst, hrest⟩ := List.forall_mem_cons.mp hn
      rw [List.foldl_cons, if_neg fun he => hfirst (beq_iff_eq.mp he), ih _ hrest, List.reverse_cons,
        List.append_assoc, List.singleton_append]
  show Route.follow [] names = names
  rw [Route.follow, List.reverse_nil, hfold names [] h, List.append_nil, List.reverse_reverse]

end Path

namespace FileTree

variable {t : FileTree} {p : Path}

theorem exists_bytesOf_of_nameable (ha : p.anchor = .root) (h : p.Nameable) : ∃ bytes, bytesOf p.text = .ok bytes := by
  obtain ⟨anchor, names⟩ := p
  obtain rfl : anchor = .root := ha
  exact exists_bytesOf_ofRoute fun name hn => (h name hn).1

/-- Names that are short enough lead nowhere for another reason. -/
theorem follow_ne_nameTooLong : ∀ {names : List Text} (route : Route) (e : Option Entry),
    (∀ name ∈ names, byteCount name ≤ longestName) → t.follow route e names ≠ .error .nameTooLong
  | [], _, _, _ => nofun
  | name :: names, route, e, h => by
    obtain ⟨hname, hnames⟩ := List.forall_mem_cons.mp h
    intro herror
    rw [follow] at herror
    cases hs : t.enter route name with
    | error cause =>
      rw [hs] at herror
      cases Except.error.inj herror
      unfold enter at hs
      split at hs
      · cases hs
      · cases hs
      · split at hs
        · cases hs
        · rw [if_neg (Nat.not_lt.mpr hname)] at hs
          cases hs
    | ok found =>
      rw [hs] at herror
      replace herror : (if found.2.isNone && !names.isEmpty then .error .missing
        else t.follow found.1 found.2 names) = .error .nameTooLong := herror
      split at herror
      · cases herror
      · exact follow_ne_nameTooLong found.1 found.2 hnames herror

theorem locate_eq_nameTooLong (h : ¬p.Fits) (t : FileTree) : t.locate p = .error .nameTooLong := if_neg h

/-- At a path without double dots stands what is at its route. -/
theorem stat_of_direct (hd : p.Direct) (hn : p.Nameable) (hf : p.Fits) :
    (∃ entry, t.stat p = .ok entry ∧ t.lookup p.place = some entry) ∨
      ∃ cause, t.stat p = .error cause ∧ cause ≠ .nameTooLong ∧ t.lookup p.place = none := by
  have hstart : t.start p = [] := if_pos hd.absolute
  have hnames : ∀ name ∈ p.names, name ≠ Path.parentName ∧ byteCount name ≤ longestName :=
    fun name hm => ⟨hd.forward name hm, (hn name hm).2⟩
  have hlocate : t.locate p = t.follow [] (t.lookup []) p.names := by
    rw [locate, hstart, depart_of_directory rfl]
    exact if_pos hf
  cases hl : t.lookup p.place with
  | some entry =>
    have hfollow : t.follow [] (t.lookup []) p.names = .ok (p.place, some entry) := follow_of_lookup hnames hl
    exact Or.inl ⟨entry, by rw [stat, hlocate, hfollow], rfl⟩
  | none =>
    refine Or.inr ?_
    unfold stat
    cases hlocated : t.locate p with
    | error cause =>
      refine ⟨cause, rfl, ?_, rfl⟩
      rintro rfl
      exact follow_ne_nameTooLong [] _ (fun name hm => (hnames name hm).2) (hlocate ▸ hlocated)
    | ok found =>
      obtain ⟨route, e⟩ := found
      obtain ⟨rfl, rfl, -⟩ := locate_eq_ok hlocated
      rw [hd.placeFrom_eq, hl]
      exact ⟨.missing, rfl, by decide, rfl⟩

/-- What is found at a resolved path. -/
theorem entryAt_of_direct (hd : p.Direct) (ha : p.anchor = .root) (hn : p.Nameable) (t : FileTree) :
    t.entryAt p = if p.Fits then .ok (t.lookup p.place) else .error (.os .nameTooLong p.text) := by
  obtain ⟨bytes, hb⟩ := exists_bytesOf_of_nameable ha hn
  rw [entryAt, hb]
  by_cases hf : p.Fits
  · rw [if_pos hf]
    rcases stat_of_direct (t := t) hd hn hf with ⟨entry, hs, hl⟩ | ⟨cause, hs, hc, hl⟩
    · rw [hs, hl]
    · rw [hs, hl]
      cases cause with
      | nameTooLong => exact absurd rfl hc
      | _ => rfl
  · rw [if_neg hf, stat, locate_eq_nameTooLong hf]

/-- A file that stands at a resolved path is read by it. -/
theorem read_of_direct {content : Content} (hd : p.Direct) (ha : p.anchor = .root) (hn : p.Nameable) (hf : p.Fits)
    (h : t.lookup p.place = some (.file content)) : t.read p = .ok content := by
  obtain ⟨bytes, hb⟩ := exists_bytesOf_of_nameable ha hn
  rw [read, hb]
  rcases stat_of_direct (t := t) hd hn hf with ⟨entry, hs, hl⟩ | ⟨cause, hs, -, hl⟩
  · obtain rfl := Option.some.inj (hl.symm.trans h)
    rw [hs]
    rfl
  · rw [hl] at h
    cases h

theorem entryAt_of_exists (h : t.exists p = .ok true) : ∃ e, t.entryAt p = .ok (some e) := by
  rw [«exists»] at h
  cases he : t.entryAt p with
  | error e =>
    rw [he] at h
    cases h
  | ok entry =>
    rw [he] at h
    obtain ⟨e, rfl⟩ := Option.isSome_iff_exists.mp (Except.ok.inj h)
    exact ⟨e, rfl⟩

theorem entryAt_of_isFile (h : t.isFile p = .ok true) : ∃ e, t.entryAt p = .ok (some e) := by
  rw [isFile] at h
  cases he : t.entryAt p with
  | error e =>
    rw [he] at h
    cases h
  | ok entry =>
    rw [he] at h
    cases entry with
    | none => cases h
    | some e => exact ⟨e, rfl⟩

/-- A path at which something exists can be named and is short enough. -/
theorem nameable_of_entryAt {entry : Entry} (hd : p.Direct) (h : t.entryAt p = .ok (some entry)) :
    p.Nameable ∧ p.Fits := by
  obtain ⟨⟨bytes, hb⟩, route, hl⟩ := entryAt_eq_some_iff.mp h
  obtain ⟨hshort, hnames⟩ := byteCount_le_of_locate hl
  exact ⟨fun name hn => ⟨exists_bytesOf_name hb name hn, hnames name hn (hd.forward name hn)⟩, hshort⟩

theorem lookup_of_entryAt {entry : Entry} (hd : p.Direct) (h : t.entryAt p = .ok (some entry)) :
    t.lookup p.place = some entry := by
  obtain ⟨-, route, hl⟩ := entryAt_eq_some_iff.mp h
  obtain ⟨rfl, he, -⟩ := locate_eq_ok hl
  rw [← hd.placeFrom_eq t.workingDirectory, ← he]

theorem lookup_of_read {content : Content} (hd : p.Direct) (h : t.read p = .ok content) :
    t.lookup p.place = some (.file content) := by
  refine lookup_of_entryAt hd ?_
  rw [read] at h
  cases hb : bytesOf p.text with
  | error e =>
    rw [hb] at h
    cases h
  | ok bytes =>
    rw [entryAt, hb]
    rw [hb] at h
    cases hs : t.stat p with
    | error cause =>
      rw [hs] at h
      cases h
    | ok e =>
      rw [hs] at h
      cases e with
      | directory => cases h
      | file content' =>
        cases h
        rfl

/-- A path that is resolved already stays as it is. -/
theorem resolve_of_direct (hd : p.Direct) (ha : p.anchor = .root) (hn : p.Nameable) (t : FileTree) :
    t.resolve p = .ok p := by
  rw [resolve_of_names (fun name hm => (hn name hm).1) t, checkStart_of_absolute hd.absolute, hd.eq_ofRoute ha]
  exact congrArg (fun route => Except.ok (Path.ofRoute route)) (Path.route_ofRoute t.workingDirectory hd.forward)

end FileTree
end GeneratorHost
