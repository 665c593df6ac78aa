import GeneratorHost.Host
import GeneratorHost.Proofs.FileTree.Place

/-! The libraries that a host can see. The standard library comes first, then the first distribution of every other
    normalized name, in the order in which the distributions were found. A host without a standard library is refused;
    only a path that is too long to be looked up is another failure. -/

namespace GeneratorHost
namespace Host

/-- A distribution together with its name, if that is there and not empty. -/
def named? (found : Option Distribution) : Option (Distribution × Text) :=
  found.bind fun d => (d.name.filter (· != .empty)).map fun name => (d, name)

/-- The distributions that have a name. -/
def named (found : List (Option Distribution)) : List (Distribution × Text) := found.filterMap named?

/-- The normalized names that are taken once these distributions were found: those and that of the standard library. -/
def taken (before : List (Distribution × Text)) : List Text := standardName :: before.map fun x => normalize x.2

/-- The distributions whose normalized names are not taken by what was found before them. -/
def newcomers (xs : List (Distribution × Text)) : List (Distribution × Text) :=
  (xs.zipIdx.filter fun x => normalize x.1.2 ∉ taken (xs.take x.2)).map (·.1)

/-! ### One distribution after the other -/

section Steps
variable {seen : List Text} {d : Option Distribution} {rest : List (Option Distribution)} {x : Distribution × Text}

theorem named?_eq_some : named? d = some x ↔ d = some x.1 ∧ x.1.name = some x.2 ∧ x.2 ≠ .empty := by
  obtain ⟨e, name⟩ := x
  cases d with
  | none => simp [named?]
  | some d =>
    simp only [named?, Option.bind_some, Option.map_eq_some_iff, Option.filter_eq_some_iff, Prod.mk.injEq,
      Option.some.injEq, bne_iff_ne]
    constructor
    · rintro ⟨name, ⟨hn, hne⟩, rfl, rfl⟩
      exact ⟨rfl, hn, hne⟩
    · rintro ⟨rfl, hn, hne⟩
      exact ⟨name, ⟨hn, hne⟩, rfl, rfl⟩

theorem references_of_nameless (h : named? d = none) : references seen (d :: rest) = references seen rest := by
  cases d with
  | none => rfl
  | some d =>
    cases hn : d.name with
    | none => rw [references, hn]
    | some name =>
      have hempty : (name == .empty) = true := by
        simpa [named?, hn, Option.filter] using h
      rw [references, hn]
      simp only [hempty, Bool.true_or, if_true]

theorem references_of_named (h : named? d = some x) : references seen (d :: rest) =
    if normalize x.2 ∈ seen then references seen rest
    else referenceTo x.1 x.2 :: references (normalize x.2 :: seen) rest := by
  obtain ⟨rfl, hn, hne⟩ := named?_eq_some.mp h
  have hempty : (x.2 == .empty) = false := beq_eq_false_iff_ne.mpr hne
  rw [references, hn]
  simp only [hempty, Bool.false_or, List.contains_iff_mem]

end Steps

theorem mem_taken_concat {before : List (Distribution × Text)} {x : Distribution × Text} {name : Text} :
    name ∈ taken (before ++ [x]) ↔ name = normalize x.2 ∨ name ∈ taken before := by
  simp only [taken, List.map_append, List.map_cons, List.map_nil, List.mem_cons, List.mem_append, List.not_mem_nil,
    or_false]
  rw [or_comm, or_assoc, or_left_comm, or_comm (a := name = standardName)]

/-- The names that are seen are those taken by what was found so far; those that come next are referred to if they are
    not taken. -/
theorem references_eq_filter : ∀ (found : List (Option Distribution)) {seen : List Text}
    {before : List (Distribution × Text)}, (∀ name, name ∈ seen ↔ name ∈ taken before) →
    references seen found = (((named found).zipIdx before.length).filter fun x =>
      normalize x.1.2 ∉ taken ((before ++ named found).take x.2)).map fun x => referenceTo x.1.1 x.1.2
  | [], _, _, _ => rfl
  | d :: rest, seen, before, hseen => by
    cases hd : named? d with
    | none =>
      have hnamed : named (d :: rest) = named rest := List.filterMap_cons_none hd
      rw [references_of_nameless hd, hnamed, references_eq_filter rest hseen]
    | some x =>
      have hnamed : named (d :: rest) = x :: named rest := List.filterMap_cons_some hd
      have hmore : before ++ x :: named rest = (before ++ [x]) ++ named rest := by simp
      have hlength : before.length + 1 = (before ++ [x]).length := by simp
      rw [references_of_named hd, hnamed, List.zipIdx_cons, List.filter_cons, List.take_left]
      by_cases hx : normalize x.2 ∈ taken before
      · -- Nothing is added to the names that are seen, but the name was taken already.
        have hlater : ∀ name, name ∈ seen ↔ name ∈ taken (before ++ [x]) := by
          intro name
          rw [mem_taken_concat, hseen]
          exact ⟨Or.inr, fun h => h.elim (fun he => he ▸ hx) id⟩
        rw [if_pos ((hseen _).mpr hx), if_neg (by simpa using hx), hlength, hmore, references_eq_filter rest hlater]
      · have hlater : ∀ name, name ∈ normalize x.2 :: seen ↔ name ∈ taken (before ++ [x]) := by
          intro name
          rw [mem_taken_concat, List.mem_cons, hseen]
        rw [if_neg (fun h => hx ((hseen _).mp h)), if_pos (decide_eq_true hx), List.map_cons, hlength, hmore,
          references_eq_filter rest hlater]

/-- The references are those to the newcomers. -/
theorem references_eq (found : List (Option Distribution)) :
    references [standardName] found = (newcomers (named found)).map fun x => referenceTo x.1 x.2 := by
  have hstart : ∀ name, name ∈ [standardName] ↔ name ∈ taken [] := fun _ => Iff.rfl
  rw [references_eq_filter found hstart, newcomers, List.map_map]
  rfl

/-! ### Normalized names -/

theorem pairwise_normalize_references : ∀ (found : List (Option Distribution)) (seen : List Text),
    (∀ r ∈ references seen found, normalize r.name ∉ seen) ∧
      ((references seen found).map fun r => normalize r.name).Nodup
  | [], _ => ⟨nofun, List.nodup_nil⟩
  | d :: rest, seen => by
    cases hd : named? d with
    | none =>
      rw [references_of_nameless hd]
      exact pairwise_normalize_references rest seen
    | some x =>
      rw [references_of_named hd]
      split
      · exact pairwise_normalize_references rest seen
      · next hx =>
        obtain ⟨hlater, hnodup⟩ := pairwise_normalize_references rest (normalize x.2 :: seen)
        simp only [List.mem_cons, not_or] at hlater
        refine ⟨fun r hr => ?_, ?_⟩
        · rcases List.mem_cons.mp hr with rfl | hr
          · exact hx
          · exact (hlater r hr).2
        · rw [List.map_cons, List.nodup_cons]
          refine ⟨fun hm => ?_, hnodup⟩
          obtain ⟨r, hr, he⟩ := List.mem_map.mp hm
          exact (hlater r hr).1 he

theorem exists_reference_of_named {x : Distribution × Text} : ∀ (found : List (Option Distribution)) (seen : List Text),
    x ∈ named found → normalize x.2 ∈ seen ∨ ∃ r ∈ references seen found, normalize r.name = normalize x.2
  | d :: rest, seen, h => by
    cases hd : named? d with
    | none =>
      rw [named, List.filterMap_cons_none hd] at h
      rw [references_of_nameless hd]
      exact exists_reference_of_named rest seen h
    | some y =>
      rw [named, List.filterMap_cons_some hd] at h
      rw [references_of_named hd]
      split
      · next hy =>
        rcases List.mem_cons.mp h with rfl | h
        · exact Or.inl hy
        · exact exists_reference_of_named rest seen h
      · rcases List.mem_cons.mp h with rfl | h
        · exact Or.inr ⟨_, List.mem_cons_self, rfl⟩
        · rcases exists_reference_of_named rest (normalize y.2 :: seen) h with hm | ⟨r, hr, he⟩
          · rcases List.mem_cons.mp hm with he | hm
            · exact Or.inr ⟨_, List.mem_cons_self, he.symm⟩
            · exact Or.inl hm
          · exact Or.inr ⟨r, List.mem_cons_of_mem _ hr, he⟩

/-! ### The libraries of a host -/

section Outcomes
variable {host : Host} {files : FileTree} {location : Text}

/-- The references that a host gives if its standard library is at a location. -/
def discovered (host : Host) (location : Text) : List Reference :=
  ⟨standardName, host.version, location⟩ :: (newcomers (named host.distributions)).map fun x => referenceTo x.1 x.2

theorem libraries_of_unknown (h : host.standardLibrary = none ∨ host.standardLibrary = some .empty) :
    host.libraries files = .error (.host (.noStandardLibrary host.standardLibrary)) := by
  rcases h with h | h
  · rw [libraries, h]
    rfl
  · rw [libraries, h]
    rfl

theorem libraries_of_known (h : host.standardLibrary = some location) (hne : location ≠ .empty) :
    host.libraries files = match files.isDirectory (Path.ofText location) with
      | .ok true => .ok (host.discovered location)
      | .ok false => .error (.host (.noStandardLibrary host.standardLibrary))
      | .error e => .error e := by
  have hempty : (location == .empty) = false := beq_eq_false_iff_ne.mpr hne
  rw [libraries, h]
  simp only [hempty, discovered, references_eq]
  cases files.isDirectory (Path.ofText location) with
  | error e => rfl
  | ok there => cases there <;> rfl

theorem normalize_standardName : normalize standardName = standardName := by decide +kernel

theorem nodup_normalize_discovered (host : Host) (location : Text) :
    ((host.discovered location).map fun r => normalize r.name).Nodup := by
  obtain ⟨hnew, hnodup⟩ := pairwise_normalize_references host.distributions [standardName]
  rw [discovered, ← references_eq, List.map_cons, List.nodup_cons]
  refine ⟨fun hm => ?_, hnodup⟩
  obtain ⟨r, hr, he⟩ := List.mem_map.mp hm
  exact hnew r hr (List.mem_singleton.mpr (he.trans normalize_standardName))

theorem exists_discovered {x : Distribution × Text} (location : Text) (h : x ∈ named host.distributions) :
    ∃ r ∈ host.discovered location, normalize r.name = normalize x.2 := by
  rw [discovered, ← references_eq]
  rcases exists_reference_of_named host.distributions [standardName] h with hm | ⟨r, hr, he⟩
  · exact ⟨_, List.mem_cons_self, normalize_standardName.trans (List.mem_singleton.mp hm).symm⟩
  · exact ⟨r, List.mem_cons_of_mem _ hr, he⟩

/-- The standard library is at a location, which is a directory. -/
def StandsAt (host : Host) (files : FileTree) (location : Text) : Prop :=
  host.standardLibrary = some location ∧ location ≠ .empty ∧
    files.entryAt (Path.ofText location) = .ok (some .directory)

/-- The location of the standard library is too long to be looked up. -/
def Overlong (host : Host) (files : FileTree) (location : Text) : Prop :=
  host.standardLibrary = some location ∧ location ≠ .empty ∧
    (∃ bytes, FileTree.bytesOf (Path.ofText location).text = .ok bytes) ∧
    files.stat (Path.ofText location) = .error .nameTooLong

theorem libraries_of_standsAt (h : StandsAt host files location) : host.libraries files = .ok (host.discovered location) := by
  obtain ⟨hs, hne, hentry⟩ := h
  rw [libraries_of_known hs hne, FileTree.isDirectory_eq_true_iff.mpr hentry]

theorem libraries_of_overlong (h : Overlong host files location) :
    host.libraries files = .error (.os .nameTooLong (Path.ofText location).text) := by
  obtain ⟨hs, hne, hbytes, hstat⟩ := h
  have hentry := FileTree.entryAt_eq_error.mpr ⟨hbytes, hstat, rfl⟩
  rw [libraries_of_known hs hne, FileTree.isDirectory_eq_error.mpr hentry]

theorem libraries_of_neither (h : ∀ location, ¬StandsAt host files location ∧ ¬Overlong host files location) :
    host.libraries files = .error (.host (.noStandardLibrary host.standardLibrary)) := by
  cases hs : host.standardLibrary with
  | none => exact hs ▸ libraries_of_unknown (Or.inl hs)
  | some location =>
    by_cases hne : location = .empty
    · exact hs ▸ libraries_of_unknown (Or.inr (hne ▸ hs))
    · obtain ⟨hstands, hlong⟩ := h location
      rw [libraries_of_known hs hne, ← hs]
      cases hd : files.isDirectory (Path.ofText location) with
      | error e =>
        obtain ⟨hbytes, hstat, -⟩ := FileTree.entryAt_eq_error.mp (FileTree.isDirectory_eq_error.mp hd)
        exact absurd ⟨hs, hne, hbytes, hstat⟩ hlong
      | ok there =>
        cases there with
        | false => rfl
        | true => exact absurd ⟨hs, hne, FileTree.isDirectory_eq_true_iff.mp hd⟩ hstands

/-- Either the standard library is there, or its location is too long to be looked up, or neither. -/
theorem libraries_cases (host : Host) (files : FileTree) :
    (∃ location, StandsAt host files location ∧ host.libraries files = .ok (host.discovered location)) ∨
    (∃ location, Overlong host files location ∧
      host.libraries files = .error (.os .nameTooLong (Path.ofText location).text)) ∨
    ((∀ location, ¬StandsAt host files location ∧ ¬Overlong host files location) ∧
      host.libraries files = .error (.host (.noStandardLibrary host.standardLibrary))) := by
  by_cases hs : ∃ location, StandsAt host files location
  · obtain ⟨location, h⟩ := hs
    exact Or.inl ⟨location, h, libraries_of_standsAt h⟩
  · by_cases hl : ∃ location, Overlong host files location
    · obtain ⟨location, h⟩ := hl
      exact Or.inr (Or.inl ⟨location, h, libraries_of_overlong h⟩)
    · have hneither := fun location => And.intro (fun h => hs ⟨location, h⟩) (fun h => hl ⟨location, h⟩)
      exact Or.inr (Or.inr ⟨hneither, libraries_of_neither hneither⟩)

end Outcomes

/-- A host whose standard library is a directory gives it first and then, in the order of discovery, the named
    distributions whose normalized names are not taken by what comes before; so normalized names are distinct, and the
    name of every distribution is among them. If the location is too long to be looked up, the failure is that of the
    file tree; in every other case without a standard library it is that of an unfit environment. -/
theorem libraries_outcome (host : Host) (files : FileTree) :
    (∀ found, host.libraries files = .ok found ↔
      ∃ location, StandsAt host files location ∧ found = host.discovered location) ∧
    (∀ location, ((host.discovered location).map fun r => normalize r.name).Nodup ∧
      ∀ x ∈ named host.distributions, ∃ r ∈ host.discovered location, normalize r.name = normalize x.2) ∧
    ∀ e, host.libraries files = .error e ↔
      ((∀ location, ¬StandsAt host files location ∧ ¬Overlong host files location) ∧
        e = .host (.noStandardLibrary host.standardLibrary)) ∨
      ∃ location, Overlong host files location ∧ e = .os .nameTooLong (Path.ofText location).text := by
  refine ⟨fun found => ⟨fun h => ?_, ?_⟩, fun location => ?_, fun e => ⟨fun h => ?_, ?_⟩⟩
  · rcases libraries_cases host files with ⟨location, hs, hl⟩ | ⟨location, -, hl⟩ | ⟨-, hl⟩
    · exact ⟨location, hs, Except.ok.inj (h.symm.trans hl)⟩
    · cases h.symm.trans hl
    · cases h.symm.trans hl
  · rintro ⟨location, hs, rfl⟩
    exact libraries_of_standsAt hs
  · exact ⟨nodup_normalize_discovered host location, fun _ => exists_discovered location⟩
  · rcases libraries_cases host files with ⟨location, -, hl⟩ | ⟨location, ho, hl⟩ | ⟨hn, hl⟩
    · cases h.symm.trans hl
    · exact Or.inr ⟨location, ho, Except.error.inj (h.symm.trans hl)⟩
    · exact Or.inl ⟨hn, Except.error.inj (h.symm.trans hl)⟩
  · rintro (⟨hn, rfl⟩ | ⟨location, ho, rfl⟩)
    · exact libraries_of_neither hn
    · exact libraries_of_overlong ho

/-- A location with a longer name than a directory may have. -/
def farAway : Text := ⟨List.replicate 300 (.char 'a')⟩

/-- The failure is not that of an unfit environment. -/
theorem libraries_outcome_overlong :
    Overlong ⟨some farAway, "3.12.0", []⟩ default farAway ∧
      libraries ⟨some farAway, "3.12.0", []⟩ default = .error (.os .nameTooLong (Path.ofText farAway).text) ∧
      libraries ⟨some farAway, "3.12.0", []⟩ default ≠ .error (.host (.noStandardLibrary (some farAway))) := by
  have hentry : (match FileTree.entryAt default (Path.ofText farAway) with
    | .ok _ => false
    | .error _ => true) = true := by decide +kernel
  have hlong : Overlong ⟨some farAway, "3.12.0", []⟩ default farAway := by
    cases h : FileTree.entryAt default (Path.ofText farAway) with
    | ok entry =>
      rw [h] at hentry
      cases hentry
    | error e =>
      obtain ⟨hbytes, hstat, -⟩ := FileTree.entryAt_eq_error.mp h
      exact ⟨rfl, by decide +kernel, hbytes, hstat⟩
  have hfails := ((libraries_outcome ⟨some farAway, "3.12.0", []⟩ default).2.2 _).mpr (Or.inr ⟨farAway, hlong, rfl⟩)
  refine ⟨hlong, hfails, fun h => ?_⟩
  cases hfails.symm.trans h

end Host
end GeneratorHost
