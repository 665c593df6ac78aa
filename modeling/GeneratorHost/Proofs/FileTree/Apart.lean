import GeneratorHost.Proofs.FileTree.Changes

/-! File trees that differ in some regular files alone. What a path names is the same in both unless the path ends at
    one of them, and what is made or written elsewhere comes to the same. -/

namespace GeneratorHost
namespace FileTree

variable {aside : Route → Prop} {t u : FileTree} {p : Path} {route : Route}

/-- Two trees with the same entries but at routes that are set aside. There is a file or nothing at those. -/
structure SameBut (aside : Route → Prop) (t u : FileTree) : Prop where
  workingDirectory : u.workingDirectory = t.workingDirectory
  lookup : ∀ x, ¬aside x → u.lookup x = t.lookup x
  first : ∀ x, aside x → t.lookup x ≠ some .directory
  second : ∀ x, aside x → u.lookup x ≠ some .directory

namespace SameBut

theorem symm (h : SameBut aside t u) : SameBut aside u t :=
  ⟨h.workingDirectory.symm, fun x hx => (h.lookup x hx).symm, h.second, h.first⟩

theorem directory (h : SameBut aside t u) {x : Route} (hx : t.lookup x = some .directory) :
    u.lookup x = some .directory := by
  rw [h.lookup x fun ha => h.first x ha hx, hx]

end SameBut

/-! ### What a path names -/

/-- Names that lead on from a route end nowhere, and not because one of them is too long. -/
def Astray (t : FileTree) (route : Route) (names : List Text) : Prop :=
  ∃ cause, t.follow route (t.lookup route) names = .error cause ∧ cause ≠ .nameTooLong

theorem astray_of_not_directory (hd : t.lookup route ≠ some .directory) {names : List Text} (hn : names ≠ []) :
    Astray t route names := by
  obtain ⟨name, names, rfl⟩ := List.exists_cons_of_ne_nil hn
  cases hl : t.lookup route with
  | none => exact ⟨.missing, by rw [follow, enter, hl]; rfl, by decide⟩
  | some entry =>
    cases entry with
    | directory => exact absurd hl hd
    | file content => exact ⟨.notDirectory, by rw [follow, enter, hl]; rfl, by decide⟩

/-- Behind a step to where no directory is, further names end nowhere. -/
theorem astray_of_enter {name : Text} {names : List Text} {next : Route}
    (h : t.enter route name = .ok (next, t.lookup next)) (hd : t.lookup next ≠ some .directory) (hn : names ≠ []) :
    Astray t route (name :: names) := by
  rw [Astray, follow_cons_of_enter h]
  cases hl : t.lookup next with
  | none => exact ⟨.missing, by simp [hn], by decide⟩
  | some entry =>
    rw [← hl]
    simp only [hl, Option.isNone_some, Bool.false_and, Bool.false_eq_true, if_false]
    exact hl ▸ astray_of_not_directory hd hn

theorem next_eq_walk {name : Text} {next : Route}
    (h : t.enter route name = .ok (next, t.lookup next)) : next = Path.walk route [name] := (enter_eq_ok h).2.1

theorem entryAt_of_stat_error {cause : OsCause} (h : t.stat p = .error cause) (hc : cause ≠ .nameTooLong) :
    t.entryAt p = .ok none := by
  rw [entryAt, h]
  cases bytesOf p.text with
  | error e => rfl
  | ok bytes =>
    cases cause with
    | nameTooLong => exact absurd rfl hc
    | _ => rfl

namespace SameBut

/-- Names lead to the same in both trees, unless they come by a route that is set aside; what is not at the end of them
    then keeps them from leading anywhere. -/
theorem follow (h : SameBut aside t u) : ∀ (names : List Text) (route : Route),
    u.follow route (u.lookup route) names = t.follow route (t.lookup route) names ∨
      (∃ steps, aside (Path.walk route (names.take steps))) ∧
        (aside (Path.walk route names) ∨ Astray t route names ∧ Astray u route names)
  | [], route => by
    by_cases ha : aside route
    · exact Or.inr ⟨⟨0, ha⟩, Or.inl ha⟩
    · refine Or.inl ?_
      rw [FileTree.follow, FileTree.follow, h.lookup route ha]
  | name :: names, route => by
    by_cases ha : aside route
    · exact Or.inr ⟨⟨0, ha⟩, Or.inr ⟨astray_of_not_directory (h.first route ha) (List.cons_ne_nil _ _),
        astray_of_not_directory (h.second route ha) (List.cons_ne_nil _ _)⟩⟩
    · have hroute := h.lookup route ha
      by_cases hd : t.lookup route = some .directory
      · rcases enter_cases name route with ⟨cause, herror⟩ | ⟨next, hok⟩
        · refine Or.inl ?_
          rw [FileTree.follow, FileTree.follow, herror t hd, herror u (hroute.trans hd)]
          rfl
        · have ht := hok t hd
          have hu := hok u (hroute.trans hd)
          have hwalk : ∀ more, Path.walk route (name :: more) = Path.walk next more := fun more => by
            rw [next_eq_walk ht, ← Path.walk_append, List.singleton_append]
          by_cases hnext : aside next
          · -- Where no directory is the names must end, or they lead nowhere in either tree.
            refine Or.inr ⟨⟨1, ?_⟩, ?_⟩
            · rw [List.take_succ_cons, List.take_zero, hwalk]
              exact hnext
            · by_cases hn : names = []
              · rw [hn, hwalk]
                exact Or.inl hnext
              · exact Or.inr ⟨astray_of_enter ht (h.first next hnext) hn, astray_of_enter hu (h.second next hnext) hn⟩
          · have hsame := h.lookup next hnext
            rw [Astray, Astray, follow_cons_of_enter ht, follow_cons_of_enter hu, hsame, hwalk]
            split
            · exact Or.inl rfl
            · rcases h.follow names next with heq | ⟨⟨steps, hsteps⟩, hend⟩
              · exact Or.inl (hsame ▸ heq)
              · refine Or.inr ⟨⟨steps + 1, by rw [List.take_succ_cons, hwalk]; exact hsteps⟩, hend.imp_right ?_⟩
                rw [Astray, Astray, hsame]
                exact id
      · refine Or.inl ?_
        rw [FileTree.follow, FileTree.follow, enter, enter, hroute]
        cases hl : t.lookup route with
        | none => rfl
        | some entry =>
          cases entry with
          | directory => exact absurd hl hd
          | file content => rfl

/-- So they do from where a directory was removed, which is removed in both. -/
theorem depart (h : SameBut aside t u) : ∀ (names : List Text) (route : Route),
    u.depart route names = t.depart route names ∨
      (∃ steps, aside (Path.walk route (names.take steps))) ∧
        (aside (Path.walk route names) ∨
          (∃ cause, t.depart route names = .error cause ∧ cause ≠ .nameTooLong) ∧
            ∃ cause, u.depart route names = .error cause ∧ cause ≠ .nameTooLong)
  | names, route => by
    by_cases hd : t.lookup route = some .directory
    · rw [depart_of_directory hd, depart_of_directory (h.directory hd)]
      exact h.follow names route
    · have hd' : u.lookup route ≠ some .directory := fun hu => hd (h.symm.directory hu)
      cases names with
      | nil => exact Or.inl (by rw [depart_nil_of_not_directory hd, depart_nil_of_not_directory hd'])
      | cons name names =>
        by_cases hn : name = Path.parentName
        · subst hn
          rw [depart_parentName, depart_parentName, Path.walk_parentName]
          refine (h.depart names route.dropLast).imp_right (And.imp_left ?_)
          exact fun ⟨steps, hsteps⟩ => ⟨steps + 1, by rwa [List.take_succ_cons, Path.walk_parentName]⟩
        · exact Or.inl (by rw [depart_of_not_directory hd hn, depart_of_not_directory hd' hn])

theorem start (h : SameBut aside t u) (p : Path) : u.start p = t.start p := start_eq h.workingDirectory p

/-- What paths are taken from is no file, so it is there in both trees or in neither. -/
theorem checkStart (h : SameBut aside t u) (p : Path) : u.checkStart p = t.checkStart p := by
  have hiff : u.isDirectoryAt (t.start p) = t.isDirectoryAt (t.start p) := by
    rw [Bool.eq_iff_iff, isDirectoryAt_iff, isDirectoryAt_iff]
    exact ⟨h.symm.directory, h.directory⟩
  rw [FileTree.checkStart, FileTree.checkStart, h.start, hiff]

theorem resolve (h : SameBut aside t u) (p : Path) : u.resolve p = t.resolve p := by
  rw [FileTree.resolve, FileTree.resolve, h.checkStart, h.workingDirectory]

/-- A path that comes by no route that is set aside leads to the same in both trees. -/
theorem locate (h : SameBut aside t u) (hp : ∀ x, aside x → ¬p.OnWay t.workingDirectory x) :
    u.locate p = t.locate p := by
  rw [FileTree.locate, FileTree.locate, h.start]
  split
  · rcases h.depart p.names (t.start p) with heq | ⟨⟨steps, hsteps⟩, -⟩
    · exact heq
    · exact absurd ⟨steps, rfl⟩ (hp _ hsteps)
  · rfl

/-- At a path that does not end at a route that is set aside stands the same in both trees, or nothing in either. -/
theorem stat (h : SameBut aside t u) (hp : ¬aside (p.placeFrom t.workingDirectory)) : u.stat p = t.stat p ∨
    (∃ cause, t.stat p = .error cause ∧ cause ≠ .nameTooLong) ∧
      ∃ cause, u.stat p = .error cause ∧ cause ≠ .nameTooLong := by
  have hastray : ∀ {t : FileTree}, byteCount p.text < pathBound →
      (∃ cause, t.depart (t.start p) p.names = .error cause ∧ cause ≠ .nameTooLong) →
      ∃ cause, t.stat p = .error cause ∧ cause ≠ .nameTooLong := by
    rintro t hs ⟨cause, hdepart, hc⟩
    refine ⟨cause, ?_, hc⟩
    rw [FileTree.stat, FileTree.locate, if_pos hs, hdepart]
  by_cases hs : byteCount p.text < pathBound
  · rcases h.depart p.names (t.start p) with heq | ⟨-, hend | ⟨ht, hu⟩⟩
    · refine Or.inl ?_
      rw [FileTree.stat, FileTree.stat, FileTree.locate, FileTree.locate, h.start, heq]
    · exact absurd hend hp
    · exact Or.inr ⟨hastray hs ht, hastray hs (h.start p ▸ hu)⟩
  · refine Or.inl ?_
    rw [FileTree.stat, FileTree.stat, FileTree.locate, FileTree.locate, if_neg hs, if_neg hs]

theorem entryAt (h : SameBut aside t u) (hp : ¬aside (p.placeFrom t.workingDirectory)) : u.entryAt p = t.entryAt p := by
  rcases h.stat hp with heq | ⟨⟨cause, ht, hc⟩, cause', hu, hc'⟩
  · rw [FileTree.entryAt, FileTree.entryAt, heq]
  · rw [entryAt_of_stat_error ht hc, entryAt_of_stat_error hu hc']

theorem «exists» (h : SameBut aside t u) (hp : ¬aside (p.placeFrom t.workingDirectory)) : u.exists p = t.exists p := by
  rw [FileTree.exists, FileTree.exists, h.entryAt hp]

theorem isDirectory (h : SameBut aside t u) (hp : ¬aside (p.placeFrom t.workingDirectory)) :
    u.isDirectory p = t.isDirectory p := by
  rw [FileTree.isDirectory, FileTree.isDirectory, h.entryAt hp]

theorem isFile (h : SameBut aside t u) (hp : ¬aside (p.placeFrom t.workingDirectory)) : u.isFile p = t.isFile p := by
  rw [FileTree.isFile, FileTree.isFile, h.entryAt hp]

/-- What is there at a path that does not end at a route that is set aside is read alike. -/
theorem read (h : SameBut aside t u) (hp : ¬aside (p.placeFrom t.workingDirectory)) {entry : Entry}
    (he : t.entryAt p = .ok (some entry)) : u.read p = t.read p := by
  rcases h.stat hp with heq | ⟨⟨cause, ht, hc⟩, -⟩
  · rw [FileTree.read, FileTree.read, heq]
  · rw [entryAt_of_stat_error ht hc] at he
    cases he

/-! ### Changes elsewhere -/

/-- What is put at a route in both trees leaves them the same but at routes that are set aside. -/
theorem put (h : SameBut aside t u) (hne : route ≠ []) (hparent : t.lookup route.dropLast = some .directory)
    (hd : t.lookup route ≠ some .directory) {entry entry' : Entry} (he : ¬aside route → entry' = entry)
    (he' : aside route → entry ≠ .directory ∧ entry' ≠ .directory) :
    SameBut aside (t.put route entry) (u.put route entry') := by
  have hput := lookup_put hne hparent hd entry
  have hput' := lookup_put hne (h.directory hparent) (fun hu => hd (h.symm.directory hu)) entry'
  refine ⟨h.workingDirectory, fun x hx => ?_, fun x hx => ?_, fun x hx => ?_⟩
  · rw [hput, hput']
    split
    · next hr => rw [he (hr ▸ hx)]
    · exact h.lookup x hx
  · rw [hput]
    split
    · next hr => exact fun heq => (he' (hr ▸ hx)).1 (Option.some.inj heq)
    · exact h.first x hx
  · rw [hput']
    split
    · next hr => exact fun heq => (he' (hr ▸ hx)).2 (Option.some.inj heq)
    · exact h.second x hx

end SameBut

/-- Attempts that fail alike or not at all, and leave trees that are the same but at routes that are set aside. -/
def AttemptSameBut (aside : Route → Prop) (a b : Attempt) : Prop := b.2 = a.2 ∧ SameBut aside a.1 b.1

namespace SameBut

theorem makeOne (h : SameBut aside t u) (hp : ∀ x, aside x → ¬p.OnWay t.workingDirectory x) :
    (∃ cause, t.makeOne p = .error cause ∧ u.makeOne p = .error cause) ∨
      ∃ made made', t.makeOne p = .ok made ∧ u.makeOne p = .ok made' ∧ SameBut aside made made' := by
  have hlocate := h.locate hp
  cases ht : t.makeOne p with
  | error cause =>
    refine Or.inl ⟨cause, rfl, ?_⟩
    rw [FileTree.makeOne] at ht ⊢
    rw [hlocate]
    cases hl : t.locate p with
    | error cause' => rwa [hl] at ht
    | ok found =>
      obtain ⟨route, e⟩ := found
      cases e with
      | none =>
        rw [hl] at ht
        cases ht
      | some entry => rwa [hl] at ht
  | ok made =>
    obtain ⟨route, hl, rfl, hne, hparent, hnone⟩ := makeOne_eq_ok ht
    have hu : u.makeOne p = .ok (u.put route .directory) := by rw [FileTree.makeOne, hlocate, hl]
    have hplace : p.OnWay t.workingDirectory route := (locate_eq_ok hl).1 ▸ Path.onWay_placeFrom _ _
    exact Or.inr ⟨_, _, rfl, hu, h.put hne hparent (by simp [hnone]) (fun _ => rfl) fun ha => absurd hplace (hp route ha)⟩

theorem acceptExisting (h : SameBut aside t u) (hp : ¬aside (p.placeFrom t.workingDirectory)) (cause : OsCause) :
    AttemptSameBut aside (t.acceptExisting p cause) (u.acceptExisting p cause) := by
  rw [FileTree.acceptExisting, FileTree.acceptExisting, h.isDirectory hp]
  split <;> exact ⟨rfl, h⟩

theorem makeFrom : ∀ (fuel : Nat) {p : Path} {t u : FileTree}, SameBut aside t u →
    (∀ x, aside x → ¬p.OnWay t.workingDirectory x) →
    AttemptSameBut aside (t.makeFrom p fuel) (u.makeFrom p fuel)
  | 0, _, _, _, h, _ => ⟨rfl, h⟩
  | fuel + 1, p, t, u, h, hp => by
    have hplace : ∀ {v : FileTree}, v.workingDirectory = t.workingDirectory → ¬aside (p.placeFrom v.workingDirectory) :=
      fun hv ha => hp _ ha (hv ▸ Path.onWay_placeFrom _ _)
    rw [FileTree.makeFrom, FileTree.makeFrom]
    rcases h.makeOne hp with ⟨cause, ht, hu⟩ | ⟨made, made', ht, hu, hmade⟩
    · rw [ht, hu]
      by_cases hc : cause = .missing
      · subst hc
        simp only []
        split
        · exact ⟨rfl, h⟩
        · have hparents := makeFrom fuel (p := p.parent) h fun x hx hway => hp x hx hway.of_parent
          have hprepared := prepared_makeFrom fuel p.parent t
          cases hfrom : t.makeFrom p.parent fuel with
          | mk parents failed =>
            cases hfrom' : u.makeFrom p.parent fuel with
            | mk parents' failed' =>
              rw [hfrom, hfrom'] at hparents
              rw [hfrom] at hprepared
              obtain ⟨hfailed, hsame⟩ := hparents
              obtain rfl : failed' = failed := hfailed
              cases failed' with
              | some e => exact ⟨rfl, hsame⟩
              | none =>
                have hway : ∀ x, aside x → ¬p.OnWay parents.workingDirectory x := by
                  rw [hprepared.workingDirectory]
                  exact hp
                simp only []
                rcases hsame.makeOne hway with ⟨cause, hl, hl'⟩ | ⟨made, made', hl, hl', hmade⟩
                · rw [hl, hl']
                  exact hsame.acceptExisting (hplace hprepared.workingDirectory) cause
                · rw [hl, hl']
                  exact ⟨rfl, hmade⟩
      · cases cause with
        | missing => exact absurd rfl hc
        | _ => exact h.acceptExisting (hplace rfl) _
    · rw [ht, hu]
      exact ⟨rfl, hmade⟩

theorem makeDirectory (h : SameBut aside t u) (hp : ∀ x, aside x → ¬p.OnWay t.workingDirectory x) :
    AttemptSameBut aside (t.makeDirectory p) (u.makeDirectory p) := by
  rw [FileTree.makeDirectory, FileTree.makeDirectory]
  cases bytesOf p.text with
  | error e => exact ⟨rfl, h⟩
  | ok bytes => exact makeFrom mostParents h hp

theorem writeText (h : SameBut aside t u) (hp : ∀ x, aside x → ¬p.OnWay t.workingDirectory x)
    (text : Text) : AttemptSameBut aside (t.writeText p text) (u.writeText p text) := by
  have hroute : u.fileRoute p = t.fileRoute p := by
    rw [fileRoute, fileRoute, h.locate hp]
  cases ht : t.fileRoute p with
  | error e =>
    rw [writeText_of_error ht, writeText_of_error (hroute.trans ht)]
    exact ⟨rfl, h⟩
  | ok route =>
    obtain ⟨hplace, hd, hne, hparent⟩ := fileRoute_eq_ok ht
    have hput : ∀ entry, SameBut aside (t.put route entry) (u.put route entry) := fun entry =>
      h.put hne hparent hd (fun _ => rfl) fun ha => absurd (hplace ▸ Path.onWay_placeFrom _ _) (hp route ha)
    rw [FileTree.writeText, FileTree.writeText, hroute, ht]
    simp only []
    cases text.encode with
    | ok bytes => exact ⟨rfl, hput (.file (.bytes bytes))⟩
    | error e => exact ⟨rfl, hput (.file (.bytes []))⟩

/-- A text that is added to what is set aside in one tree makes no difference. -/
theorem appendAt_aside (h : SameBut aside t u) (ha : aside route) (text : Text) :
    SameBut aside t (u.appendAt route text) := by
  rcases appendAt_cases u route text with hu | ⟨old, new, hc, hu⟩
  · rw [hu]
    exact h
  · have hput := lookup_put_file hc (.file (.bytes new))
    rw [hu]
    refine ⟨h.workingDirectory, fun x hx => ?_, h.first, fun x hx => ?_⟩
    · rw [hput, if_neg fun (he : x = route) => hx (he ▸ ha), h.lookup x hx]
    · rw [hput]
      split
      · exact nofun
      · exact h.second x hx

/-- A text is added alike to one file in both trees. The file may be set aside itself. -/
theorem appendAt (h : SameBut aside t u) (route : Route) (text : Text) :
    SameBut aside (t.appendAt route text) (u.appendAt route text) := by
  by_cases ha : aside route
  · exact ((h.appendAt_aside ha text).symm.appendAt_aside ha text).symm
  rw [FileTree.appendAt, FileTree.appendAt, h.lookup route ha]
  split
  · next content bytes hl _ =>
    have hne : route ≠ [] := by
      rintro rfl
      cases hl
    exact h.put hne (lookup_dropLast hl hne) (by simp [hl]) (fun _ => rfl) fun ha' => absurd ha' ha
  · exact h

end SameBut
end FileTree
end GeneratorHost
