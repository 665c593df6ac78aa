import GeneratorHost.Proofs.Artifact.Segment
import GeneratorHost.Proofs.World.Writes

/-! What writing artifacts leaves. Every artifact goes to the file that its name leads to; of several that go to one file
    the last one stays, and artifacts without a name never go to one file. If an artifact fails, those before it are
    written; its own file is as they left it, unless it was opened for a text that cannot be written. -/

namespace GeneratorHost

/-! ### Names of artifacts -/

namespace Artifact

/-- Artifacts with the names of their files, when `issued` tokens were given out before. -/
def named (generator : Text) (issued : Nat) (artifacts : List Source) : List (Text × Source) :=
  (namesOf generator issued artifacts).zip artifacts

variable {generator : Text} {issued : Nat} {artifact : Source}

theorem named_cons (generator : Text) (issued : Nat) (artifact : Source) (artifacts : List Source) :
    named generator issued (artifact :: artifacts) = ((nameOf generator issued artifact).1, artifact) ::
      named generator (nameOf generator issued artifact).2 artifacts := rfl

theorem map_snd_named (generator : Text) : ∀ (issued : Nat) (artifacts : List Source),
    (named generator issued artifacts).map Prod.snd = artifacts
  | _, [] => rfl
  | issued, artifact :: artifacts => by
    rw [named_cons, List.map_cons, map_snd_named generator _ artifacts]

theorem nameOf_of_fileName? {name : Text} (h : fileName? artifact.path = some name) (generator : Text) (issued : Nat) :
    nameOf generator issued artifact = (name, issued) := by
  rw [nameOf, h]

theorem nameOf_of_nameless (h : fileName? artifact.path = none) (generator : Text) (issued : Nat) :
    nameOf generator issued artifact = (synthesize generator (issued + 1), issued + 1) := by
  rw [nameOf, h]

theorem le_snd_nameOf (generator : Text) (issued : Nat) (artifact : Source) :
    issued ≤ (nameOf generator issued artifact).2 := by
  cases h : fileName? artifact.path with
  | some name => simp [nameOf_of_fileName? h]
  | none => simp [nameOf_of_nameless h]

/-- A document with a usable name goes by it. -/
theorem eq_of_mem_named {name cut : Text} (hcut : fileName? artifact.path = some cut) :
    ∀ {artifacts : List Source} {issued : Nat}, (name, artifact) ∈ named generator issued artifacts → name = cut
  | first :: artifacts, issued, h => by
    rw [named_cons, List.mem_cons] at h
    rcases h with h | h
    · obtain ⟨rfl, rfl⟩ := Prod.mk.inj h
      rw [nameOf_of_fileName? hcut]
    · exact eq_of_mem_named hcut h

/-- A document without one goes by a name that is made up with a token of its own. -/
theorem exists_token_of_mem_named {name : Text} (hnone : fileName? artifact.path = none) :
    ∀ {artifacts : List Source} {issued : Nat}, (name, artifact) ∈ named generator issued artifacts →
      ∃ token, issued < token ∧ name = synthesize generator token
  | first :: artifacts, issued, h => by
    rw [named_cons, List.mem_cons] at h
    rcases h with h | h
    · obtain ⟨rfl, rfl⟩ := Prod.mk.inj h
      rw [nameOf_of_nameless hnone]
      exact ⟨issued + 1, Nat.lt_succ_self issued, rfl⟩
    · obtain ⟨token, hlt, he⟩ := exists_token_of_mem_named hnone h
      exact ⟨token, Nat.lt_of_le_of_lt (le_snd_nameOf generator issued first) hlt, he⟩

/-- No two documents without a usable name go to one file, whatever the directory. -/
theorem pairwise_named (generator : Text) : ∀ (issued : Nat) (artifacts : List Source),
    (named generator issued artifacts).Pairwise fun a b =>
      fileName? a.2.path = none → fileName? b.2.path = none → a.1.asName ≠ b.1.asName
  | _, [] => List.Pairwise.nil
  | issued, artifact :: artifacts => by
    rw [named_cons]
    refine List.pairwise_cons.mpr ⟨fun later hlater hnone hnone' he => ?_, pairwise_named generator _ artifacts⟩
    obtain ⟨token, hlt, hname⟩ := exists_token_of_mem_named hnone' hlater
    rw [nameOf_of_nameless hnone] at hlt he
    rw [hname] at he
    have htoken := asName_synthesize_inj he
    omega

end Artifact

namespace World

open Artifact (named nameOf namesOf)

variable {w v u : World} {directory : Path} {generator : Text} {artifact : Source} {artifacts : List Source} {e : Failure}

/-! ### Artifacts that were all written -/

/-- Between two worlds texts were written under names: the file that a name leads to holds the last text that was
    written to it, and everything but these files and the log file is as it was. -/
structure Delivered (place : Route) (texts : List (Text × Source)) (w v : World) : Prop where
  last : ∀ before name artifact after, texts = before ++ (name, artifact) :: after →
    (∀ later ∈ after, later.1.asName ≠ name.asName) → ¬w.Logs (place ++ [name.asName]) →
    ∃ bytes, artifact.text.encode = .ok bytes ∧ v.files.lookup (place ++ [name.asName]) = some (.file (.bytes bytes))
  others : ∀ x, ¬w.Logs x → (∀ text ∈ texts, x ≠ place ++ [text.1.asName]) → v.files.lookup x = w.files.lookup x

/-- The write that puts an artifact in the file of its name. -/
def writeFor (place : Route) (text : Text × Source) : Write :=
  (place ++ [text.1.asName], FileTree.writtenBytes text.2.text)

theorem allWrites_eq_map (place : Route) (generator : Text) (issued : Nat) (artifacts : List Source) :
    allWrites place (namesOf generator issued artifacts) artifacts =
      (named generator issued artifacts).map (writeFor place) := by
  rw [allWrites, named, List.zip, List.map_zipWith]
  rfl

theorem lastWrite?_eq_none_of_forall_ne {place : Route} {texts : List (Text × Source)} {x : Route}
    (h : ∀ text ∈ texts, x ≠ place ++ [text.1.asName]) : lastWrite? (texts.map (writeFor place)) x = none := by
  refine lastValue?_eq_none_iff.mpr fun write hwrite he => ?_
  obtain ⟨text, ht, rfl⟩ := List.mem_map.mp hwrite
  exact h text ht (beq_iff_eq.mp he).symm

theorem delivered_of_written {place : Route} {texts : List (Text × Source)}
    (h : Written (texts.map (writeFor place)) w v)
    (hencode : ∀ artifact ∈ texts.map Prod.snd, ∃ bytes, artifact.text.encode = .ok bytes) :
    Delivered place texts w v where
  last before name artifact after htexts hlast hx := by
    obtain ⟨bytes, hbytes⟩ := hencode artifact (List.mem_map.mpr ⟨(name, artifact), by simp [htexts], rfl⟩)
    have hwritten : FileTree.writtenBytes artifact.text = bytes := by rw [FileTree.writtenBytes, hbytes]
    -- Of the writes to this file none comes after this one, so those before it make no difference.
    have hafter : lastWrite? (after.map (writeFor place)) (place ++ [name.asName]) = none :=
      lastWrite?_eq_none_of_forall_ne fun later hlater he =>
        hlast later hlater (List.singleton_inj.mp (List.append_cancel_left he)).symm
    have hself : lastWrite? [writeFor place (name, artifact)] (place ++ [name.asName]) = some bytes := by
      rw [writeFor, lastWrite?_singleton, if_pos rfl, hwritten]
    have hone : texts.map (writeFor place) =
        before.map (writeFor place) ++ ([writeFor place (name, artifact)] ++ after.map (writeFor place)) := by
      rw [htexts, List.map_append, List.map_cons, List.singleton_append]
    refine ⟨bytes, hbytes, ?_⟩
    rw [h.lookup _ hx, hone, lastWrite?_append, lastWrite?_append, hafter, hself]
    rfl
  others x hx hne := by
    rw [h.lookup x hx, lastWrite?_eq_none_of_forall_ne hne]
    rfl

/-! ### An artifact that failed -/

/-- The path that an artifact is written under. -/
def targetOf (directory : Path) (generator : Text) (artifact : Source) (w : World) : Path :=
  directory.child (nameOf generator w.tokens artifact).1

/-- The file that an artifact is written to. -/
def fileOf (directory : Path) (generator : Text) (artifact : Source) (w : World) : Route :=
  directory.placeFrom w.files.workingDirectory ++ [(nameOf generator w.tokens artifact).1.asName]

theorem placeFrom_targetOf (directory : Path) (generator : Text) (artifact : Source) (w : World) :
    (targetOf directory generator artifact w).placeFrom w.files.workingDirectory =
      fileOf directory generator artifact w :=
  Path.placeFrom_child _ (Artifact.isEntryName_nameOf ..).ne_dots

/-- How an artifact fails: its file cannot be opened, and everything stays as it is; or its text cannot be written, and
    the file that was opened for it is empty. -/
inductive Failed (directory : Path) (generator : Text) (artifact : Source) (e : Failure) (w v : World) : Prop
  | unopened (hopen : w.files.fileRoute (targetOf directory generator artifact w) = .error e)
      (hkept : ∀ x, ¬w.Logs x → v.files.lookup x = w.files.lookup x)
  | emptied (fault : Text.EncodeError)
      (hopen : w.files.fileRoute (targetOf directory generator artifact w) = .ok (fileOf directory generator artifact w))
      (htext : artifact.text.encode = .error fault) (he : e = .unencodable fault)
      (hemptied : ∀ x, ¬w.Logs x → v.files.lookup x =
        if x = fileOf directory generator artifact w then some (.file (.bytes [])) else w.files.lookup x)

/-- Aiming fails only where the file cannot be opened, and makes no difference to which files can be. -/
theorem aim_cases (directory : Path) (generator : Text) (artifact : Source) (hw : w.LogOpen) :
    (∃ v, aim directory generator artifact w = .ok (targetOf directory generator artifact w) v ∧
      v.files.shape = w.files.shape) ∨
    ∃ e v, aim directory generator artifact w = .error e v ∧
      w.files.fileRoute (targetOf directory generator artifact w) = .error e := by
  obtain ⟨w₁, hname, -, hsame⟩ := nameArtifact_eq_ok generator artifact w
  obtain ⟨hw₁, hshape⟩ := hsame hw
  unfold aim
  rw [Act.bind_ok hname]
  cases hthere : w₁.files.exists (targetOf directory generator artifact w) with
  | error e =>
    refine Or.inr ⟨e, w₁, Act.bind_error (ask_of_error hthere), ?_⟩
    rw [← (FileTree.ofShape_fileRoute _).eq hshape]
    exact FileTree.fileRoute_of_exists_eq_error hthere
  | ok there =>
    -- All that is done yet is perhaps a record; the log file was a file before and is one after.
    refine Or.inl ?_
    rw [← targetOf, Act.bind_ok (ask_of_ok hthere)]
    cases there with
    | false => exact ⟨w₁, rfl, hshape⟩
    | true => exact ⟨_, rfl, (shape_logged _ _).trans hshape⟩

/-- An artifact is written if its file can be opened. -/
theorem writeOf_eq (directory : Path) (generator : Text) (artifact : Source) (hw : w.LogOpen) :
    writeOf directory generator artifact w =
      match w.files.fileRoute (targetOf directory generator artifact w) with
      | .error _ => []
      | .ok route => [(route, FileTree.writtenBytes artifact.text)] := by
  rcases aim_cases directory generator artifact hw with ⟨v, haim, hshape⟩ | ⟨e, v, haim, hopen⟩
  · have hroute := (FileTree.ofShape_fileRoute (targetOf directory generator artifact w)).eq hshape
    cases hopen : w.files.fileRoute (targetOf directory generator artifact w) with
    | error e => simp only [writeOf, haim, hroute, hopen]
    | ok route => simp only [writeOf, haim, hroute, hopen]
  · simp only [writeOf, haim, hopen]

/-- Why an artifact fails: its file cannot be opened, or its text cannot be written. -/
theorem writeArtifact_eq_error (hw : w.LogOpen) (h : writeArtifact directory generator artifact w = .error e v) :
    w.files.fileRoute (targetOf directory generator artifact w) = .error e ∨
      ∃ route fault, w.files.fileRoute (targetOf directory generator artifact w) = .ok route ∧
        artifact.text.encode = .error fault ∧ e = .unencodable fault := by
  rw [writeArtifact_eq] at h
  rcases aim_cases directory generator artifact hw with ⟨v₀, haim, hshape⟩ | ⟨e', v₀, haim, hopen⟩
  · rw [Act.bind_ok haim] at h
    rw [← (FileTree.ofShape_fileRoute _).eq hshape]
    rcases change_cases (fun t => t.writeText (targetOf directory generator artifact w) artifact.text) v₀ with
      ⟨-, hc⟩ | ⟨e', hfailed, hc⟩
    · cases hc.symm.trans h
    · cases hc.symm.trans h
      cases hopen : v₀.files.fileRoute (targetOf directory generator artifact w) with
      | error e'' =>
        rw [FileTree.writeText_of_error hopen] at hfailed
        exact Or.inl (congrArg _ (Option.some.inj hfailed))
      | ok route =>
        rw [FileTree.writeText, hopen] at hfailed
        cases htext : artifact.text.encode with
        | ok bytes =>
          simp only [htext] at hfailed
          cases hfailed
        | error fault =>
          simp only [htext] at hfailed
          exact Or.inr ⟨route, fault, rfl, rfl, (Option.some.inj hfailed).symm⟩
  · cases (Act.bind_error haim).symm.trans h
    exact Or.inl hopen

theorem failed_of_writeArtifact (hw : w.LogOpen) (h : writeArtifact directory generator artifact w = .error e v) :
    Failed directory generator artifact e w v := by
  have hwritten : Written (writeOf directory generator artifact w) w _ := written_writeArtifact hw
  rw [Act.after_of_error h, writeOf_eq directory generator artifact hw] at hwritten
  rcases writeArtifact_eq_error hw h with hopen | ⟨route, fault, hopen, htext, he⟩
  · rw [hopen] at hwritten
    exact .unopened hopen fun x hx => hwritten.lookup x hx
  · obtain ⟨hroute, -⟩ := FileTree.fileRoute_eq_ok hopen
    rw [placeFrom_targetOf] at hroute
    subst hroute
    rw [hopen] at hwritten
    refine .emptied fault hopen htext he fun x hx => ?_
    have hbytes : FileTree.writtenBytes artifact.text = [] := by rw [FileTree.writtenBytes, htext]
    simp only [hwritten.lookup x hx, lastWrite?_singleton, hbytes]
    split <;> rfl

/-! ### Artifacts in a row -/

/-- If an artifact fails, those before it were written. -/
theorem writeAll_eq_error : ∀ {artifacts : List Source} {w : World}, writeAll directory generator artifacts w = .error e v →
    ∃ before artifact after u, artifacts = before ++ artifact :: after ∧
      writeAll directory generator before w = .ok () u ∧ writeArtifact directory generator artifact u = .error e v
  | [], _, h => nomatch h
  | first :: artifacts, w, h => by
    rw [writeAll] at h
    cases hf : writeArtifact directory generator first w with
    | error e' v' =>
      cases (Act.bind_error hf).symm.trans h
      exact ⟨[], first, artifacts, w, rfl, rfl, hf⟩
    | ok u' w₁ =>
      rw [Act.bind_ok hf] at h
      obtain ⟨before, artifact, after, u, rfl, hbefore, hfails⟩ := writeAll_eq_error h
      refine ⟨first :: before, artifact, after, u, rfl, ?_, hfails⟩
      rw [writeAll, Act.bind_ok hf, hbefore]

theorem writeArtifacts_of_writeAll (hmade : makeDirectory directory w = .ok () u)
    (h : writeAll directory generator artifacts u = .ok () v) :
    writeArtifacts directory generator artifacts w = .ok artifacts.length v := by
  rw [writeArtifacts, Act.bind_ok hmade, Act.bind_ok h]
  rfl

theorem writeArtifacts_eq_ok {count : Nat} (h : writeArtifacts directory generator artifacts w = .ok count v) :
    count = artifacts.length ∧ ∃ u, makeDirectory directory w = .ok () u ∧
      writeAll directory generator artifacts u = .ok () v := by
  obtain ⟨_, u, hmade, h⟩ := Act.bind_eq_ok.mp h
  obtain ⟨_, v', hall, h⟩ := Act.bind_eq_ok.mp h
  cases h
  exact ⟨rfl, u, hmade, hall⟩

theorem writeArtifacts_eq_error (h : writeArtifacts directory generator artifacts w = .error e v) :
    makeDirectory directory w = .error e v ∨ ∃ u, makeDirectory directory w = .ok () u ∧
      writeAll directory generator artifacts u = .error e v := by
  rw [writeArtifacts] at h
  cases hm : makeDirectory directory w with
  | error e' v' =>
    cases (Act.bind_error hm).symm.trans h
    exact Or.inl rfl
  | ok _ u =>
    rw [Act.bind_ok hm] at h
    refine Or.inr ⟨u, rfl, ?_⟩
    cases hall : writeAll directory generator artifacts u with
    | error e' v' =>
      cases (Act.bind_error hall).symm.trans h
      rfl
    | ok _ v' =>
      rw [Act.bind_ok hall] at h
      cases h

theorem delivered_of_writeAll (hw : w.LogOpen) (h : writeAll directory generator artifacts w = .ok () v) :
    Delivered (directory.placeFrom w.files.workingDirectory) (named generator w.tokens artifacts) w v := by
  obtain ⟨hwrites, hencode⟩ := writeAll_eq_ok hw h
  have hwritten : Written (writesOf directory generator artifacts w) w _ := written_writeAll artifacts hw
  rw [Act.after_of_ok h, hwrites, allWrites_eq_map] at hwritten
  refine delivered_of_written hwritten ?_
  rwa [Artifact.map_snd_named]

/-- What writing artifacts into a directory leaves. If it succeeds, it counts the artifacts, the file that a name leads to
    holds the text of the last artifact that goes by such a name, and everything else is as it was once the directory was
    there. Artifacts without a usable name go by names that are made up, each to a file of its own. If it fails at an
    artifact, those before it are written, and that is all unless a file was opened for a text that cannot be written;
    this file is empty then. -/
theorem writeArtifacts_leaves (directory : Path) (generator : Text) (artifacts : List Source) (hw : w.LogOpen) :
    (∀ count v, writeArtifacts directory generator artifacts w = .ok count v →
      count = artifacts.length ∧
      ∃ u, makeDirectory directory w = .ok () u ∧
        FileTree.Prepared (directory.OnWay w.files.workingDirectory) w.files u.files ∧
        u.files.lookup (directory.placeFrom w.files.workingDirectory) = some .directory ∧
        Delivered (directory.placeFrom w.files.workingDirectory) (named generator w.tokens artifacts) u v) ∧
    (named generator w.tokens artifacts).map Prod.snd = artifacts ∧
    (∀ name artifact, (name, artifact) ∈ named generator w.tokens artifacts →
      (∀ cut, Artifact.fileName? artifact.path = some cut → name = cut) ∧
      (Artifact.fileName? artifact.path = none → ∃ token, name = Artifact.synthesize generator token)) ∧
    ((named generator w.tokens artifacts).Pairwise fun a b =>
      Artifact.fileName? a.2.path = none → Artifact.fileName? b.2.path = none → a.1.asName ≠ b.1.asName) ∧
    (∀ e v, writeArtifacts directory generator artifacts w = .error e v →
      (makeDirectory directory w = .error e v ∧
        FileTree.Prepared (directory.OnWay w.files.workingDirectory) w.files v.files) ∨
      ∃ before artifact after u, artifacts = before ++ artifact :: after ∧
        writeArtifacts directory generator before w = .ok before.length u ∧
        Failed directory generator artifact e u v) := by
  refine ⟨fun count v h => ?_, Artifact.map_snd_named .., fun name artifact h => ⟨fun cut hcut => ?_, fun hnone => ?_⟩,
    Artifact.pairwise_named .., fun e v h => ?_⟩
  · obtain ⟨rfl, u, hmade, hall⟩ := writeArtifacts_eq_ok h
    obtain ⟨hu, hprepared, hdirectory⟩ := makeDirectory_eq_ok hmade
    have hdelivered := delivered_of_writeAll (logOpen_of_makeDirectory hw hmade) hall
    rw [hprepared.workingDirectory, congrArg tokens hu] at hdelivered
    exact ⟨rfl, u, hmade, hprepared, hdirectory rfl, hdelivered⟩
  · exact Artifact.eq_of_mem_named hcut h
  · obtain ⟨token, -, he⟩ := Artifact.exists_token_of_mem_named hnone h
    exact ⟨token, he⟩
  · rcases writeArtifacts_eq_error h with hfailed | ⟨u, hmade, hall⟩
    · exact Or.inl ⟨hfailed, makeDirectory_eq_error hfailed⟩
    · obtain ⟨before, artifact, after, v₀, rfl, hbefore, hfails⟩ := writeAll_eq_error hall
      -- That the artifacts before the one that failed were written has not taken the log file away.
      have hwritten : Written (writesOf directory generator before u) u _ :=
        written_writeAll before (logOpen_of_makeDirectory hw hmade)
      rw [Act.after_of_ok hbefore] at hwritten
      exact Or.inr ⟨before, artifact, after, v₀, rfl, writeArtifacts_of_writeAll hmade hbefore,
        failed_of_writeArtifact hwritten.logOpen hfails⟩

/-- A world with one file, which holds `old`, in the directory for artifacts. -/
def occupied : World := .new ⟨[], [("out", .directory [("f.txt", .file (.bytes [0x6F, 0x6C, 0x64]))])]⟩ default

/-- An artifact for that file whose text is one half of a pair. -/
def halved : Source := ⟨"f.txt", ⟨[.half 0]⟩⟩

/-- It is the first artifact to be written and fails; what the file held is lost. -/
theorem writeArtifacts_leaves_halved :
    ∃ e v u, occupied.LogOpen ∧
      writeArtifacts (.ofText "out") "G" [halved] occupied = .error e v ∧
      writeArtifacts (.ofText "out") "G" [] occupied = .ok 0 u ∧
      u.files.lookup ["out", "f.txt"] = some (.file (.bytes [0x6F, 0x6C, 0x64])) ∧
      v.files.lookup ["out", "f.txt"] = some (.file (.bytes [])) := by
  have hopen : occupied.LogOpen := World.logOpen_new _ _
  have hnothing : writeArtifacts (.ofText "out") "G" [] occupied = .ok 0 occupied := rfl
  have hmade : makeDirectory (.ofText "out") occupied = .ok () occupied := rfl
  have hroute : occupied.files.fileRoute (targetOf (.ofText "out") "G" halved occupied) = .ok ["out", "f.txt"] := rfl
  have hfails : (match writeArtifacts (.ofText "out") "G" [halved] occupied with
    | .ok _ _ => false
    | .error _ _ => true) = true := by decide +kernel
  cases h : writeArtifacts (.ofText "out") "G" [halved] occupied with
  | ok count v =>
    rw [h] at hfails
    cases hfails
  | error e v =>
    refine ⟨e, v, occupied, hopen, rfl, hnothing, rfl, ?_⟩
    rcases (writeArtifacts_leaves (.ofText "out") "G" [halved] hopen).2.2.2.2 e v h with
      ⟨hfailed, -⟩ | ⟨before, artifact, after, u, hsplit, hbefore, hfailed⟩
    · cases hmade.symm.trans hfailed
    · obtain ⟨rfl, rfl⟩ : before = [] ∧ artifact = halved := by
        cases before with
        | nil => exact ⟨rfl, (List.cons.inj hsplit).1.symm⟩
        | cons first before => simp at hsplit
      cases hnothing.symm.trans hbefore
      cases hfailed with
      | unopened hunopened => cases hroute.symm.trans hunopened
      | emptied fault _ _ _ hemptied =>
        have hplace : (["out", "f.txt"] : Route) = fileOf (.ofText "out") "G" halved occupied := by
          decide +kernel
        have hnoLog : ¬occupied.Logs ["out", "f.txt"] := fun ⟨_, hf, _⟩ => nomatch hf
        rw [hemptied _ hnoLog, if_pos hplace]

end World
end GeneratorHost
