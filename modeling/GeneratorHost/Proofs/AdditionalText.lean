import GeneratorHost.Proofs.FileTree.Resolve
import GeneratorHost.Proofs.Text.Utf8
import GeneratorHost.Proofs.World.Artifacts

/-! Artifacts that are read back. The text of a file is what was written to it, with its line ends unified; it is found by
    the path that the file was written under, once that is resolved, as long as the resolved path is not too long. -/

namespace GeneratorHost

/-! ### Line ends -/

namespace Text

/-- The characters with a line feed for every pair of a carriage return and a line feed. -/
def joinPairs : List Char → List Char
  | [] => []
  | '\r' :: '\n' :: cs => '\n' :: joinPairs cs
  | c :: cs => c :: joinPairs cs

def feed (c : Char) : Char := if c = '\r' then '\n' else c

theorem unifyNewlinesList_eq (cs : List Char) : unifyNewlinesList cs = (joinPairs cs).map feed := by
  fun_induction unifyNewlinesList cs with
  | case1 => rfl
  | case2 cs ih =>
    rw [joinPairs, List.map_cons, ih]
    rfl
  | case3 c cs hpair ih =>
    rw [joinPairs.eq_3 c cs hpair, List.map_cons, ih]
    simp only [feed, beq_iff_eq]

theorem ofString_unifyNewlines (s : String) :
    ofString (unifyNewlines s) = ofChars ((joinPairs s.toList).map feed) := by
  rw [ofString, unifyNewlines, String.toList_ofList, unifyNewlinesList_eq]

theorem joinPairs_of_forall_ne : ∀ {cs : List Char}, (∀ c ∈ cs, c ≠ '\r') → (joinPairs cs).map feed = cs
  | [], _ => rfl
  | c :: cs, h => by
    obtain ⟨hc, hcs⟩ := List.forall_mem_cons.mp h
    rw [joinPairs.eq_3 c cs (fun _ he => absurd he hc), List.map_cons, joinPairs_of_forall_ne hcs, feed, if_neg hc]

end Text

namespace World

open Artifact (named nameOf)

variable {w v : World} {directory : Path} {generator : Text} {artifacts : List Source}

/-- Every artifact was opened under its name when its turn came. -/
theorem fileRoute_of_writeAll {name : Text} {artifact : Source} : ∀ {artifacts : List Source} {w : World}, w.LogOpen →
    writeAll directory generator artifacts w = .ok () v → (name, artifact) ∈ named generator w.tokens artifacts →
      ∃ u : World, u.files.workingDirectory = w.files.workingDirectory ∧
        u.files.fileRoute (directory.child name) =
          .ok (directory.placeFrom w.files.workingDirectory ++ [name.asName])
  | first :: artifacts, w, hw, h, hm => by
    obtain ⟨_, w₁, hfirst, h⟩ := Act.bind_eq_ok.mp h
    have hwritten : Written (writeOf directory generator first w) w _ := written_writeArtifact hw
    rw [Act.after_of_ok hfirst] at hwritten
    obtain ⟨hwrite, htokens, -⟩ := writeArtifact_eq_ok hw hfirst
    rw [Artifact.named_cons, List.mem_cons] at hm
    rcases hm with hm | hm
    · obtain ⟨rfl, rfl⟩ := Prod.mk.inj hm
      rw [writeOf_eq directory generator artifact hw] at hwrite
      refine ⟨w, rfl, ?_⟩
      rw [targetOf] at hwrite
      cases hroute : w.files.fileRoute (directory.child (nameOf generator w.tokens artifact).1) with
      | error e =>
        rw [hroute] at hwrite
        cases hwrite
      | ok route =>
        rw [hroute] at hwrite
        rw [(Prod.mk.inj (List.singleton_inj.mp hwrite)).1]
    · rw [← htokens] at hm
      obtain ⟨u, hu, hroute⟩ := fileRoute_of_writeAll hwritten.logOpen h hm
      rw [hwritten.workingDirectory] at hu hroute
      exact ⟨u, hu, hroute⟩

/-- An artifact whose file no later one goes to was opened under its path, and its file holds the bytes of its text. -/
theorem stored_of_writeArtifacts {before after : List (Text × Source)} {name : Text} {artifact : Source} {count : Nat}
    (hw : w.LogOpen) (h : writeArtifacts directory generator artifacts w = .ok count v)
    (hnamed : named generator w.tokens artifacts = before ++ (name, artifact) :: after)
    (hlast : ∀ later ∈ after, later.1.asName ≠ name.asName)
    (hlog : ¬w.Logs (directory.placeFrom w.files.workingDirectory ++ [name.asName])) :
    ∃ (u : World) (bytes : List UInt8), u.files.workingDirectory = w.files.workingDirectory ∧
      v.files.workingDirectory = w.files.workingDirectory ∧
      (∀ x, w.files.lookup x = some .directory → v.files.lookup x = some .directory) ∧
      u.files.fileRoute (directory.child name) = .ok (directory.placeFrom w.files.workingDirectory ++ [name.asName]) ∧
      artifact.text.encode = .ok bytes ∧
      v.files.lookup (directory.placeFrom w.files.workingDirectory ++ [name.asName]) = some (.file (.bytes bytes)) := by
  obtain ⟨-, u₀, hmade, hall⟩ := writeArtifacts_eq_ok h
  obtain ⟨hu₀, hprepared, -⟩ := makeDirectory_eq_ok hmade
  have hopen := logOpen_of_makeDirectory hw hmade
  have htokens : u₀.tokens = w.tokens := (congrArg tokens hu₀ :)
  have hlogging : u₀.logging = w.logging := (congrArg logging hu₀ :)
  have hdelivered := delivered_of_writeAll hopen hall
  rw [hprepared.workingDirectory, htokens] at hdelivered
  obtain ⟨bytes, hbytes, hfile⟩ := hdelivered.last before name artifact after hnamed hlast
    fun hl => hlog ((logs_congr hlogging _).mp hl)
  have hmember : (name, artifact) ∈ named generator w.tokens artifacts := by
    rw [hnamed]
    exact List.mem_append_right _ List.mem_cons_self
  obtain ⟨u, hu, hroute⟩ := fileRoute_of_writeAll hopen hall (htokens ▸ hmember)
  rw [hprepared.workingDirectory] at hu hroute
  have hwritten : Written (writesOf directory generator artifacts u₀) u₀ _ := written_writeAll artifacts hopen
  rw [Act.after_of_ok hall] at hwritten
  refine ⟨u, bytes, hu, hwritten.workingDirectory.trans hprepared.workingDirectory, fun x hx => ?_, hroute, hbytes, hfile⟩
  exact hwritten.directory hopen (fun write hm => (mem_writesOf artifacts hopen hm).elim fun _ h => h.2.2)
    (hprepared.lookup_of_isSome hx)

/-- What was written for an artifact is read back under the path of its file, however often, as long as no later artifact
    goes to that file, it is not the log file, and nothing else is done to it: the text with a line feed for each of its
    line ends. Only if the resolved path is too long is it told so instead, which no absolute directory comes to. -/
theorem writeArtifacts_readBack {before after : List (Text × Source)} {name : Text} {artifact : Source} {s : String}
    {count : Nat} (hw : w.LogOpen)
    (hwd : directory.isAbsolute ∨
      w.files.lookup w.files.workingDirectory = some .directory ∧ Route.Plain w.files.workingDirectory)
    (h : writeArtifacts directory generator artifacts w = .ok count v)
    (hnamed : named generator w.tokens artifacts = before ++ (name, artifact) :: after)
    (hlast : ∀ later ∈ after, later.1.asName ≠ name.asName)
    (hlog : ¬w.Logs (directory.placeFrom w.files.workingDirectory ++ [name.asName]))
    (htext : artifact.text = Text.ofString s) :
    (∀ cut, Artifact.fileName? artifact.path = some cut → name = cut) ∧
    ∃ text : AdditionalText, AdditionalText.ofPath v.files (directory.child name) = .ok text ∧
      (directory.isAbsolute → FileTree.byteCount text.path < FileTree.pathBound) ∧
      ((∀ c ∈ s.toList, c ≠ '\r') → Text.ofChars ((Text.joinPairs s.toList).map Text.feed) = Text.ofString s) ∧
      ∀ u : World, u.files.lookup (directory.placeFrom w.files.workingDirectory ++ [name.asName]) =
          v.files.lookup (directory.placeFrom w.files.workingDirectory ++ [name.asName]) →
        ask (text.content ·) u =
          if FileTree.byteCount text.path < FileTree.pathBound then
            .ok (Text.ofChars ((Text.joinPairs s.toList).map Text.feed)) u
          else .error (.os .nameTooLong text.path) u := by
  obtain ⟨u₁, bytes, hu₁, hv, hdirectories, hroute, hbytes, hfile⟩ := stored_of_writeArtifacts hw h hnamed hlast hlog
  obtain ⟨encoded, hencoded, hdecoded⟩ := Text.decode_encode s
  rw [htext, hencoded] at hbytes
  obtain rfl := Except.ok.inj hbytes
  have hmember : (name, artifact) ∈ named generator w.tokens artifacts := by
    rw [hnamed]
    exact List.mem_append_right _ List.mem_cons_self
  -- The file was opened under its path, so the resolved path leads to it if it is not too long.
  have hplain : (directory.child name).isAbsolute ∨ Route.Plain u₁.files.workingDirectory := by
    rw [hu₁]
    exact hwd.imp_right And.right
  have hstart : v.files.lookup (v.files.start (directory.child name)) = some .directory := by
    refine FileTree.checkStart_eq_ok.mp ?_
    rcases hwd with habsolute | ⟨hdirectory, -⟩
    · exact FileTree.checkStart_of_absolute habsolute _
    · exact FileTree.checkStart_of_directory (hv.symm ▸ hdirectories _ hdirectory) _
  obtain ⟨⟨written, hpath⟩, e, hlocate, -⟩ := FileTree.locate_of_fileRoute hroute
  refine ⟨fun cut hcut => Artifact.eq_of_mem_named hcut hmember,
    .file (.ofRoute ((directory.child name).route u₁.files.workingDirectory)), ?_, fun habsolute => ?_, fun hs => ?_,
    fun u hu => ?_⟩
  · rw [AdditionalText.ofPath, FileTree.resolve_ok hpath hstart, hv, ← hu₁]
    rfl
  · exact Nat.lt_of_le_of_lt (FileTree.byteCount_resolved_le hpath habsolute _) (FileTree.byteCount_le_of_locate hlocate).1
  · rw [Text.joinPairs_of_forall_ne hs, Text.ofString]
  · have hread := FileTree.readText_resolved hroute hplain (hu.trans hfile) hdecoded
    rw [AdditionalText.path]
    split
    · next hshort =>
      rw [if_pos hshort] at hread
      refine ask_of_ok ?_
      rw [AdditionalText.content, hread, ← Text.ofString_unifyNewlines]
      rfl
    · next hlong =>
      rw [if_neg hlong] at hread
      refine ask_of_error ?_
      rw [AdditionalText.content, hread]
      rfl

theorem writeArtifacts_readBack_lineEnds :
    ∃ v text, writeArtifacts (.ofText "/out") "G" [⟨"f", "a\r\nb\r"⟩, ⟨"g", ""⟩] (new default default) = .ok 2 v ∧
      AdditionalText.ofPath v.files ((Path.ofText "/out").child "f") = .ok text ∧
      ask (text.content ·) v = .ok "a\nb\n" v := by
  have hreturns : (match writeArtifacts (.ofText "/out") "G" [⟨"f", "a\r\nb\r"⟩, ⟨"g", ""⟩] (new default default) with
    | .ok count _ => some count
    | .error _ _ => none) = some 2 := by decide +kernel
  cases h : writeArtifacts (.ofText "/out") "G" [⟨"f", "a\r\nb\r"⟩, ⟨"g", ""⟩] (new default default) with
  | error e v =>
    rw [h] at hreturns
    cases hreturns
  | ok count v =>
    rw [h] at hreturns
    obtain rfl := Option.some.inj hreturns
    have hnoLog : ∀ x, ¬(new default default).Logs x := fun _ ⟨_, hf, _⟩ => nomatch hf
    have hnamed : named "G" 0 [⟨"f", "a\r\nb\r"⟩, ⟨"g", ""⟩] =
        [] ++ (("f", ⟨"f", "a\r\nb\r"⟩) :: [("g", ⟨"g", ""⟩)] : List (Text × Source)) := by decide
    obtain ⟨-, text, htext, hshort, -, hread⟩ := writeArtifacts_readBack (logOpen_new _ _) (Or.inl rfl) h hnamed
      (by decide) (hnoLog _) rfl
    have habsolute : (Path.ofText "/out").isAbsolute := by decide +kernel
    have hlines : Text.ofChars ((Text.joinPairs "a\r\nb\r".toList).map Text.feed) = ("a\nb\n" : Text) := by decide +kernel
    refine ⟨v, text, rfl, htext, ?_⟩
    rw [hread v rfl, if_pos (hshort habsolute), hlines]

/-- What is read back under a name once artifacts were written into a directory, if they were and there is a text. -/
def readBack? (directory : Path) (artifacts : List Source) (name : Text) (w : World) : Option Text :=
  match writeArtifacts directory "G" artifacts w with
  | .ok _ v => (AdditionalText.ofPath v.files (directory.child name) >>= (·.content v.files)).toOption
  | .error _ _ => none

/-- A name whose halves are the bytes of another one. -/
def halvedName : Text := ⟨[.ofCode 0xDCC3, .ofCode 0xDCA9]⟩

/-- A world whose log goes to a file in the directory for artifacts. -/
def loggedInto : World :=
  { new ⟨[], [("out", .directory [("f", .file (.bytes [])), ("g", .file (.bytes []))])]⟩ default with
    logging := ⟨Level.debug, none, some ⟨Level.debug, ["out", "f"]⟩⟩ }

theorem readBack?_otherwise :
    Artifact.fileName? "é" = some "é" ∧ Artifact.fileName? halvedName = some halvedName ∧ halvedName ≠ "é" ∧
      readBack? (.ofText "out") [⟨"é", "one"⟩, ⟨halvedName, "two"⟩] "é" (new default default) = some "two" ∧
      readBack? (.ofText "out") [⟨"f", "one"⟩, ⟨"g", "two"⟩] "f" loggedInto =
        some "one1970-01-01 00:00:00 DEBUG genharness.core.services.writer:0 — Overwriting out/g\n" := by
  decide +kernel

end World
end GeneratorHost
