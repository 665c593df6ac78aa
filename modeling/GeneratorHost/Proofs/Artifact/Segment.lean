import GeneratorHost.Proofs.Artifact

/-! The names of artifacts as segments of paths. Only what stands behind the last separator counts, and no more than the
    white space around it is taken off. The name that comes out is one step from any directory, and names that are made
    up tell their tokens. -/

namespace GeneratorHost
namespace Artifact

/-- What stands behind the last separator of a path, or all of it. -/
def LastSegment (path segment : Text) : Prop :=
  (∀ l ∈ segment.letters, ¬isSeparator l) ∧
    (path = segment ∨ ∃ front separator, isSeparator separator ∧ path.letters = front ++ separator :: segment.letters)

theorem lastSegment_iff {path segment : Text} :
    LastSegment path segment ↔ segment = ⟨Text.lastPiece isSeparator path.letters⟩ := by
  constructor
  · rintro ⟨hnone, rfl | ⟨front, separator, hs, hpath⟩⟩
    · rw [Text.lastPiece_of_forall_not hnone]
    · rw [hpath, Text.lastPiece_append_separator hs, Text.lastPiece_of_forall_not hnone]
  · rintro rfl
    refine ⟨Text.not_of_mem_lastPiece, ?_⟩
    rcases Text.lastPiece_cases isSeparator path.letters with h | h
    · exact Or.inl (congrArg Text.mk h.symm)
    · exact Or.inr h

theorem fileName?_of_lastSegment {path segment : Text} (h : LastSegment path segment) {name : Text} :
    fileName? path = some name ↔ name = segment.strip ∧ name ≠ "" ∧ name ≠ "." ∧ name ≠ ".." := by
  rw [fileName?_eq_some, ← lastSegment_iff.mp h]

theorem fileName?_eq_none_iff {path segment : Text} (h : LastSegment path segment) :
    fileName? path = none ↔ segment.strip = "" ∨ segment.strip = "." ∨ segment.strip = ".." := by
  rw [Option.eq_none_iff_forall_not_mem]
  constructor
  · intro hnone
    refine Decidable.byContradiction fun hu => ?_
    rw [not_or, not_or] at hu
    exact hnone _ ((fileName?_of_lastSegment h).mpr ⟨rfl, hu⟩)
  · intro hunusable name hname
    obtain ⟨rfl, hne, hdot, hdots⟩ := (fileName?_of_lastSegment h).mp hname
    rcases hunusable with hu | hu | hu
    · exact hne hu
    · exact hdot hu
    · exact hdots hu

/-- What stands in front of a separator makes no difference. -/
theorem fileName?_append {separator : Text} (h : separator = "/" ∨ separator = "\\") (front path : Text) :
    fileName? (front ++ separator ++ path) = fileName? path := by
  obtain ⟨l, hl, hletters⟩ : ∃ l, isSeparator l ∧ separator.letters = [l] := by
    rcases h with rfl | rfl
    · exact ⟨.char '/', by decide, rfl⟩
    · exact ⟨.char '\\', by decide, rfl⟩
  have hwhole : (front ++ separator ++ path).letters = front.letters ++ l :: path.letters := by
    show (front.letters ++ separator.letters) ++ path.letters = _
    rw [hletters, List.append_assoc, List.singleton_append]
  rw [fileName?, fileName?, hwhole, Text.lastPiece_append_separator hl]

/-! ### Names as paths -/

/-- Read as a path, the name of an entry is one step. -/
theorem ofText_of_isEntryName {name : Text} (h : name.IsEntryName) : Path.ofText name = ⟨.relative, [name]⟩ := by
  have hone : Text.splitAt '/' name = [name] := by
    have hnone : ∀ l ∈ name.letters, ¬(l == .char '/') := fun l hl he => h.no_slash (beq_iff_eq.mp he ▸ hl)
    rw [Text.splitAt, Text.splitWhere_of_forall_not hnone]
    rfl
  have hanchor : Path.anchorOf name.letters = .relative := by
    obtain ⟨first, others, hl⟩ := List.exists_cons_of_ne_nil fun hn => h.ne_empty (congrArg Text.mk hn)
    have hplain : ∀ rest, first :: others ≠ .char '/' :: rest := by
      intro rest he
      exact h.no_slash (hl ▸ he ▸ List.mem_cons_self)
    rw [hl, Path.anchorOf]
    · exact fun rest => hplain _
    · exact fun rest => hplain _
    · exact hplain
  have hkept : (name != .empty && name != ".") = true := by
    rw [Bool.and_eq_true, bne_iff_ne, bne_iff_ne]
    exact ⟨h.ne_empty, h.ne_dot⟩
  rw [Path.ofText, hanchor, hone, List.filter_cons, if_pos hkept, List.filter_nil]

theorem join_of_isEntryName (directory : Path) {name : Text} (h : name.IsEntryName) :
    directory.join (Path.ofText name) = directory.child name := by
  rw [ofText_of_isEntryName h]
  rfl

theorem parent_child (directory : Path) (name : Text) : (directory.child name).parent = directory := by
  rw [Path.parent, Path.child, List.dropLast_concat]

/-! ### Tokens -/

/-- The end of a synthesized name. -/
def ending (token : Nat) : List Letter := (Text.ofString (Text.hexPadded 32 token)).letters ++ suffix.letters

theorem letters_synthesize (generator : Text) (token : Nat) : (synthesize generator token).letters =
    ((fileName? generator).getD "generator").letters ++ .char '_' :: ending token := by
  show ((_ ++ [Letter.char '_']) ++ _) ++ suffix.letters = _
  simp [ending]

/-- The token of a name is told by what stands behind the last low line. -/
theorem token_eq {front front' : List Letter} {token token' : Nat}
    (h : front ++ .char '_' :: ending token = front' ++ .char '_' :: ending token') : token = token' := by
  have hnone : ∀ token, ∀ l ∈ ending token, ¬(l == .char '_') := by
    intro token l hl
    rcases List.mem_append.mp hl with hl | hl
    · obtain ⟨d, hd, rfl⟩ := Text.mem_hexPadded hl
      have hdigits : ∀ d < 16, ¬(Letter.char d.digitChar == .char '_') := by decide
      exact hdigits d hd
    · have hsuffix : ∀ l ∈ suffix.letters, ¬(l == .char '_') := by decide
      exact hsuffix l hl
  have hlast := congrArg (Text.lastPiece (· == Letter.char '_')) h
  rw [Text.lastPiece_append_separator (by decide), Text.lastPiece_append_separator (by decide),
    Text.lastPiece_of_forall_not (hnone token), Text.lastPiece_of_forall_not (hnone token')] at hlast
  have hdigits : (Text.ofString (Text.hexPadded 32 token)).letters = (Text.ofString (Text.hexPadded 32 token')).letters :=
    List.append_cancel_right hlast
  exact Text.hexPadded_inj (Text.ofString_inj (Text.ext hdigits))

theorem synthesize_inj {generator generator' : Text} {token token' : Nat}
    (h : synthesize generator token = synthesize generator' token') : token = token' := by
  have hletters := congrArg Text.letters h
  rw [letters_synthesize, letters_synthesize] at hletters
  exact token_eq hletters

/-- The characters that a synthesized name ends in, from the low line on. -/
def mark (token : Nat) : List Char := '_' :: ((Text.hexPadded 32 token).toList ++ ".g.txt".toList)

theorem map_mark (token : Nat) : (mark token).map Letter.char = .char '_' :: ending token := by
  rw [mark, List.map_cons, List.map_append, ending, suffix, Text.letters_ofString, Text.letters_ofString]

theorem lt_of_mem_mark {token : Nat} {c : Char} (h : c ∈ mark token) : c.toNat < 0x80 := by
  rw [mark, List.mem_cons, List.mem_append] at h
  rcases h with rfl | h | h
  · decide
  · have hletter : .char c ∈ (Text.ofString (Text.hexPadded 32 token)).letters := by
      rw [Text.letters_ofString]
      exact List.mem_map_of_mem h
    obtain ⟨d, hd, he⟩ := Text.mem_hexPadded hletter
    have hdigits : ∀ d < 16, (Nat.digitChar d).toNat < 0x80 := by decide
    rw [Letter.char.inj he]
    exact hdigits d hd
  · have hsuffix : (".g.txt".toList.all fun c => decide (c.toNat < 0x80)) = true := by decide
    exact of_decide_eq_true (List.all_eq_true.mp hsuffix c h)

/-- A synthesized name still tells its token when it is read back from the names of files. -/
theorem exists_letters_asName_synthesize (generator : Text) (token : Nat) :
    ∃ front, (synthesize generator token).asName.letters = front ++ .char '_' :: ending token := by
  have hname : synthesize generator token = (fileName? generator).getD "generator" ++ Text.ofChars (mark token) := by
    apply Text.ext
    rw [letters_synthesize, ← map_mark]
    rfl
  rw [hname, ← map_mark]
  exact Text.exists_letters_asName_append _ fun _ => lt_of_mem_mark

theorem asName_synthesize_inj {generator generator' : Text} {token token' : Nat}
    (h : (synthesize generator token).asName = (synthesize generator' token').asName) : token = token' := by
  obtain ⟨front, hfront⟩ := exists_letters_asName_synthesize generator token
  obtain ⟨front', hfront'⟩ := exists_letters_asName_synthesize generator' token'
  have hletters := congrArg Text.letters h
  rw [hfront, hfront'] at hletters
  exact token_eq hletters

/-! ### The laws -/

/-- The name that is cut from a path is the last segment without the white space around it, unless that is empty, one
    dot or two. It names one entry of every directory and is cut from itself. So does every name that is made up, whatever
    the generator is called, and different tokens make different names. -/
theorem fileName?_laws (path : Text) :
    (∀ name, fileName? path = some name → IsSegment name ∧ fileName? name = some name ∧
      ∀ directory : Path, (directory.join (Path.ofText name)).parent = directory ∧
        (directory.join (Path.ofText name)).names = directory.names ++ [name]) ∧
    (∀ front separator : Text, separator = "/" ∨ separator = "\\" →
      fileName? (front ++ separator ++ path) = fileName? path) ∧
    (∃ segment, LastSegment path segment) ∧
    (∀ segment, LastSegment path segment →
      (fileName? path = none ↔ segment.strip = "" ∨ segment.strip = "." ∨ segment.strip = "..") ∧
      ∀ name, fileName? path = some name ↔ name = segment.strip ∧ name ≠ "" ∧ name ≠ "." ∧ name ≠ "..") ∧
    (∀ token, IsSegment (synthesize path token) ∧
      fileName? (synthesize path token) = some (synthesize path token)) ∧
    ∀ token token' generator, synthesize path token = synthesize generator token' → token = token' := by
  refine ⟨fun name h => ?_, fun front separator hs => fileName?_append hs front path, ⟨_, lastSegment_iff.mpr rfl⟩,
    fun segment h => ⟨fileName?_eq_none_iff h, fun name => fileName?_of_lastSegment h⟩, fun token => ?_,
    fun token token' generator => synthesize_inj⟩
  · have hsegment := isSegment_of_fileName? h
    refine ⟨hsegment, hsegment.fileName?_eq, fun directory => ?_⟩
    rw [join_of_isEntryName directory hsegment.toIsEntryName]
    exact ⟨parent_child directory name, rfl⟩
  · have hsegment := isSegment_synthesize path token
    exact ⟨hsegment, hsegment.fileName?_eq⟩

/-- A path that goes back, whose last segment is padded with a blank beyond ASCII. -/
theorem fileName?_laws_padded :
    fileName? "logs/..\\\u00a0 .. report\n" = some ".. report" ∧ IsSegment ".. report" ∧
      fileName? ".. report" = some ".. report" ∧ fileName? ("../" ++ "/" ++ ".. report" : Text) = some ".. report" := by
  have hname : fileName? "logs/..\\\u00a0 .. report\n" = some ".. report" := by decide +kernel
  obtain ⟨hsegment, hself, -⟩ := (fileName?_laws _).1 _ hname
  have hbehind := (fileName?_laws ".. report").2.1 "../" "/" (Or.inl rfl)
  exact ⟨hname, hsegment, hself, hbehind.trans hself⟩

end Artifact
end GeneratorHost
