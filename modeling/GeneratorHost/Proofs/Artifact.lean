import GeneratorHost.Artifact
import GeneratorHost.Path
import GeneratorHost.Proofs.Split
import GeneratorHost.Proofs.Text.Blank
import GeneratorHost.Proofs.Text.Hexadecimal
import GeneratorHost.Proofs.Text.Name

/-! The names of artifacts. Whatever a document's path is and whatever the class of its generator is called, the name
    of its file leads to one entry of the output directory, and cutting the name from it again leaves it as it is. -/

namespace GeneratorHost
namespace Artifact

open Text (IsEntryName)

/-- A name that leads to one entry of a directory, with whichever separator paths are written, and that no white space
    surrounds. -/
structure IsSegment (name : Text) : Prop extends name.IsEntryName where
  no_separator : ∀ l ∈ name.letters, ¬isSeparator l
  first : ∀ l, name.letters.head? = some l → ¬Text.isBlank l
  last : ∀ l, name.letters.getLast? = some l → ¬Text.isBlank l

/-! ### Names that are cut from paths -/

theorem isUsable_iff {name : Text} : isUsable name ↔ name ≠ "" ∧ name ≠ "." ∧ name ≠ ".." := by
  simp only [isUsable, Bool.and_eq_true, bne_iff_ne, and_assoc]

theorem fileName?_eq_some {path name : Text} : fileName? path = some name ↔
    name = Text.strip ⟨Text.lastPiece isSeparator path.letters⟩ ∧ name ≠ "" ∧ name ≠ "." ∧ name ≠ ".." := by
  rw [fileName?, Option.ite_none_right_eq_some, isUsable_iff, Option.some.injEq]
  constructor
  · rintro ⟨hu, rfl⟩
    exact ⟨rfl, hu⟩
  · rintro ⟨rfl, hu⟩
    exact ⟨hu, rfl⟩

theorem isSegment_of_fileName? {path name : Text} (h : fileName? path = some name) : IsSegment name := by
  obtain ⟨rfl, hne, hdot, hdots⟩ := fileName?_eq_some.mp h
  have hnone : ∀ l ∈ (Text.strip ⟨Text.lastPiece isSeparator path.letters⟩).letters, ¬isSeparator l :=
    fun l hl => Text.not_of_mem_lastPiece l (Text.mem_of_mem_trimWhere hl)
  exact ⟨⟨hne, hdot, hdots, fun hs => hnone _ hs (by decide)⟩, hnone, fun _ => Text.not_of_head?_trimWhere,
    fun _ => Text.not_of_getLast?_trimWhere⟩

/-- A name is cut from itself. -/
theorem IsSegment.fileName?_eq {name : Text} (h : IsSegment name) : fileName? name = some name := by
  have hstrip : name = Text.strip ⟨Text.lastPiece isSeparator name.letters⟩ := by
    rw [Text.lastPiece_of_forall_not h.no_separator, Text.strip, Text.trimWhere_of_ends h.first h.last]
  exact fileName?_eq_some.mpr ⟨hstrip, h.ne_empty, h.ne_dot, h.ne_dots⟩

/-! ### Names that are made up -/

/-- A text behind an entry's name makes another one, if it holds no slash. -/
theorem isEntryName_append {name rest : Text} (h : name.IsEntryName) (hs : .char '/' ∉ rest.letters) :
    (name ++ rest).IsEntryName := by
  have hletters : (name ++ rest).letters = name.letters ++ rest.letters := rfl
  -- Only the empty name and those of dots are beginnings of two dots.
  have hstart : ¬name.letters <+: [.char '.', .char '.'] := by
    intro hp
    rcases List.prefix_cons_iff.mp hp with hn | ⟨tail, hn, htail⟩
    · exact h.ne_empty (congrArg Text.mk hn)
    · rcases List.prefix_cons_iff.mp htail with rfl | ⟨more, rfl, hmore⟩
      · exact h.ne_dot (congrArg Text.mk hn)
      · obtain rfl := List.prefix_nil.mp hmore
        exact h.ne_dots (congrArg Text.mk hn)
  have hne : ∀ other : Text, other.letters <+: [.char '.', .char '.'] → name ++ rest ≠ other := by
    rintro _ ho rfl
    rw [hletters] at ho
    exact hstart ((List.prefix_append _ _).trans ho)
  refine ⟨hne _ (by decide), hne _ (by decide), hne _ (by decide), ?_⟩
  rw [hletters, List.mem_append, not_or]
  exact ⟨h.no_slash, hs⟩

theorem isSegment_append {name : Text} (h : IsSegment name) (rest : Text) (hs : ∀ l ∈ rest.letters, ¬isSeparator l)
    (hl : ∀ l, rest.letters.getLast? = some l → ¬Text.isBlank l) : IsSegment (name ++ rest) := by
  have hletters : (name ++ rest).letters = name.letters ++ rest.letters := rfl
  refine ⟨isEntryName_append h.toIsEntryName fun hm => hs _ hm (by decide), fun l hm => ?_, fun l hf => ?_,
    fun l hlast => ?_⟩
  · rcases List.mem_append.mp (hletters ▸ hm) with hm | hm
    · exact h.no_separator l hm
    · exact hs l hm
  · obtain ⟨first, others, hn⟩ := List.exists_cons_of_ne_nil fun hn => h.ne_empty (congrArg Text.mk hn)
    rw [hletters, hn] at hf
    exact h.first l (hn ▸ hf)
  · rw [hletters, List.getLast?_append] at hlast
    cases hr : rest.letters.getLast? with
    | none =>
      rw [hr, Option.none_or] at hlast
      exact h.last l hlast
    | some l' =>
      rw [hr, Option.some_or] at hlast
      exact Option.some.inj hlast ▸ hl l' hr

/-- No letter of a number in hexadecimal digits separates names or is white space. -/
theorem plain_of_mem_hexPadded {width n : Nat} {l : Letter} (h : l ∈ (Text.ofString (Text.hexPadded width n)).letters) :
    ¬isSeparator l ∧ ¬Text.isBlank l := by
  obtain ⟨d, hd, rfl⟩ := Text.mem_hexPadded h
  have hdigits : ∀ d < 16, ¬isSeparator (.char d.digitChar) ∧ ¬Text.isBlank (.char d.digitChar) := by decide
  exact hdigits d hd

theorem isSegment_synthesize (generator : Text) (token : Nat) : IsSegment (synthesize generator token) := by
  have hstart : IsSegment ((fileName? generator).getD "generator") := by
    cases h : fileName? generator with
    | none => exact ⟨⟨by decide, by decide, by decide, by decide⟩, by decide, by decide, by decide⟩
    | some name => exact isSegment_of_fileName? h
  have hmark := isSegment_append hstart "_" (by decide) (by decide)
  have htoken := isSegment_append hmark (Text.hexPadded 32 token) (fun _ hl => (plain_of_mem_hexPadded hl).1)
    fun _ hl => (plain_of_mem_hexPadded (List.mem_of_getLast? hl)).2
  exact isSegment_append htoken suffix (by decide) (by decide)

/-! ### Names in a row -/

/-- The name of a document's file when `issued` tokens were given out before, and how many are then. -/
def nameOf (generator : Text) (issued : Nat) (artifact : Source) : Text × Nat :=
  match fileName? artifact.path with
  | some name => (name, issued)
  | none => (synthesize generator (issued + 1), issued + 1)

/-- The names of the files of documents. -/
def namesOf (generator : Text) (issued : Nat) : List Source → List Text
  | [] => []
  | artifact :: artifacts =>
    (nameOf generator issued artifact).1 :: namesOf generator (nameOf generator issued artifact).2 artifacts

/-- Whatever a document is called, its file is an entry of the directory. -/
theorem isEntryName_nameOf (generator : Text) (issued : Nat) (artifact : Source) :
    (nameOf generator issued artifact).1.IsEntryName := by
  unfold nameOf
  cases h : fileName? artifact.path with
  | some name => exact (isSegment_of_fileName? h).toIsEntryName
  | none => exact (isSegment_synthesize generator (issued + 1)).toIsEntryName

end Artifact
end GeneratorHost
