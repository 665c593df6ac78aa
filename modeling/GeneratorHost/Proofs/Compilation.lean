import GeneratorHost.Compilation
import GeneratorHost.Proofs.LastValue

/-! What there is to say about the documents of a compilation: one warning for each document whose path is not empty and was
    that of an earlier one. -/

namespace GeneratorHost
namespace Compilation

/-- The paths that are not empty and stand at an earlier place as well, in order. -/
def repeated (paths : List Text) : List Text :=
  (paths.zipIdx.filter fun entry => entry.1 != ("" : Text) && (paths.take entry.2).contains entry.1).map (·.1)

def named (paths : List Text) : List Text := paths.filter (· != ("" : Text))

/-- The warning about a document whose path was used before. -/
def usedBefore (path : Text) : Diagnostic :=
  ⟨"GH0001", "Document path '" ++ path ++ "' is used by more than one document", .warning, some ⟨path, none⟩⟩

variable {path : Text} {paths : List Text}

/-! ### One path more -/

theorem repeated_concat (paths : List Text) (path : Text) :
    repeated (paths ++ [path]) = repeated paths ++ if path ≠ "" ∧ path ∈ paths then [path] else [] := by
  have hbefore : ∀ entry ∈ paths.zipIdx, (paths ++ [path]).take entry.2 = paths.take entry.2 := by
    intro entry h
    exact List.take_append_of_le_length (Nat.le_of_lt (by simpa using List.snd_lt_of_mem_zipIdx h))
  have hfilter : paths.zipIdx.filter
      (fun entry => entry.1 != ("" : Text) && ((paths ++ [path]).take entry.2).contains entry.1) =
      paths.zipIdx.filter fun entry => entry.1 != ("" : Text) && (paths.take entry.2).contains entry.1 :=
    List.filter_congr fun entry h => by rw [hbefore entry h]
  rw [repeated, List.zipIdx_append, List.filter_append, hfilter, List.map_append, ← repeated]
  congr 1
  by_cases hp : path = ""
  · simp [hp]
  · by_cases hm : path ∈ paths <;> simp [hp, hm]

theorem repeated_cons_empty (paths : List Text) : repeated ("" :: paths) = repeated paths := by
  induction paths using List.reverseRecOn with
  | nil => rfl
  | append_singleton paths path ih =>
    rw [← List.cons_append, repeated_concat, repeated_concat, ih]
    congr 1
    refine if_congr (and_congr_right fun hp => ?_) rfl rfl
    rw [List.mem_cons, or_iff_right hp]

theorem named_concat (paths : List Text) (path : Text) :
    named (paths ++ [path]) = named paths ++ if path ≠ "" then [path] else [] := by
  rw [named, List.filter_append, ← named]
  by_cases hp : path = "" <;> simp [hp]

theorem mem_named (hp : path ≠ "") : path ∈ named paths ↔ path ∈ paths := by simp [named, hp]

theorem duplicatePaths_cons (seen : List Text) (path : Text) (paths : List Text) : duplicatePaths seen (path :: paths) =
    (if path ≠ "" ∧ path ∈ seen then [usedBefore path] else []) ++
      duplicatePaths (if path = "" then seen else path :: seen) paths := by
  rw [duplicatePaths]
  by_cases hp : path = ""
  · simp [hp]
  · by_cases hs : path ∈ seen
    · simp [hp, hs]
      rfl
    · simp [hp, hs]

/-- The paths that were seen are those of the documents before. -/
theorem duplicatePaths_concat (seen paths : List Text) (path : Text) : duplicatePaths seen (paths ++ [path]) =
    duplicatePaths seen paths ++ if path ≠ "" ∧ (path ∈ seen ∨ path ∈ paths) then [usedBefore path] else [] := by
  induction paths generalizing seen with
  | nil => simp [duplicatePaths_cons, duplicatePaths]
  | cons first paths ih =>
    rw [List.cons_append, duplicatePaths_cons, duplicatePaths_cons, ih, List.append_assoc]
    congr 2
    refine if_congr (and_congr_right fun hp => ?_) rfl rfl
    by_cases hf : first = ""
    · have hne : path ≠ first := fun he => hp (he.trans hf)
      rw [if_pos hf, List.mem_cons, or_iff_right hne]
    · rw [if_neg hf, List.mem_cons, List.mem_cons]
      tauto

/-! ### All of them -/

theorem diagnostics_eq (c : Compilation) :
    c.diagnostics = (repeated (c.documents.map (·.source.path))).map usedBefore := by
  rw [diagnostics]
  induction c.documents.map (·.source.path) using List.reverseRecOn with
  | nil => rfl
  | append_singleton paths path ih =>
    rw [duplicatePaths_concat, repeated_concat, List.map_append, ih]
    by_cases hp : path = "" <;> by_cases hm : path ∈ paths <;> simp [hp, hm]

/-- Each document with a path is warned about, or it is the first of its path. -/
theorem length_repeated (paths : List Text) :
    (repeated paths).length + (named paths).eraseDups.length = (named paths).length := by
  induction paths using List.reverseRecOn with
  | nil => rfl
  | append_singleton paths path ih =>
    rw [repeated_concat, named_concat]
    by_cases hp : path = ""
    · simpa [hp] using ih
    · rw [if_pos hp, eraseDups_concat, if_congr (mem_named hp) rfl rfl]
      by_cases h : path ∈ paths
      · rw [if_pos ⟨hp, h⟩, if_pos h]
        simp only [List.length_append, List.length_singleton]
        omega
      · rw [if_neg fun hr => h hr.2, if_neg h]
        simp only [List.length_append, List.length_singleton, List.length_nil]
        omega

theorem repeated_eq_nil_iff (paths : List Text) : repeated paths = [] ↔ (named paths).Nodup := by
  induction paths using List.reverseRecOn with
  | nil => exact iff_of_true rfl List.nodup_nil
  | append_singleton paths path ih =>
    rw [repeated_concat, named_concat, List.append_eq_nil_iff, ih]
    by_cases hp : path = ""
    · simp [hp]
    · rw [if_pos hp, ← List.concat_eq_append, List.nodup_concat, mem_named hp]
      by_cases h : path ∈ paths <;> simp [hp, h]

end Compilation
end GeneratorHost
