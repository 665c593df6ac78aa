/-! Which of two members of a list stands before the other. In a list without duplicates, taking members out or putting
    new ones behind it changes nothing about that. -/

namespace GeneratorHost

variable {α : Type} {l l' : List α} {a b : α}

/-- One member of a list stands before another one. -/
def Precedes (l : List α) (a b : α) : Prop := [a, b].Sublist l

namespace Precedes

theorem left_mem (h : Precedes l a b) : a ∈ l := h.subset List.mem_cons_self

theorem right_mem (h : Precedes l a b) : b ∈ l := h.subset (List.mem_cons_of_mem _ List.mem_cons_self)

theorem of_sublist (h : Precedes l a b) (hl : l.Sublist l') : Precedes l' a b := h.trans hl

theorem of_mem_append (ha : a ∈ l) (hb : b ∈ l') : Precedes (l ++ l') a b :=
  (List.singleton_sublist.mpr ha).append (List.singleton_sublist.mpr hb)

theorem cons_iff {x : α} : Precedes (x :: l) a b ↔ Precedes l a b ∨ a = x ∧ b ∈ l := by
  constructor
  · intro h
    cases h with
    | cons _ h => exact Or.inl h
    | cons_cons _ h => exact Or.inr ⟨rfl, List.singleton_sublist.mp h⟩
  · rintro (h | ⟨rfl, hb⟩)
    · exact h.of_sublist (List.sublist_cons_self _ _)
    · exact (List.singleton_sublist.mpr hb).cons_cons a

theorem total (ha : a ∈ l) (hb : b ∈ l) (hne : a ≠ b) : Precedes l a b ∨ Precedes l b a := by
  induction l with
  | nil => cases ha
  | cons x l ih =>
    simp only [cons_iff]
    rcases List.mem_cons.mp ha with rfl | ha'
    · exact Or.inl (Or.inr ⟨rfl, (List.mem_cons.mp hb).resolve_left hne.symm⟩)
    · rcases List.mem_cons.mp hb with rfl | hb'
      · exact Or.inr (Or.inr ⟨rfl, ha'⟩)
      · exact (ih ha' hb').imp Or.inl Or.inl

theorem asymm (h : Precedes l a b) (hl : l.Nodup) : ¬Precedes l b a := by
  induction l with
  | nil => cases h
  | cons x l ih =>
    obtain ⟨hx, hl⟩ := List.nodup_cons.mp hl
    rw [cons_iff] at h ⊢
    rintro (h' | ⟨rfl, ha⟩)
    · rcases h with h | ⟨rfl, -⟩
      · exact ih h hl h'
      · exact hx h'.right_mem
    · rcases h with h | ⟨rfl, hb⟩
      · exact hx h.right_mem
      · exact hx hb

theorem append_iff (hl : (l ++ l').Nodup) (hb : b ∈ l) : Precedes (l ++ l') a b ↔ Precedes l a b := by
  have hold : ∀ {a b}, Precedes l a b → Precedes (l ++ l') a b := fun h =>
    h.of_sublist (List.sublist_append_left _ _)
  refine ⟨fun h => ?_, hold⟩
  rcases List.mem_append.mp h.left_mem with ha | ha
  · have hne : a ≠ b := by
      rintro rfl
      exact h.asymm hl h
    exact (total ha hb hne).resolve_right fun h' => h.asymm hl (hold h')
  · exact absurd (of_mem_append hb ha) (h.asymm hl)

theorem filter_iff {p : α → Bool} (ha : p a) (hb : p b) : Precedes (l.filter p) a b ↔ Precedes l a b := by
  refine ⟨fun h => h.of_sublist List.filter_sublist, fun h => ?_⟩
  have hfilter := List.Sublist.filter p h
  rwa [List.filter_cons_of_pos ha, List.filter_cons_of_pos hb] at hfilter

end Precedes
end GeneratorHost
