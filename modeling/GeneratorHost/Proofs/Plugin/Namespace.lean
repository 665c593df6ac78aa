import GeneratorHost.Plugin.Class
import GeneratorHost.Proofs.Precedes
import Mathlib.Data.List.Induction

/-! The names of a namespace and the classes that they are bound to. A name is bound once, a class that several names
    are bound to is listed once, and the classes are listed in the order of the first of their names. -/

namespace GeneratorHost
namespace Plugin

theorem Binding.class?_eq_some {b : Binding} {c : Class} : b.class? = some c ↔ b = .class c := by
  cases b <;> simp [Binding.class?]

namespace Namespace

variable {n : Namespace} {name : Text} {b : Binding} {c : Class}

def names (n : Namespace) : List Text := n.map (·.1)

/-- Binds names, one after the other. -/
def bindEach (bs : List (Text × Binding)) (n : Namespace) : Namespace :=
  bs.foldl (fun n entry => Namespace.bind entry.1 entry.2 n) n

/-! ### Names -/

theorem names_concat (n : Namespace) (entry : Text × Binding) : names (n ++ [entry]) = names n ++ [entry.1] := by
  simp [names]

theorem mem_names_of_mem (h : (name, b) ∈ n) : name ∈ n.names := List.mem_map.mpr ⟨_, h, rfl⟩

/-- A name that is bound already keeps its place; another one comes last. -/
theorem names_bind (name : Text) (b : Binding) (n : Namespace) :
    (n.bind name b).names = if name ∈ n.names then n.names else n.names ++ [name] := by
  induction n with
  | nil => rfl
  | cons entry rest ih =>
    rw [Namespace.bind]
    split
    · next heq => simp [names, heq]
    · next hne =>
      have hmem : name ∈ names (entry :: rest) ↔ name ∈ names rest := by
        simp [names, Ne.symm hne]
      have hcons : names (entry :: Namespace.bind name b rest) = entry.1 :: names (Namespace.bind name b rest) := rfl
      rw [hcons, ih]
      simp only [hmem]
      split <;> rfl

theorem names_unbind (n : Namespace) (name : Text) : (n.unbind name).names = n.names.filter (· != name) := by
  simp only [names, unbind, List.filter_map]
  rfl

theorem nodup_bind (h : n.names.Nodup) (name : Text) (b : Binding) : (n.bind name b).names.Nodup := by
  rw [names_bind]
  split
  · exact h
  · next hname => exact List.nodup_append.mpr ⟨h, List.pairwise_singleton _ _, by grind⟩

theorem nodup_unbind (h : n.names.Nodup) (name : Text) : (n.unbind name).names.Nodup := by
  rw [names_unbind]
  exact h.filter _

theorem nodup_bindEach (h : n.names.Nodup) (bs : List (Text × Binding)) : (n.bindEach bs).names.Nodup := by
  induction bs generalizing n with
  | nil => exact h
  | cons entry bs ih => exact ih (nodup_bind h entry.1 entry.2)

/-- Binding names takes none away. -/
theorem names_bindEach (bs : List (Text × Binding)) (n : Namespace) :
    ∃ fresh, (n.bindEach bs).names = n.names ++ fresh := by
  induction bs generalizing n with
  | nil => exact ⟨[], (List.append_nil _).symm⟩
  | cons entry bs ih =>
    obtain ⟨fresh, hfresh⟩ := ih (n.bind entry.1 entry.2)
    rw [names_bind] at hfresh
    split at hfresh
    · exact ⟨fresh, hfresh⟩
    · exact ⟨entry.1 :: fresh, hfresh.trans (List.append_assoc _ _ _)⟩

/-! ### Entries -/

theorem mem_of_mem_bind {entry : Text × Binding} (h : entry ∈ n.bind name b) : entry = (name, b) ∨ entry ∈ n := by
  induction n with
  | nil => exact Or.inl (List.mem_singleton.mp h)
  | cons first rest ih =>
    rw [Namespace.bind] at h
    split at h
    · rcases List.mem_cons.mp h with rfl | h
      · exact Or.inl rfl
      · exact Or.inr (List.mem_cons_of_mem _ h)
    · rcases List.mem_cons.mp h with rfl | h
      · exact Or.inr List.mem_cons_self
      · exact (ih h).imp id (List.mem_cons_of_mem _)

theorem mem_of_mem_bindEach {bs : List (Text × Binding)} {entry : Text × Binding} (h : entry ∈ n.bindEach bs) :
    entry ∈ bs ∨ entry ∈ n := by
  induction bs generalizing n with
  | nil => exact Or.inr h
  | cons first bs ih =>
    rcases ih h with h | h
    · exact Or.inl (List.mem_cons_of_mem _ h)
    · rcases mem_of_mem_bind h with rfl | h
      · exact Or.inl List.mem_cons_self
      · exact Or.inr h

theorem mem_of_mem_unbind {entry : Text × Binding} (h : entry ∈ n.unbind name) : entry ∈ n := (List.mem_filter.mp h).1

theorem mem_of_get? (h : n.get? name = some b) : (name, b) ∈ n := by
  obtain ⟨⟨other, b'⟩, hfind, rfl⟩ := Option.map_eq_some_iff.mp h
  have hname := List.find?_some hfind
  obtain rfl := beq_iff_eq.mp hname
  exact List.mem_of_find?_eq_some hfind

theorem get?_eq_some_iff (h : n.names.Nodup) : n.get? name = some b ↔ (name, b) ∈ n := by
  refine ⟨mem_of_get?, fun hmem => ?_⟩
  induction n with
  | nil => cases hmem
  | cons first rest ih =>
    obtain ⟨hfirst, hrest⟩ := List.nodup_cons.mp h
    rcases List.mem_cons.mp hmem with rfl | hmem
    · simp [get?]
    · have hne : first.1 ≠ name := by
        rintro rfl
        exact hfirst (mem_names_of_mem hmem)
      rw [← ih hrest hmem]
      simp [get?, hne]

/-! ### Classes -/

theorem classes_concat (n : Namespace) (entry : Text × Binding) :
    classes (n ++ [entry]) = match entry.2.class? with
      | some c => if n.classes.any (·.stamp == c.stamp) then n.classes else n.classes ++ [c]
      | none => n.classes := by
  rw [classes, List.foldl_append]
  rfl

theorem classes_concat_of_class (n : Namespace) (name : Text) (c : Class) :
    classes (n ++ [(name, .class c)]) =
      if c.stamp ∈ n.classes.map (·.stamp) then n.classes else n.classes ++ [c] := by
  have hany : (n.classes.any (·.stamp == c.stamp)) = true ↔ c.stamp ∈ n.classes.map (·.stamp) := by simp
  rw [classes_concat]
  simp only [Binding.class?, hany]

theorem mem_classes_concat {entry : Text × Binding} (h : c ∈ n.classes) : c ∈ classes (n ++ [entry]) := by
  rw [classes_concat]
  split
  · split
    · exact h
    · exact List.mem_append_left _ h
  · exact h

theorem exists_of_mem_classes (h : c ∈ n.classes) : ∃ name, (name, .class c) ∈ n := by
  induction n using List.reverseRecOn with
  | nil => cases h
  | append_singleton n entry ih =>
    rw [classes_concat] at h
    have hold : c ∈ Namespace.classes n → ∃ name, (name, .class c) ∈ n ++ [entry] := fun h => by
      obtain ⟨name, hname⟩ := ih h
      exact ⟨name, List.mem_append_left _ hname⟩
    cases hclass : entry.2.class? with
    | none => exact hold (by simpa only [hclass] using h)
    | some c' =>
      simp only [hclass] at h
      split at h
      · exact hold h
      · rcases List.mem_append.mp h with h | h
        · exact hold h
        · obtain rfl := List.mem_singleton.mp h
          have hentry : entry = (entry.1, .class c) := by rw [← Binding.class?_eq_some.mp hclass]
          exact ⟨entry.1, List.mem_append_right _ (List.mem_singleton.mpr hentry.symm)⟩

/-- Of the classes with a stamp that is bound, one is listed. -/
theorem stamp_mem_classes (h : (name, .class c) ∈ n) : c.stamp ∈ n.classes.map (·.stamp) := by
  induction n using List.reverseRecOn with
  | nil => cases h
  | append_singleton n entry ih =>
    rcases List.mem_append.mp h with h | h
    · obtain ⟨c', hc', hstamp⟩ := List.mem_map.mp (ih h)
      exact List.mem_map.mpr ⟨c', mem_classes_concat hc', hstamp⟩
    · obtain rfl := List.mem_singleton.mp h
      rw [classes_concat_of_class]
      split
      · assumption
      · simp

theorem nodup_stamp_classes (n : Namespace) : (n.classes.map (·.stamp)).Nodup := by
  induction n using List.reverseRecOn with
  | nil => exact List.nodup_nil
  | append_singleton n entry ih =>
    cases hclass : entry.2.class? with
    | none =>
      rw [classes_concat, hclass]
      exact ih
    | some c =>
      have hentry : entry = (entry.1, .class c) := by rw [← Binding.class?_eq_some.mp hclass]
      rw [hentry, classes_concat_of_class]
      split
      · exact ih
      · next hnew =>
        rw [List.map_append]
        exact List.nodup_append.mpr ⟨ih, List.pairwise_singleton _ _, by grind⟩

/-- Of two classes listed, the first goes by a name that comes before all the names of the second. -/
theorem pairwise_classes (n : Namespace) :
    n.classes.Pairwise fun c₁ c₂ =>
      ∃ first, (first, .class c₁) ∈ n ∧ ∀ name, (name, .class c₂) ∈ n → Precedes n.names first name := by
  induction n using List.reverseRecOn with
  | nil => exact List.Pairwise.nil
  | append_singleton n entry ih =>
    -- A name bound last comes after all the others, whatever it is bound to.
    have hlast : ∀ first ∈ Namespace.names n, Precedes (names (n ++ [entry])) first entry.1 := fun first h => by
      rw [names_concat]
      exact .of_mem_append h (List.mem_singleton_self _)
    have hold : (Namespace.classes n).Pairwise fun c₁ c₂ => ∃ first, (first, .class c₁) ∈ n ++ [entry] ∧
        ∀ name, (name, .class c₂) ∈ n ++ [entry] → Precedes (names (n ++ [entry])) first name := by
      refine ih.imp ?_
      rintro c₁ c₂ ⟨first, hfirst, hbefore⟩
      refine ⟨first, List.mem_append_left _ hfirst, fun name hname => ?_⟩
      rcases List.mem_append.mp hname with hname | hname
      · rw [names_concat]
        exact (hbefore name hname).of_sublist (List.sublist_append_left _ _)
      · obtain rfl := List.mem_singleton.mp hname
        exact hlast first (mem_names_of_mem hfirst)
    cases hclass : entry.2.class? with
    | none =>
      rw [classes_concat, hclass]
      exact hold
    | some c =>
      have hentry : entry = (entry.1, .class c) := by rw [← Binding.class?_eq_some.mp hclass]
      have hclasses := classes_concat_of_class n entry.1 c
      rw [← hentry] at hclasses
      rw [hclasses]
      split
      · exact hold
      · next hnew =>
        refine List.pairwise_append.mpr ⟨hold, List.pairwise_singleton _ _, fun c₁ hc₁ c₂ hc₂ => ?_⟩
        obtain rfl := List.mem_singleton.mp hc₂
        obtain ⟨first, hfirst⟩ := exists_of_mem_classes hc₁
        refine ⟨first, List.mem_append_left _ hfirst, fun name hname => ?_⟩
        rcases List.mem_append.mp hname with hname | hname
        · exact absurd (stamp_mem_classes hname) hnew
        · obtain rfl := List.mem_singleton.mp hname
          exact hlast first (mem_names_of_mem hfirst)

end Namespace
end Plugin
end GeneratorHost
