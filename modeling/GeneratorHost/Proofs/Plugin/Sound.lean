import GeneratorHost.Proofs.Plugin.Course
import Mathlib.Data.List.Nodup

/-! Registries in which a stamp tells a class from every other one. The registry is so at first, and no import changes
    that: a class statement gives its class a stamp that no class had. -/

namespace GeneratorHost
namespace Plugin
namespace Registry

variable {r s : Registry}

/-- Two classes that can be reached have different stamps, every class descends from one that no statement defines, and
    no name is bound twice in a module. -/
structure Sound (r : Registry) : Prop where
  eq_of_stamp : ∀ {c c' : Class}, r.Reachable c → r.Reachable c' → c.stamp = c'.stamp → c = c'
  stamp_lt : ∀ {c : Class}, r.Reachable c → c.stamp < r.nextStamp
  descends : ∀ {c : Class}, r.Reachable c → ∃ ds root, Class.Descends c ds root
  nodup : ∀ m ∈ r.modules, m.bindings.names.Nodup

theorem Reachable.mem_supplied {c : Class} (h : empty.Reachable c) : c ∈ Class.supplied := by
  induction h with
  | supplied h => exact h
  | bound hm h => cases hm
  | member ho h ih => exact absurd h (Class.notMem_members_supplied ih _)

theorem sound_empty : Sound empty where
  eq_of_stamp hc hc' hstamp := by
    have hdistinct : ∀ c ∈ Class.supplied, ∀ c' ∈ Class.supplied, c.stamp = c'.stamp → c = c' := by
      simp [Class.supplied, Class.top, Class.abstractBase, Class.scriptedBase, Class.externalBase, Class.ready, Class.plain]
    exact hdistinct _ hc.mem_supplied _ hc'.mem_supplied hstamp
  stamp_lt hc := by
    have hlt : ∀ c ∈ Class.supplied, c.stamp < Class.firstStamp := by decide
    exact hlt _ hc.mem_supplied
  descends hc := ⟨[], _, .supplied hc.mem_supplied⟩
  nodup m hm := by cases hm

namespace Sound

variable {m : Module} {name moduleName : Text}

/-- New classes have the stamps that come next. -/
theorem of_new (h : Sound r) {new : List Class} (hreach : ∀ c, s.Reachable c → r.Reachable c ∨ c ∈ new)
    (hnew : new.map (·.stamp) = List.range' r.nextStamp new.length) (hstamp : s.nextStamp = r.nextStamp + new.length)
    (hdescends : ∀ c ∈ new, ∃ ds root, Class.Descends c ds root) (hnodup : ∀ m ∈ s.modules, m.bindings.names.Nodup) :
    Sound s := by
  have hmem : ∀ c ∈ new, r.nextStamp ≤ c.stamp ∧ c.stamp < r.nextStamp + new.length := by
    intro c hc
    have hc := List.mem_map_of_mem (f := (·.stamp)) hc
    rw [hnew] at hc
    simpa using List.mem_range'_1.mp hc
  have hinj : ∀ c ∈ new, ∀ c' ∈ new, c.stamp = c'.stamp → c = c' := by
    have hdistinct : (new.map (·.stamp)).Nodup := hnew ▸ List.nodup_range'
    exact fun c hc c' hc' he => List.inj_on_of_nodup_map hdistinct hc hc' he
  have hapart : ∀ {c c' : Class}, r.Reachable c → c' ∈ new → c.stamp ≠ c'.stamp := fun hc hc' =>
    Nat.ne_of_lt (Nat.lt_of_lt_of_le (h.stamp_lt hc) (hmem _ hc').1)
  -- Two old classes, an old one and a new one, or two new ones.
  refine ⟨fun {c c'} hc hc' he => ?_, fun {c} hc => ?_, fun {c} hc => ?_, hnodup⟩
  · rcases hreach c hc with hc | hc <;> rcases hreach c' hc' with hc' | hc'
    · exact h.eq_of_stamp hc hc' he
    · exact absurd he (hapart hc hc')
    · exact absurd he.symm (hapart hc' hc)
    · exact hinj c hc c' hc' he
  · rw [hstamp]
    rcases hreach c hc with hc | hc
    · exact Nat.lt_of_lt_of_le (h.stamp_lt hc) (Nat.le_add_right _ _)
    · exact (hmem c hc).2
  · rcases hreach c hc with hc | hc
    · exact h.descends hc
    · exact hdescends c hc

theorem of_reachable (h : Sound r) (hreach : ∀ c, s.Reachable c → r.Reachable c) (hstamp : s.nextStamp = r.nextStamp)
    (hnodup : ∀ m ∈ s.modules, m.bindings.names.Nodup) : Sound s where
  eq_of_stamp hc hc' he := h.eq_of_stamp (hreach _ hc) (hreach _ hc') he
  stamp_lt hc := hstamp ▸ h.stamp_lt (hreach _ hc)
  descends hc := h.descends (hreach _ hc)
  nodup := hnodup

theorem nodup_withChange (h : Sound r) (ch : Change) :
    ∀ m ∈ (r.withChange moduleName ch).modules, m.bindings.names.Nodup := by
  intro m hm
  rcases mem_withChange hm with hm | ⟨m₀, hm₀, -, rfl⟩
  · exact h.nodup m hm
  · exact ch.nodup_names_apply (h.nodup m₀ hm₀)

theorem withChange (h : Sound r) {ch : Change} (hch : ∀ name c, (name, .class c) ∈ ch.entries → r.Reachable c) :
    Sound (r.withChange moduleName ch) :=
  h.of_reachable (fun _ hc => hc.of_withChange hch) rfl (h.nodup_withChange ch)

theorem withModule (h : Sound r) (hm : m.Bare) : Sound (r.withModule m) := by
  refine h.of_reachable (fun _ hc => hc.of_withModule hm) rfl fun m' hm' => ?_
  rcases List.mem_append.mp hm' with hm' | hm'
  · exact h.nodup m' hm'
  · obtain rfl := List.mem_singleton.mp hm'
    exact hm.nodup

theorem without (h : Sound r) (name : Text) : Sound (r.without name) :=
  h.of_reachable (fun _ hc => hc.of_without) rfl fun m hm => h.nodup m (List.mem_filter.mp hm).1

theorem withClass (h : Sound r) {own owner : Binding} {base : Class} (hown : r.Leads own) (howner : r.Leads owner)
    (hbase : r.Reachable base) (d : ClassStatement) : Sound (r.withClass moduleName own owner base d) := by
  obtain ⟨ds, root, hbase'⟩ := h.descends hbase
  refine h.of_new (fun _ hc => Reachable.of_withClass hown howner hbase hc) ?_ rfl ?_ (h.nodup_withChange _)
  · rw [newClasses]
    split <;> rfl
  · intro c hc
    rw [newClasses] at hc
    rcases List.mem_cons.mp hc with rfl | hc
    · exact ⟨d :: ds, root, hbase'.defined _ _ _⟩
    · split at hc
      · cases hc
      · obtain rfl := List.mem_singleton.mp hc
        exact ⟨[], _, .enclosing _ _ _ _⟩

end Sound

/-- An import keeps the registry sound. -/
theorem Course.sound {top : Text} {loses : Text → Prop} (h : Course top loses r s) (hr : Sound r) : Sound s := by
  induction h with
  | refl r => exact hr
  | trans h h' ih ih' => exact ih' (ih hr)
  | @changed r moduleName ch hmodule hch =>
    refine hr.withChange fun name c hc => ?_
    cases ch with
    | bound bs => exact hch name c hc
    | _ => cases hc
  | defined d hmodule hown howner hbase => exact hr.withClass hown howner hbase d
  | imported hm h ih => exact (ih (hr.withModule hm.bare)).withChange (by simp [Change.entries])
  | refused hm h ih => exact (ih (hr.withModule hm.bare)).without _

end Registry
end Plugin
end GeneratorHost
