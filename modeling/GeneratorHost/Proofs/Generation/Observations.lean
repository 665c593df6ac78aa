import GeneratorHost.Proofs.Generation.Contexts
import GeneratorHost.Proofs.Generation.Output

/-! What a generator observes. The inputs of a run are the same from its beginning to its end, whatever is produced in
    between, and the contexts that the run hands out show no others. Only a context that an earlier run handed out, and
    that a generator kept, shows the inputs of that run, which are the same at all times as well. -/

namespace GeneratorHost

namespace Session

/-- The inputs of an initialization context that is kept under a name. -/
def KeepsInputs (s : Session) (i : Inputs) : Prop :=
  ∃ slot ∈ s.slots, ∃ id c, slot.2 = some id ∧ s.contexts[id]? = some c ∧ c.role.inputs? = some i

end Session

namespace Generation
open Session

variable {inputs : Inputs} {s₀ s t u : Session} {role : Role}

/-- What may be observed in a run that starts from a session: its inputs, or those of contexts that were kept. -/
def Observable (inputs : Inputs) (s₀ : Session) (o : Observation) : Prop :=
  o = observe inputs ∨ ∃ i, s₀.KeepsInputs i ∧ o = observe i

/-- All that was observed between two sessions is among what may be. -/
def Observed (may : Observation → Prop) (s t : Session) : Prop :=
  ∃ notes, t.notes = s.notes ++ notes ∧ ∀ o, .observation o ∈ notes → may o

section Observed
variable {may : Observation → Prop}

theorem observed_of_notes_eq (h : t.notes = s.notes) : Observed may s t :=
  ⟨[], by rw [h, List.append_nil], nofun⟩

theorem Observed.trans (h : Observed may s t) (h' : Observed may t u) : Observed may s u := by
  obtain ⟨notes, hn, hmay⟩ := h
  obtain ⟨more, hm, hmay'⟩ := h'
  refine ⟨notes ++ more, by rw [hm, hn, List.append_assoc], fun o ho => ?_⟩
  rcases List.mem_append.mp ho with ho | ho
  · exact hmay o ho
  · exact hmay' o ho

theorem Observed.mono {shown : Observation → Prop} (h : Observed may s t) (hm : ∀ o, may o → shown o) :
    Observed shown s t := by
  obtain ⟨notes, hn, hmay⟩ := h
  exact ⟨notes, hn, fun o ho => hm o (hmay o ho)⟩

theorem observed_withNote {n : Note} (h : ∀ o, n = .observation o → may o) : Observed may s (s.withNote n) :=
  ⟨[n], rfl, fun o ho => h o (List.mem_singleton.mp ho).symm⟩

end Observed

/-- The contexts that may be in use in a run that starts from a session: those handed out since, and those kept. -/
def Held (s₀ : Session) (context : Option Nat) : Prop :=
  Recent s₀.contexts.length context ∨ ∃ slot ∈ s₀.slots, slot.2 = context

/-- Since a run started from a session it handed out no inputs but its own, and the contexts that were there show what
    they did then. -/
structure Since (inputs : Inputs) (s₀ s : Session) : Prop where
  contexts : s₀.contexts.length ≤ s.contexts.length
  shows : ∀ id c i, s.contexts[id]? = some c → c.role.inputs? = some i →
    (s₀.contexts.length ≤ id ∧ i = inputs) ∨ ∃ c₀, s₀.contexts[id]? = some c₀ ∧ c₀.role.inputs? = some i
  slots : ∀ slot ∈ s.slots, Held s₀ slot.2

theorem Since.start (inputs : Inputs) (s₀ : Session) : Since inputs s₀ s₀ where
  contexts := Nat.le_refl _
  shows _ c _ hc hi := Or.inr ⟨c, hc, hi⟩
  slots slot hslot := Or.inr ⟨slot, hslot, rfl⟩

theorem Since.of_eq (h : Since inputs s₀ s) (hc : t.contexts = s.contexts) (hs : t.slots = s.slots) :
    Since inputs s₀ t where
  contexts := hc ▸ h.contexts
  shows := hc ▸ h.shows
  slots := hs ▸ h.slots

theorem inputs?_of_registers {role' : Role} (h : Registers role role') : role'.inputs? = role.inputs? := by
  obtain ⟨inputs, post, source, script, rfl, rfl | rfl⟩ := h <;> rfl

theorem Since.registered (h : Since inputs s₀ s) {id : Nat} {c : Context} (hc : s.contexts[id]? = some c)
    (hr : Registers c.role role) : Since inputs s₀ (s.withRole id c role) where
  contexts := by simpa [withRole] using h.contexts
  shows id' c' i hc' hi := by
    rw [contexts_withRole hc] at hc'
    split at hc'
    · next he =>
      subst he
      rw [hc', inputs?_of_registers hr] at hi
      exact h.shows _ c i hc hi
    · exact h.shows id' c' i hc' hi
  slots := h.slots

theorem Since.kept (h : Since inputs s₀ s) (name : Text) {context : Option Nat} (hc : Held s₀ context) :
    Since inputs s₀ (s.withSlot name context) where
  contexts := h.contexts
  shows := h.shows
  slots slot hslot := by
    rcases List.mem_cons.mp hslot with rfl | hslot
    · exact hc
    · exact h.slots slot (List.mem_filter.mp hslot).1

theorem Since.opened (h : Since inputs s₀ s) (hr : ∀ i, role.inputs? = some i → i = inputs) :
    Since inputs s₀ (s.withContext role) where
  contexts := by simpa [withContext] using Nat.le_succ_of_le h.contexts
  shows id c i hc hi := by
    rcases contexts_withContext.mp hc with hc | ⟨rfl, rfl⟩
    · exact h.shows id c i hc hi
    · exact Or.inl ⟨h.contexts, hr i hi⟩
  slots := h.slots

theorem Since.closed (h : Since inputs s₀ s) (id : Nat) : Since inputs s₀ (s.withSealed id) where
  contexts := by simpa [withSealed] using h.contexts
  shows id' c i hc hi := by
    obtain ⟨c', hc', he⟩ := contexts_withSealed.mp hc
    refine h.shows id' c' i hc' ?_
    rw [he] at hi
    split at hi <;> exact hi
  slots := h.slots

/-- What is observed is what the contexts in use show. -/
theorem Since.observable (h : Since inputs s₀ s) {id : Nat} {c : Context} {i : Inputs} (hid : Held s₀ (some id))
    (hc : s.contexts[id]? = some c) (hi : c.role.inputs? = some i) : Observable inputs s₀ (observe i) := by
  rcases h.shows id c i hc hi with ⟨-, rfl⟩ | ⟨c₀, hc₀, hi₀⟩
  · exact Or.inl rfl
  · -- The context was there before the run; it can be in use only if it was kept.
    rcases hid with hrecent | ⟨slot, hslot, he⟩
    · exact absurd (lt_of_context hc₀) (Nat.not_lt_of_ge (hrecent id rfl))
    · exact Or.inr ⟨i, ⟨slot, hslot, id, c₀, he, hc₀, hi₀⟩, rfl⟩

theorem observed_law (inputs : Inputs) (s₀ : Session) :
    Law (some inputs) (Since inputs s₀) (Held s₀) fun s _ t => Observed (Observable inputs s₀) s t where
  refl _ := observed_of_notes_eq rfl
  trans := Observed.trans
  slot {s name kept} hs h := by
    obtain ⟨slot, hslot, rfl⟩ := Option.map_eq_some_iff.mp h
    exact hs.slots slot (List.mem_of_find?_eq_some hslot)
  noted hs hn := ⟨hs.of_eq rfl rfl, observed_withNote fun o ho => absurd ho (hn o)⟩
  observed {s i} hs hi := by
    refine ⟨hs.of_eq rfl rfl, observed_withNote fun o ho => ?_⟩
    obtain rfl := Note.observation.inj ho
    rcases hi with he | ⟨id, c, hid, hc, hi⟩
    · obtain rfl := Option.some.inj he
      exact Or.inl rfl
    · exact hs.observable hid hc hi
  kept hs hc := ⟨hs.kept _ hc, observed_of_notes_eq rfl⟩
  registered hs _ hc _ hr := ⟨hs.registered hc hr, observed_of_notes_eq rfl⟩
  added hs _ _ _ _ := ⟨hs.of_eq rfl rfl, observed_of_notes_eq rfl⟩
  reported hs _ _ _ _ := ⟨hs.of_eq rfl rfl, observed_of_notes_eq rfl⟩

/-- Whatever a generator observes in a run, however it ends, are the inputs of that run or those of a context that was
    kept from before. -/
theorem observed_run (files : FileTree) (inputs : Inputs) (script : Script) (s : Session) :
    Observed (Observable inputs s) s ((run files inputs script).after s) := by
  refine (run_law (observed_law inputs s) (fun hr hs => ?_) (fun hs => ?_) rfl ((Since.start inputs s).of_eq rfl rfl)
    script).2
  · exact ⟨hs.opened fun _ => hr.inputs_eq, observed_of_notes_eq rfl, Or.inl fun _ h => Option.some.inj h ▸ hs.contexts⟩
  · exact ⟨hs.closed _, observed_of_notes_eq rfl⟩

theorem observed_execute (files : FileTree) (references : List Reference) (options : Options Text)
    (texts : List AdditionalText) (script : Script) (s : Session) :
    Observed
      (fun o => o = ⟨[.placeholder], references, options.toPairs, texts.map AdditionalText.path, 0⟩ ∨
        ∃ i, s.KeepsInputs i ∧ o = observe i)
      s ((execute files references options texts script).after s) := by
  rcases baseCompilation_cases references s with ⟨e, hb⟩ | ⟨base, hb⟩
  · have h : execute files references options texts script s = .error e s := Act.bind_error hb
    rw [Act.after_of_error h]
    exact observed_of_notes_eq rfl
  · rw [after_execute hb]
    obtain ⟨rfl, -⟩ := baseCompilation_eq_ok hb
    exact observed_run files _ script (s.withStamps 2)

end Generation
end GeneratorHost
