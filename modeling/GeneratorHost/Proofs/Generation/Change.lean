import GeneratorHost.Proofs.Generation.Phases

/-! What can happen while a generator is run, one change after the other. A context is opened for every call of the
    generator and sealed when that call is over; in between the generator uses the contexts that it holds. What one change
    keeps is said here, and what every course of changes keeps follows from it. -/

namespace GeneratorHost

namespace Role

/-- The role with one more callback of a kind, if it has callbacks of that kind. -/
def extended (role : Role) (method : Method) (script : Script) : Role :=
  match role, method with
  | initialization inputs post source, .registerPost => initialization inputs (post ++ [script]) source
  | initialization inputs post source, .registerSource => initialization inputs post (source ++ [script])
  | role, _ => role

theorem sink?_extended (role : Role) (method : Method) (script : Script) :
    (role.extended method script).sink? = role.sink? := by
  cases role <;> cases method <;> rfl

end Role

namespace Session

variable {s t u : Session} {id : Nat} {c : Context}

/-- A context can be used. -/
def IsOpen (s : Session) (id : Nat) : Prop := ∃ c : Context, s.contexts[id]? = some c ∧ c.isSealed = false

/-- Every context writes to a sink that is there. -/
def Sound (s : Session) : Prop :=
  ∀ (id : Nat) (c : Context) (sink : Nat), s.contexts[id]? = some c → c.role.sink? = some sink → sink < s.sinks.length

/-- A sealed context stays as it is, and no context comes to write to another sink. -/
structure Keeps (s t : Session) : Prop where
  sealed : ∀ (id : Nat) (c : Context), s.contexts[id]? = some c → c.isSealed = true → t.contexts[id]? = some c
  sinks : ∀ (id : Nat) (c : Context), s.contexts[id]? = some c →
    ∃ c' : Context, t.contexts[id]? = some c' ∧ c'.role.sink? = c.role.sink?

theorem Keeps.of_contexts_eq (h : t.contexts = s.contexts) : Keeps s t where
  sealed _ _ hc _ := h ▸ hc
  sinks _ c hc := ⟨c, h ▸ hc, rfl⟩

theorem Keeps.trans (h : Keeps s t) (h' : Keeps t u) : Keeps s u where
  sealed id c hc hs := h'.sealed id c (h.sealed id c hc hs) hs
  sinks id c hc := by
    obtain ⟨c₁, hc₁, hs₁⟩ := h.sinks id c hc
    obtain ⟨c₂, hc₂, hs₂⟩ := h'.sinks id c₁ hc₁
    exact ⟨c₂, hc₂, hs₂.trans hs₁⟩

/-! ### Contexts after a change -/

theorem lt_of_context (h : s.contexts[id]? = some c) : id < s.contexts.length :=
  (List.getElem?_eq_some_iff.mp h).1

theorem contexts_withContext {role : Role} :
    (s.withContext role).contexts[id]? = some c ↔
      s.contexts[id]? = some c ∨ id = s.contexts.length ∧ c = ⟨role, false⟩ := by
  simp only [withContext, List.getElem?_append, List.getElem?_singleton]
  rcases Nat.lt_trichotomy id s.contexts.length with h | rfl | h
  · simp [h, Nat.ne_of_lt h]
  · simp [eq_comm]
  · have hlate : ¬id < s.contexts.length := Nat.not_lt_of_gt h
    have hpast : id - s.contexts.length ≠ 0 := Nat.sub_ne_zero_of_lt h
    simp [hlate, hpast, Nat.ne_of_gt h]

theorem contexts_withSealed {i : Nat} :
    (s.withSealed i).contexts[id]? = some c ↔
      ∃ c₀, s.contexts[id]? = some c₀ ∧ c = if i = id then { c₀ with isSealed := true } else c₀ := by
  rw [withSealed, List.getElem?_modify, Option.map_eq_map, Option.map_eq_some_iff]
  constructor
  · rintro ⟨c₀, hc, rfl⟩
    exact ⟨c₀, hc, by split <;> rfl⟩
  · rintro ⟨c₀, hc, rfl⟩
    exact ⟨c₀, hc, by split <;> rfl⟩

theorem contexts_withRole {i : Nat} {c₁ : Context} (h : s.contexts[i]? = some c₁) (role : Role) :
    (s.withRole i c₁ role).contexts[id]? = some c ↔
      if i = id then c = { c₁ with role } else s.contexts[id]? = some c := by
  simp only [withRole, List.getElem?_set]
  split
  · simp [lt_of_context h, eq_comm]
  · rfl

theorem isOpen_withContext {role : Role} : (s.withContext role).IsOpen id ↔ s.IsOpen id ∨ id = s.contexts.length := by
  constructor
  · rintro ⟨c, hc, ho⟩
    rcases contexts_withContext.mp hc with hc | ⟨rfl, -⟩
    · exact Or.inl ⟨c, hc, ho⟩
    · exact Or.inr rfl
  · rintro (⟨c, hc, ho⟩ | rfl)
    · exact ⟨c, contexts_withContext.mpr (Or.inl hc), ho⟩
    · exact ⟨_, contexts_withContext.mpr (Or.inr ⟨rfl, rfl⟩), rfl⟩

theorem isOpen_withSealed {i : Nat} : (s.withSealed i).IsOpen id ↔ s.IsOpen id ∧ i ≠ id := by
  constructor
  · rintro ⟨c, hc, ho⟩
    obtain ⟨c₀, hc₀, rfl⟩ := contexts_withSealed.mp hc
    split at ho
    · cases ho
    · next hne => exact ⟨⟨c₀, hc₀, ho⟩, hne⟩
  · rintro ⟨⟨c, hc, ho⟩, hne⟩
    exact ⟨c, contexts_withSealed.mpr ⟨c, hc, (if_neg hne).symm⟩, ho⟩

theorem isOpen_withRole {i : Nat} {c₁ : Context} (h : s.contexts[i]? = some c₁) (role : Role) :
    (s.withRole i c₁ role).IsOpen id ↔ s.IsOpen id := by
  by_cases he : i = id
  · subst he
    simp [IsOpen, contexts_withRole h, h]
  · simp [IsOpen, contexts_withRole h, he]

theorem keeps_withContext (s : Session) (role : Role) : Keeps s (s.withContext role) where
  sealed _ _ hc _ := contexts_withContext.mpr (Or.inl hc)
  sinks _ c hc := ⟨c, contexts_withContext.mpr (Or.inl hc), rfl⟩

theorem keeps_withSealed (s : Session) (i : Nat) : Keeps s (s.withSealed i) where
  sealed id c hc hs := by
    refine contexts_withSealed.mpr ⟨c, hc, ?_⟩
    split
    · rw [← hs]
    · rfl
  sinks id c hc := ⟨_, contexts_withSealed.mpr ⟨c, hc, rfl⟩, by split <;> rfl⟩

/-- A context that is given another role is open, so no sealed one changes. -/
theorem keeps_withRole {i : Nat} (h : s.contexts[i]? = some c) (ho : c.isSealed = false) {role : Role}
    (hr : role.sink? = c.role.sink?) : Keeps s (s.withRole i c role) where
  sealed id c' hc hs := by
    refine (contexts_withRole h role).mpr ?_
    split
    · next he =>
      subst he
      obtain rfl := Option.some.inj (h.symm.trans hc)
      rw [ho] at hs
      cases hs
    · exact hc
  sinks id c' hc := by
    by_cases he : i = id
    · subst he
      obtain rfl := Option.some.inj (h.symm.trans hc)
      exact ⟨_, (contexts_withRole h role).mpr (by rw [if_pos rfl]), hr⟩
    · exact ⟨c', (contexts_withRole h role).mpr (by rwa [if_neg he]), rfl⟩

end Session

/-! ### Changes -/

/-- What happens while a generator is run. -/
inductive Event
  /-- the generator is called with a new context -/
  | began (role : Role) (script : Script)
  | registered (context : Nat) (method : Method) (script : Script)
  /-- the generator does something else -/
  | acted
  /-- a call of the generator returns, and its context is sealed -/
  | ended

/-- How far a run is: the context of the call of the generator that is going on, if one is, and the session. -/
structure Moment where
  running : Option Nat
  session : Session

/-- What leads from one moment to the next. The generator uses contexts that are open, whatever they are: that of the
    call that is going on, or others that it kept. -/
inductive Change : Moment → Event → Moment → Prop
  | began {s : Session} {role : Role} {script : Script} (h : ∀ sink, role.sink? = some sink → sink < s.sinks.length) :
    Change ⟨none, s⟩ (.began role script) ⟨some s.contexts.length, s.withContext role⟩
  | ended {s : Session} {id : Nat} : Change ⟨some id, s⟩ .ended ⟨none, s.withSealed id⟩
  | registered {running : Option Nat} {s : Session} {id : Nat} {c : Context} {method : Method} {script : Script}
    (hc : s.contexts[id]? = some c) (ho : c.isSealed = false) (hm : c.role.offers method = true) :
    Change ⟨running, s⟩ (.registered id method script) ⟨running, s.withRole id c (c.role.extended method script)⟩
  | added {running : Option Nat} {s : Session} {id : Nat} {c : Context} {sink : Nat} {source : Source}
    (hc : s.contexts[id]? = some c) (ho : c.isSealed = false) (hs : c.role.sink? = some sink) :
    Change ⟨running, s⟩ .acted ⟨running, s.withDocument sink source⟩
  | reported {running : Option Nat} {s : Session} {id : Nat} {c : Context} {sink : Nat} {d : Diagnostic}
    (hc : s.contexts[id]? = some c) (ho : c.isSealed = false) (hs : c.role.sink? = some sink) :
    Change ⟨running, s⟩ .acted ⟨running, s.withDiagnostic sink d⟩
  | noted {running : Option Nat} {s : Session} {n : Note} : Change ⟨running, s⟩ .acted ⟨running, s.withNote n⟩
  | kept {running : Option Nat} {s : Session} {name : Text} {context : Option Nat} :
    Change ⟨running, s⟩ .acted ⟨running, s.withSlot name context⟩

namespace Change

variable {m m' : Moment} {e : Event}

theorem keeps (h : Change m e m') : m.session.Keeps m'.session := by
  cases h with
  | began => exact Session.keeps_withContext _ _
  | ended => exact Session.keeps_withSealed _ _
  | registered hc ho => exact Session.keeps_withRole hc ho (Role.sink?_extended _ _ _)
  | added | reported | noted | kept => exact .of_contexts_eq rfl

/-- The sinks are never fewer. -/
theorem sinks_le (h : Change m e m') : m.session.sinks.length ≤ m'.session.sinks.length := by
  cases h <;> simp [Session.withContext, Session.withSealed, Session.withRole, Session.withDocument,
    Session.withDiagnostic, Session.withNote, Session.withSlot]

theorem sound (h : Change m e m') (hs : m.session.Sound) : m'.session.Sound := by
  intro id c sink hc hsink
  refine Nat.lt_of_lt_of_le ?_ h.sinks_le
  cases h with
  | began hr =>
    rcases Session.contexts_withContext.mp hc with hc | ⟨-, rfl⟩
    · exact hs id c sink hc hsink
    · exact hr sink hsink
  | ended =>
    obtain ⟨c₀, hc₀, rfl⟩ := Session.contexts_withSealed.mp hc
    refine hs id c₀ sink hc₀ ?_
    split at hsink
    · exact hsink
    · exact hsink
  | registered hc₁ =>
    have hnew := (Session.contexts_withRole hc₁ _).mp hc
    split at hnew
    · rw [hnew, Role.sink?_extended] at hsink
      exact hs _ _ sink hc₁ hsink
    · exact hs id c sink hnew hsink
  | added | reported | noted | kept => exact hs id c sink hc hsink

end Change

/-! ### The one context that is open -/

/-- Of the contexts from `n` on, the one of the call that is going on is open and no other; it is the last one. -/
structure Alone (n : Nat) (m : Moment) : Prop where
  size : n ≤ m.session.contexts.length
  last : ∀ id, m.running = some id → n ≤ id ∧ id + 1 = m.session.contexts.length
  isOpen_iff : ∀ id, n ≤ id → (m.session.IsOpen id ↔ m.running = some id)

theorem alone_start (s : Session) : Alone s.contexts.length ⟨none, s⟩ where
  size := Nat.le_refl _
  last _ h := nomatch h
  isOpen_iff id hn := by
    constructor
    · rintro ⟨c, hc, -⟩
      exact absurd (Session.lt_of_context hc) (Nat.not_lt_of_ge hn)
    · intro h
      cases h

theorem Change.alone {m m' : Moment} {e : Event} {n : Nat} (h : Change m e m') (ha : Alone n m) : Alone n m' := by
  cases h with
  | began =>
    refine ⟨?_, ?_, fun id hn => ?_⟩
    · simpa [Session.withContext] using Nat.le_succ_of_le ha.size
    · rintro id h
      obtain rfl := Option.some.inj h
      exact ⟨ha.size, by simp [Session.withContext]⟩
    · -- nothing was going on, so no context from `n` on was open
      have hnone := ha.isOpen_iff id hn
      simp only [reduceCtorEq, iff_false] at hnone
      simp [Session.isOpen_withContext, hnone, eq_comm]
  | @ended s i =>
    refine ⟨?_, (fun id h => nomatch h), fun id hn => ?_⟩
    · simpa [Session.withSealed] using ha.size
    · rw [Session.isOpen_withSealed, ha.isOpen_iff id hn]
      simp
  | registered hc =>
    refine ⟨?_, ?_, fun id hn => ?_⟩
    · simpa [Session.withRole] using ha.size
    · simpa [Session.withRole] using ha.last
    · rw [Session.isOpen_withRole hc]
      exact ha.isOpen_iff id hn
  | added | reported | noted | kept => exact ⟨ha.size, ha.last, ha.isOpen_iff⟩

/-! ### Courses -/

/-- Changes that lead from one moment to another, each with the moment that it leads to. -/
inductive Course : Moment → List (Event × Moment) → Moment → Prop
  | here (m : Moment) : Course m [] m
  | step {m next last : Moment} {e : Event} {steps : List (Event × Moment)} (h : Change m e next)
    (hrest : Course next steps last) : Course m ((e, next) :: steps) last

namespace Course

variable {m m' m'' : Moment} {steps more : List (Event × Moment)}

theorem single {e : Event} (h : Change m e m') : Course m [(e, m')] m' := .step h (.here m')

theorem append (h : Course m steps m') (h' : Course m' more m'') : Course m (steps ++ more) m'' := by
  induction h with
  | here => exact h'
  | step hstep _ ih => exact .step hstep (ih h')

/-- What every change keeps holds at every moment of a course. -/
theorem keeps_inv (inv : Moment → Prop) (hinv : ∀ {m e m'}, Change m e m' → inv m → inv m') (h : Course m steps m')
    (hm : inv m) : (∀ step ∈ steps, inv step.2) ∧ inv m' := by
  induction h with
  | here => exact ⟨(fun _ h => nomatch h), hm⟩
  | step hstep _ ih =>
    obtain ⟨hall, hlast⟩ := ih (hinv hstep hm)
    exact ⟨List.forall_mem_cons.mpr ⟨hinv hstep hm, hall⟩, hlast⟩

/-- From every moment of a course to every later one, sealed contexts stay as they are. -/
theorem keeps (h : Course m steps m') :
    (∀ step ∈ steps, m.session.Keeps step.2.session) ∧ m.session.Keeps m'.session ∧
      steps.Pairwise fun p q => p.2.session.Keeps q.2.session := by
  induction h with
  | here => exact ⟨(fun _ h => nomatch h), .of_contexts_eq rfl, .nil⟩
  | step hstep _ ih =>
    obtain ⟨hall, hlast, hpairs⟩ := ih
    exact ⟨List.forall_mem_cons.mpr ⟨hstep.keeps, fun step h => hstep.keeps.trans (hall step h)⟩,
      hstep.keeps.trans hlast, List.pairwise_cons.mpr ⟨hall, hpairs⟩⟩

theorem alone {n : Nat} (h : Course m steps m') (ha : Alone n m) : (∀ step ∈ steps, Alone n step.2) ∧ Alone n m' :=
  h.keeps_inv (Alone n) (fun hc => hc.alone) ha

theorem sound (h : Course m steps m') (hs : m.session.Sound) : m'.session.Sound :=
  (h.keeps_inv (fun m => m.session.Sound) (fun hc => hc.sound) hs).2

end Course
end GeneratorHost
