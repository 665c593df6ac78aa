import GeneratorHost.Proofs.Act

/-! Steps that do the same to different states. A step commutes with a change of states if the change can be made
    before it or after it; two steps match if related states lead both of them to related states, with related
    results or with the same failure. -/

namespace GeneratorHost
namespace Act

variable {σ τ α β γ δ : Type}

/-! ### Changes before and after a step -/

/-- Changing the state with `change` before `y` comes to the same as changing it after `x`, and the result with `f`. -/
def Commutes (change : σ → τ) (f : α → β) (x : Act σ α) (y : Act τ β) : Prop :=
  ∀ s, y (change s) = match x s with
    | .ok a t => .ok (f a) (change t)
    | .error e t => .error e (change t)

section Commutes
variable {change : σ → τ} {f : α → β} {g : γ → δ} {x : Act σ α} {y : Act τ β}

theorem Commutes.ok (h : Commutes change f x y) {s t : σ} {a : α} (hx : x s = .ok a t) :
    y (change s) = .ok (f a) (change t) := by
  rw [h s, hx]

theorem Commutes.error (h : Commutes change f x y) {s t : σ} {e : Failure} (hx : x s = .error e t) :
    y (change s) = .error e (change t) := by
  rw [h s, hx]

theorem Commutes.bind (h : Commutes change f x y) {k : α → Act σ γ} {l : β → Act τ δ}
    (hk : ∀ a, Commutes change g (k a) (l (f a))) : Commutes change g (x >>= k) (y >>= l) := by
  intro s
  cases hx : x s with
  | ok a t => rw [bind_ok hx, bind_ok (h.ok hx), hk a t]
  | error e t => rw [bind_error hx, bind_error (h.error hx)]

theorem commutes_pure (a : α) : Commutes change f (pure a) (pure (f a)) := fun _ => rfl

theorem commutes_throw (e : Failure) : Commutes change f (throw e) (throw e) := fun _ => rfl

theorem commutes_get : Commutes change change get get := fun _ => rfl

theorem commutes_modify {m : σ → σ} {n : τ → τ} (h : ∀ s, n (change s) = change (m s)) :
    Commutes change (id : Unit → Unit) (modify m) (modify n) := by
  intro s
  show EStateM.Result.ok () (n (change s)) = .ok () (change (m s))
  rw [h s]

theorem commutes_ofExcept {r : Except Failure α} {r' : Except Failure β} (h : r' = r.map f) :
    Commutes change f (ofExcept r) (ofExcept r') := by
  intro s
  subst h
  cases r <;> rfl

theorem commutes_ofExcept_self (r : Except Failure α) : Commutes change id (ofExcept r) (ofExcept r) :=
  commutes_ofExcept (congrFun Except.map_id r).symm

end Commutes

/-! ### Steps on related states -/

/-- Related states lead two steps to related states, with related results or with the same failure. -/
def Matches (R : σ → τ → Prop) (Q : α → β → Prop) (x : Act σ α) (y : Act τ β) : Prop :=
  ∀ s t, R s t →
    (∃ a b s' t', x s = .ok a s' ∧ y t = .ok b t' ∧ Q a b ∧ R s' t') ∨
      ∃ e s' t', x s = .error e s' ∧ y t = .error e t' ∧ R s' t'

section Matches
variable {R : σ → τ → Prop} {Q : α → β → Prop} {P : γ → δ → Prop} {x : Act σ α} {y : Act τ β}

theorem Matches.ok (h : Matches R Q x y) {s s' : σ} {t : τ} {a : α} (hr : R s t) (hx : x s = .ok a s') :
    ∃ b t', y t = .ok b t' ∧ Q a b ∧ R s' t' := by
  rcases h s t hr with ⟨a', b, s'', t', hx', hy, hq, hr'⟩ | ⟨e, s'', t', hx', -⟩
  · cases hx.symm.trans hx'
    exact ⟨b, t', hy, hq, hr'⟩
  · cases hx.symm.trans hx'

theorem Matches.bind (h : Matches R Q x y) {k : α → Act σ γ} {l : β → Act τ δ}
    (hk : ∀ a b, Q a b → Matches R P (k a) (l b)) : Matches R P (x >>= k) (y >>= l) := by
  intro s t hr
  rcases h s t hr with ⟨a, b, s', t', hx, hy, hq, hr'⟩ | ⟨e, s', t', hx, hy, hr'⟩
  · rw [bind_ok hx, bind_ok hy]
    exact hk a b hq s' t' hr'
  · rw [bind_error hx, bind_error hy]
    exact Or.inr ⟨e, s', t', rfl, rfl, hr'⟩

theorem matches_pure {a : α} {b : β} (h : Q a b) : Matches R Q (pure a) (pure b) :=
  fun s t hr => Or.inl ⟨a, b, s, t, rfl, rfl, h, hr⟩

theorem matches_throw (e : Failure) : Matches R Q (throw e) (throw e) := fun s t hr => Or.inr ⟨e, s, t, rfl, rfl, hr⟩

theorem matches_get : Matches R R get get := fun s t hr => Or.inl ⟨s, t, s, t, rfl, rfl, hr, hr⟩

theorem matches_modify {m : σ → σ} {n : τ → τ} (h : ∀ s t, R s t → R (m s) (n t)) :
    Matches R (fun _ _ => True) (modify m : Act σ Unit) (modify n : Act τ Unit) :=
  fun s t hr => Or.inl ⟨(), (), m s, n t, rfl, rfl, trivial, h s t hr⟩

theorem matches_ofExcept {f : α → γ} {g : β → γ} {r : Except Failure α} {r' : Except Failure β}
    (h : r'.map g = r.map f) : Matches R (fun a b => g b = f a) (ofExcept r) (ofExcept r') := by
  intro s t hr
  cases r with
  | ok a =>
    cases r' with
    | ok b => exact Or.inl ⟨a, b, s, t, rfl, rfl, Except.ok.inj h, hr⟩
    | error e => cases h
  | error e =>
    cases r' with
    | ok b => cases h
    | error e' =>
      cases h
      exact Or.inr ⟨e, s, t, rfl, rfl, hr⟩

/-- Steps on parts of states match where these parts are related, and the states stay related with them. -/
theorem Matches.on {ρ ω : Type} {S : ρ → ω → Prop} {get : ρ → σ} {set : σ → ρ → ρ} {get' : ω → τ} {set' : τ → ω → ω}
    (h : Matches R Q x y) (hget : ∀ {u v}, S u v → R (get u) (get' v))
    (hset : ∀ {u v s t}, S u v → R s t → S (set s u) (set' t v)) :
    Matches S Q (Act.on get set x) (Act.on get' set' y) := by
  intro u v hr
  rcases h (get u) (get' v) (hget hr) with ⟨a, b, s, t, hx, hy, hq, hs⟩ | ⟨e, s, t, hx, hy, hs⟩
  · simp only [Act.on, hx, hy]
    exact Or.inl ⟨a, b, _, _, rfl, rfl, hq, hset hr hs⟩
  · simp only [Act.on, hx, hy]
    exact Or.inr ⟨e, _, _, rfl, rfl, hset hr hs⟩

theorem matches_self (x : Act σ α) : Matches (fun s t => t = s) (fun a b => b = a) x x := by
  rintro _ s rfl
  cases h : x s with
  | ok a t => exact Or.inl ⟨a, a, t, t, rfl, rfl, rfl, rfl⟩
  | error e t => exact Or.inr ⟨e, t, t, rfl, rfl, rfl⟩

/-- What one step becomes under two changes matches, from one state changed in both ways. -/
theorem Commutes.matches {z : Act γ α} {y : Act τ α} {x : Act σ α} {change : γ → σ} {change' : γ → τ}
    (h : Commutes change id z x) (h' : Commutes change' id z y) :
    Matches (fun s t => ∃ r, s = change r ∧ t = change' r) (fun a b => b = a) x y := by
  rintro _ _ ⟨r, rfl, rfl⟩
  cases hz : z r with
  | ok a t => exact Or.inl ⟨a, a, _, _, h.ok hz, h'.ok hz, rfl, t, rfl, rfl⟩
  | error e t => exact Or.inr ⟨e, _, _, h.error hz, h'.error hz, t, rfl, rfl⟩

/-- Two steps match that a change turns into one and the same, from states that it makes the same. -/
theorem Commutes.matches_of_eq {x y : Act σ α} {z : Act τ α} {change : σ → τ} (h : Commutes change id x z)
    (h' : Commutes change id y z) : Matches (fun s t => change t = change s) (fun a b => b = a) x y := by
  intro s t he
  have hs := h s
  have ht := h' t
  rw [he, hs] at ht
  cases hx : x s with
  | ok a s' =>
    cases hy : y t with
    | ok b t' =>
      rw [hx, hy] at ht
      obtain ⟨hab, hst⟩ := EStateM.Result.ok.inj ht
      exact Or.inl ⟨a, b, s', t', rfl, rfl, hab.symm, hst.symm⟩
    | error e t' =>
      rw [hx, hy] at ht
      cases ht
  | error e s' =>
    cases hy : y t with
    | ok b t' =>
      rw [hx, hy] at ht
      cases ht
    | error e' t' =>
      rw [hx, hy] at ht
      obtain ⟨rfl, hst⟩ := EStateM.Result.error.inj ht
      exact Or.inr ⟨e, s', t', rfl, rfl, hst.symm⟩

end Matches

/-! ### Steps from two states -/

/-- From two states two steps end alike: with the same result or the same failure, and in related states. -/
def Abreast (R : σ → σ → Prop) (x y : Act σ α) (s t : σ) : Prop :=
  (∃ a s' t', x s = .ok a s' ∧ y t = .ok a t' ∧ R s' t') ∨
    ∃ e s' t', x s = .error e s' ∧ y t = .error e t' ∧ R s' t'

section Abreast
variable {R S : σ → σ → Prop} {x y : Act σ α} {s t : σ}

theorem Abreast.mono (h : Abreast R x y s t) (hrs : ∀ s t, R s t → S s t) : Abreast S x y s t := by
  rcases h with ⟨a, s', t', hx, hy, hr⟩ | ⟨e, s', t', hx, hy, hr⟩
  · exact Or.inl ⟨a, s', t', hx, hy, hrs _ _ hr⟩
  · exact Or.inr ⟨e, s', t', hx, hy, hrs _ _ hr⟩

/-- Unlike steps that match, what follows may depend on how the first step went. -/
theorem Abreast.bind (h : Abreast R x y s t) {f g : α → Act σ β}
    (hf : ∀ a s' t', x s = .ok a s' → R s' t' → Abreast R (f a) (g a) s' t') :
    Abreast R (x >>= f) (y >>= g) s t := by
  rcases h with ⟨a, s', t', hx, hy, hr⟩ | ⟨e, s', t', hx, hy, hr⟩
  · rw [Abreast, bind_ok hx, bind_ok hy]
    exact hf a s' t' hx hr
  · rw [Abreast, bind_error hx, bind_error hy]
    exact Or.inr ⟨e, s', t', rfl, rfl, hr⟩

theorem Abreast.get_bind {f g : σ → Act σ α} (h : Abreast R (f s) (g t) s t) :
    Abreast R (get >>= f) (get >>= g) s t := h

theorem abreast_pure (a : α) (h : R s t) : Abreast R (pure a) (pure a) s t := Or.inl ⟨a, s, t, rfl, rfl, h⟩

theorem abreast_throw (e : Failure) (h : R s t) : Abreast R (throw e : Act σ α) (throw e) s t :=
  Or.inr ⟨e, s, t, rfl, rfl, h⟩

theorem abreast_ofExcept (result : Except Failure α) (h : R s t) :
    Abreast R (ofExcept result) (ofExcept result) s t := by
  cases result with
  | ok a => exact abreast_pure a h
  | error e => exact abreast_throw e h

/-- Steps on parts of states end alike where they do the same to these parts. -/
theorem abreast_on {get : σ → τ} {set : τ → σ → σ} {u v : Act τ α} (h : v (get t) = u (get s))
    (hset : R (set (u.after (get s)) s) (set (u.after (get s)) t)) : Abreast R (on get set u) (on get set v) s t := by
  rw [Abreast, on, on, h]
  cases hu : u (get s) with
  | ok a part =>
    rw [after_of_ok hu] at hset
    exact Or.inl ⟨a, _, _, rfl, rfl, hset⟩
  | error e part =>
    rw [after_of_error hu] at hset
    exact Or.inr ⟨e, _, _, rfl, rfl, hset⟩

end Abreast

end Act
end GeneratorHost
