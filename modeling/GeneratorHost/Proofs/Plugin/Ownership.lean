import GeneratorHost.Proofs.Plugin.Candidates

/-! Which plug-in a class is of. The names of two plug-ins that were given different tokens have nothing below them in
    common, whatever their stems imitate; so a class of the one is never a candidate of the other, however long ago
    the one was loaded. -/

namespace GeneratorHost
namespace Plugin

/-- Names without a dot that are different and not below one another. -/
structure Apart (first second : Text) : Prop where
  ne : first ≠ second
  dotless : .char '.' ∉ first.letters ∧ .char '.' ∉ second.letters
  beside : ¬Below first second ∧ ¬Below second first

variable {p q : Path} {token other : Nat}

theorem dot_mem_of_below {top name : Text} (h : Below top name) : .char '.' ∈ name.letters := by
  obtain ⟨rest, rfl⟩ := h
  exact List.mem_append_left _ (List.mem_append_right _ List.mem_cons_self)

theorem apart_moduleName (h : token ≠ other) : Apart (moduleName p token) (moduleName q other) where
  ne he := h (moduleName_inj he)
  dotless := ⟨dot_notMem_moduleName p token, dot_notMem_moduleName q other⟩
  beside := ⟨fun hb => dot_notMem_moduleName q other (dot_mem_of_below hb),
    fun hb => dot_notMem_moduleName p token (dot_mem_of_below hb)⟩

theorem belongsTo_of_within (h : token ≠ other) {owner : Text} (hw : Within (moduleName p token) owner) :
    belongsTo (moduleName q other) owner = false := by
  rw [← Bool.not_eq_true, belongsTo_iff]
  exact fun hother => h (hw.token_eq hother)

theorem Module.get?_of_textOf? {m : Module} {name t : Text} (h : m.textOf? name = some t) :
    m.bindings.get? name = some (.text t) := by
  unfold Module.textOf? at h
  split at h
  · next hget =>
    obtain rfl := Option.some.inj h
    exact hget
  · cases h

/-- Of two texts it is told by the names alone whose a class is. -/
theorem owns_of_texts {m : Module} {c : Class} {own owner : Text} (hm : m.bindings.get? Module.nameName = some (.text own))
    (hc : c.owner = .text owner) : owns m c = .ok (belongsTo own owner) := by
  rw [owns, hm, hc]

theorem notMem_candidates {m : Module} {c : Class} {cs : List Class} (h : owns m c = .ok false) (hcs : candidates m = .ok cs) :
    c ∉ cs := by
  intro hc
  cases h.symm.trans (mem_of_mem_candidates hcs hc).2.2

namespace Registry

variable {files : FileTree} {r s : Registry} {x : Execution}

/-! ### Tokens in the course of time -/

/-- The registry as it is after further loads, each of which succeeded or failed. -/
inductive Later (r : Registry) : Registry → Prop
  | now : Later r r
  | loaded {s : Registry} (h : Later r s) (files : FileTree) (p : Path) : Later r ((load files p).after s)

theorem Later.reached (h : Later r s) (hr : Reached r) : Reached s := by
  induction h with
  | now => exact hr
  | loaded h files p ih => exact ih.load files p

/-- An execution has taken one token, and a path that is refused none. -/
theorem issued_load_cases (hr : Reached r) (files : FileTree) (p : Path) :
    (∃ e, execution? files p r = .error e) ∧ ((load files p).after r).issued = r.issued ∨
      (∃ x, execution? files p r = .ok x) ∧ ((load files p).after r).issued = r.issued + 1 := by
  rcases load_cases files p r with ⟨e, hx, hl⟩ | ⟨x, hx, hl⟩
  · exact Or.inl ⟨⟨e, hx⟩, by rw [Act.after_of_error hl]⟩
  · obtain rfl := before_of_execution? hx
    have hstop : x.stop.issued = x.before.issued + 1 := issued_registryAt x _
    refine Or.inr ⟨⟨x, hx⟩, ?_⟩
    rcases hl with hl | ⟨e, hl⟩
    · rw [Act.after_of_ok hl]
      exact hstop
    · rw [Act.after_of_error hl]
      split
      · exact (issued_without _ _).trans hstop
      · exact hstop

theorem Later.issued_le (h : Later r s) (hr : Reached r) : r.issued ≤ s.issued := by
  induction h with
  | now => exact Nat.le_refl _
  | loaded h files p ih =>
    rcases issued_load_cases (h.reached hr) files p with ⟨-, hissued⟩ | ⟨-, hissued⟩ <;> omega

/-- A plug-in that is executed later has a greater token. -/
theorem Later.issued_lt {p : Path} (h : Later ((load files p).after r) s) (hr : Reached r)
    (hx : execution? files p r = .ok x) : x.before.issued < s.issued := by
  have hle := h.issued_le (hr.load files p)
  obtain rfl := before_of_execution? hx
  rcases issued_load_cases hr files p with ⟨⟨e, he⟩, -⟩ | ⟨-, hissued⟩
  · cases he.symm.trans hx
  · omega

end Registry

open Registry (Reached Execution Later execution?)

/-- A plug-in, and another one with a stem that imitates its name. -/
def imitating : FileTree :=
  ⟨[], [("g.py", .file (.module [.define (.plain "G" .generator)])),
    ("g_00000001.x.py", .file (.module [.define (.plain "H" .generator)]))]⟩

end Plugin
end GeneratorHost
