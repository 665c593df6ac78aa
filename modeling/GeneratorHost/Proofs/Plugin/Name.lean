import GeneratorHost.Plugin.Discovery
import GeneratorHost.Plugin.Loading
import GeneratorHost.Proofs.Split
import GeneratorHost.Proofs.Text.Hexadecimal

/-! The names of plug-in modules. Such a name holds no dot and ends in its token, so what lies below a plug-in lies
    below no other one. -/

namespace GeneratorHost

theorem Text.intercalate_concat (separator t u : Text) (ts : List Text) :
    intercalate separator (t :: (ts ++ [u])) = intercalate separator (t :: ts) ++ separator ++ u := by
  induction ts generalizing t with
  | nil =>
    refine congrArg mk ?_
    show t.letters ++ (separator.letters ++ (u.letters ++ [])) = (t.letters ++ []) ++ separator.letters ++ u.letters
    simp
  | cons t' ts ih =>
    have hcons : ∀ ts, intercalate separator (t :: t' :: ts) = t ++ (separator ++ intercalate separator (t' :: ts)) :=
      fun ts => rfl
    have hassoc : ∀ a b c d e : List Letter, a ++ (b ++ (c ++ d ++ e)) = a ++ (b ++ c) ++ d ++ e := by simp
    rw [List.cons_append, hcons, hcons, ih]
    exact congrArg mk (hassoc _ _ _ _ _)

namespace Plugin

/-- The name of a module below another one: the name of that one followed by a dot and more. -/
def Below (top name : Text) : Prop := ∃ rest : Text, name = top ++ "." ++ rest

/-- The name of a module itself, or of one below it. -/
def Within (top name : Text) : Prop := name = top ∨ Below top name

theorem Below.ne {top name : Text} (h : Below top name) : name ≠ top := by
  rintro rfl
  obtain ⟨rest, h⟩ := h
  have hlength := congrArg Text.length h
  have happend : ∀ s t : Text, (s ++ t).length = s.length + t.length := fun s t => List.length_append
  have hdot : Text.length "." = 1 := rfl
  rw [happend, happend, hdot] at hlength
  omega

theorem Within.submodule {top parent : Text} (h : Within top parent) (name : Text) :
    Below top (parent ++ "." ++ name) := by
  rcases h with rfl | ⟨rest, rfl⟩
  · exact ⟨name, rfl⟩
  · have hassoc : ∀ a b c d e : List Letter, a ++ b ++ c ++ d ++ e = a ++ b ++ (c ++ d ++ e) := by simp
    exact ⟨rest ++ "." ++ name, congrArg Text.mk (hassoc _ _ _ _ _)⟩

theorem belongsTo_iff {top name : Text} : belongsTo top name = true ↔ Within top name := by
  simp only [belongsTo, Bool.or_eq_true, beq_iff_eq, Text.startsWith, List.isPrefixOf_iff_prefix, Within]
  constructor
  · rintro (h | ⟨rest, h⟩)
    · exact Or.inl h
    · exact Or.inr ⟨⟨rest⟩, congrArg Text.mk h.symm⟩
  · rintro (h | ⟨rest, rfl⟩)
    · exact Or.inl h
    · exact Or.inr ⟨rest.letters, rfl⟩

/-- A name without a dot is what stands before the first dot of all the names below it. -/
theorem Within.firstPiece {top name : Text} (h : Within top name) (hdot : .char '.' ∉ top.letters) :
    (Text.splitWhere (· == .char '.') name.letters).head? = some top.letters := by
  have hnot : ∀ l ∈ top.letters, ¬(l == Letter.char '.') = true := fun l hl he => hdot (beq_iff_eq.mp he ▸ hl)
  rcases h with rfl | ⟨rest, rfl⟩
  · rw [Text.splitWhere_of_forall_not hnot]
    rfl
  · have hletters : (top ++ "." ++ rest).letters = top.letters ++ .char '.' :: rest.letters :=
      List.append_assoc _ _ _
    rw [hletters, Text.splitWhere_append_cons hnot (beq_self_eq_true _)]
    rfl

/-- What lies within a name without a dot is that name up to its first dot. -/
theorem within_iff_rootOf {top name : Text} (hdot : .char '.' ∉ top.letters) :
    Within top name ↔ Registry.rootOf name = top := by
  obtain ⟨first, rest, hs⟩ := Text.exists_splitWhere (· == .char '.') name.letters
  have hroot : Registry.rootOf name = ⟨first⟩ := by
    rw [Registry.rootOf, Text.splitAt, hs]
    rfl
  constructor
  · intro h
    have hfirst := h.firstPiece hdot
    rw [hs] at hfirst
    exact hroot.trans (congrArg Text.mk (Option.some.inj hfirst))
  · intro h
    obtain rfl := hroot.symm.trans h
    rcases Text.eq_or_append_of_splitWhere_eq_cons hs with he | ⟨y, ys, hy, he⟩
    · exact Or.inl (congrArg Text.mk he)
    · obtain rfl := beq_iff_eq.mp hy
      exact Or.inr ⟨⟨ys⟩, congrArg Text.mk (he.trans (List.append_cons first _ ys))⟩

/-! ### Stems and tokens -/

theorem isWord_of_mem_safeStem {p : Path} {l : Letter} (h : l ∈ (safeStem p).letters) : Text.isWord l := by
  obtain ⟨l', -, rfl⟩ := List.mem_map.mp h
  split
  · next hw => exact hw
  · decide +kernel

theorem dot_notMem_moduleName (p : Path) (token : Nat) : .char '.' ∉ (moduleName p token).letters := by
  have hletters : (moduleName p token).letters = nameStart.letters ++ (safeStem p).letters ++
      Text.letters "_" ++ Text.letters (Text.hexPadded 8 token) := rfl
  rw [hletters]
  simp only [List.mem_append, not_or]
  refine ⟨⟨⟨by decide +kernel, fun h => ?_⟩, by decide +kernel⟩, fun h => ?_⟩
  · exact absurd (isWord_of_mem_safeStem h) (by decide +kernel)
  · obtain ⟨d, hd, he⟩ := Text.mem_hexPadded h
    have hdigits : ∀ d < 16, '.' ≠ Nat.digitChar d := by decide
    exact hdigits d hd (Letter.char.inj he)

/-- Behind the last low line stands the token. -/
theorem splitWhere_moduleName (p : Path) (token : Nat) :
    (Text.splitWhere (· == .char '_') (moduleName p token).letters.reverse).head? =
      some (Text.letters (Text.hexPadded 8 token)).reverse := by
  have hletters : (moduleName p token).letters.reverse = (Text.letters (Text.hexPadded 8 token)).reverse ++
      .char '_' :: (nameStart.letters ++ (safeStem p).letters).reverse := by
    have hname : (moduleName p token).letters = nameStart.letters ++ (safeStem p).letters ++
      [.char '_'] ++ Text.letters (Text.hexPadded 8 token) := rfl
    rw [hname]
    simp
  have hnot : ∀ l ∈ (Text.letters (Text.hexPadded 8 token)).reverse, ¬(l == Letter.char '_') = true := by
    intro l hl he
    obtain rfl := beq_iff_eq.mp he
    obtain ⟨d, hd, he⟩ := Text.mem_hexPadded (List.mem_reverse.mp hl)
    have hdigits : ∀ d < 16, '_' ≠ Nat.digitChar d := by decide
    exact hdigits d hd (Letter.char.inj he)
  rw [hletters, Text.splitWhere_append_cons hnot (beq_self_eq_true _)]
  rfl

theorem moduleName_inj {p q : Path} {token other : Nat} (h : moduleName p token = moduleName q other) :
    token = other := by
  have htoken := (splitWhere_moduleName p token).symm.trans (h ▸ splitWhere_moduleName q other)
  have hletters := List.reverse_inj.mp (Option.some.inj htoken)
  exact Text.hexPadded_inj (Text.ofString_inj (congrArg Text.mk hletters))

/-- Modules of two plug-ins that were given different tokens do not lie below one another. -/
theorem Within.token_eq {p q : Path} {token other : Nat} {name : Text} (h : Within (moduleName p token) name)
    (h' : Within (moduleName q other) name) : token = other := by
  have hfirst := (h.firstPiece (dot_notMem_moduleName p token)).symm.trans
    (h'.firstPiece (dot_notMem_moduleName q other))
  exact moduleName_inj (congrArg Text.mk (Option.some.inj hfirst))

end Plugin
end GeneratorHost
