import GeneratorHost.Proofs.Text.Name

/-! Texts as bytes and back. Every character is read from the bytes that it is written as, whatever comes behind them; so a
    text without halves can be written, and what is written is read as that text. -/

namespace GeneratorHost
namespace Text

/-! ### One character -/

section Character
variable {n : Nat} {first second third fourth : UInt8} {rest : List UInt8}

theorem isContinuation_of_toNat {b : UInt8} (h : b.toNat = 0x80 + n % 0x40) : isContinuation b = true := by
  simp only [isContinuation, Bool.and_eq_true, decide_eq_true_eq]
  omega

theorem decodeFirst_one (hfirst : first.toNat = n) (hn : n < 0x80) :
    decodeFirst first rest = .character (Char.ofNat n) 1 := by
  simp only [decodeFirst, hfirst, hn, if_true]

theorem decodeFirst_two (hfirst : first.toNat = 0xC0 + n / 0x40) (hsecond : second.toNat = 0x80 + n % 0x40)
    (hlow : 0x80 ≤ n) (hhigh : n < 0x800) : decodeFirst first (second :: rest) = .character (Char.ofNat n) 2 := by
  have hvalue : (first.toNat - 0xC0) * 0x40 + payload second = n := by
    unfold payload
    omega
  have hfollows : follows first second = true := by
    simp only [follows, isContinuation_of_toNat hsecond, Bool.true_and, Bool.and_eq_true, Bool.not_eq_true',
      Bool.and_eq_false_iff, beq_eq_false_iff_ne, decide_eq_false_iff_not]
    omega
  have h₀ : ¬first.toNat < 0x80 := by omega
  have h₁ : ¬first.toNat < 0xC2 := by omega
  have h₂ : first.toNat < 0xE0 := by omega
  simp only [decodeFirst, h₀, h₁, h₂, hfollows, hvalue, if_true, if_false]

theorem decodeFirst_three (hfirst : first.toNat = 0xE0 + n / 0x1000) (hsecond : second.toNat = 0x80 + n / 0x40 % 0x40)
    (hthird : third.toNat = 0x80 + n % 0x40) (hlow : 0x800 ≤ n) (hhigh : n < 0x10000)
    (hpair : n < 0xD800 ∨ 0xDFFF < n) :
    decodeFirst first (second :: third :: rest) = .character (Char.ofNat n) 3 := by
  have hvalue : (first.toNat - 0xE0) * 0x1000 + payload second * 0x40 + payload third = n := by
    unfold payload
    omega
  have hfollows : follows first second = true := by
    simp only [follows, isContinuation_of_toNat hsecond, Bool.true_and, Bool.and_eq_true, Bool.not_eq_true',
      Bool.and_eq_false_iff, beq_eq_false_iff_ne, decide_eq_false_iff_not]
    omega
  have h₀ : ¬first.toNat < 0x80 := by omega
  have h₁ : ¬first.toNat < 0xC2 := by omega
  have h₂ : ¬first.toNat < 0xE0 := by omega
  have h₃ : first.toNat < 0xF0 := by omega
  simp only [decodeFirst, h₀, h₁, h₂, h₃, hfollows, isContinuation_of_toNat hthird, hvalue, if_true, if_false,
    Bool.not_true, Bool.false_eq_true]

theorem decodeFirst_four (hfirst : first.toNat = 0xF0 + n / 0x40000)
    (hsecond : second.toNat = 0x80 + n / 0x1000 % 0x40) (hthird : third.toNat = 0x80 + n / 0x40 % 0x40)
    (hfourth : fourth.toNat = 0x80 + n % 0x40) (hlow : 0x10000 ≤ n) (hhigh : n < 0x110000) :
    decodeFirst first (second :: third :: fourth :: rest) = .character (Char.ofNat n) 4 := by
  have hvalue : (first.toNat - 0xF0) * 0x40000 + payload second * 0x1000 + payload third * 0x40 + payload fourth = n := by
    unfold payload
    omega
  have hfollows : follows first second = true := by
    simp only [follows, isContinuation_of_toNat hsecond, Bool.true_and, Bool.and_eq_true, Bool.not_eq_true',
      Bool.and_eq_false_iff, beq_eq_false_iff_ne, decide_eq_false_iff_not]
    omega
  have h₀ : ¬first.toNat < 0x80 := by omega
  have h₁ : ¬first.toNat < 0xC2 := by omega
  have h₂ : ¬first.toNat < 0xE0 := by omega
  have h₃ : ¬first.toNat < 0xF0 := by omega
  have h₄ : first.toNat < 0xF5 := by omega
  simp only [decodeFirst, h₀, h₁, h₂, h₃, h₄, hfollows, isContinuation_of_toNat hthird, isContinuation_of_toNat hfourth,
    hvalue, if_true, if_false, Bool.not_true, Bool.false_eq_true]

end Character

theorem decodeFirst_encodeChar (c : Char) (rest : List UInt8) : ∃ first more, encodeChar c = first :: more ∧
    decodeFirst first (more ++ rest) = .character c (more.length + 1) := by
  have hvalid : c.toNat < 0xD800 ∨ 0xDFFF < c.toNat ∧ c.toNat < 0x110000 := c.valid
  have hbyte : ∀ {k : Nat}, k < 0x100 → (UInt8.ofNat k).toNat = k := toNat_byte_of_lt
  unfold encodeChar
  simp only []
  split
  · next h =>
    refine ⟨_, [], rfl, ?_⟩
    rw [decodeFirst_one (hbyte (by omega)) h, Char.ofNat_toNat]
    rfl
  · split
    · refine ⟨_, [_], rfl, ?_⟩
      rw [List.singleton_append, decodeFirst_two (n := c.toNat), Char.ofNat_toNat]
      · rfl
      all_goals first | exact hbyte (by omega) | omega
    · split
      · refine ⟨_, [_, _], rfl, ?_⟩
        rw [List.cons_append, List.singleton_append, decodeFirst_three (n := c.toNat), Char.ofNat_toNat]
        · rfl
        all_goals first | exact hbyte (by omega) | omega
      · refine ⟨_, [_, _, _], rfl, ?_⟩
        rw [List.cons_append, List.cons_append, List.singleton_append, decodeFirst_four (n := c.toNat), Char.ofNat_toNat]
        · rfl
        all_goals first | exact hbyte (by omega) | omega

/-! ### Texts -/

theorem decodeFrom_skip : ∀ (passed rest : List UInt8) (position : Nat),
    decodeFrom position passed.length (passed ++ rest) = decodeFrom (position + passed.length) 0 rest
  | [], _, _ => rfl
  | b :: passed, rest, position => by
    rw [List.cons_append, List.length_cons, decodeFrom, decodeFrom_skip passed rest, Nat.add_right_comm, Nat.add_assoc]

theorem decodeFrom_encodeChars : ∀ (cs : List Char) (position : Nat),
    decodeFrom position 0 (cs.flatMap encodeChar) = .ok cs
  | [], _ => rfl
  | c :: cs, position => by
    obtain ⟨first, more, hbytes, hfirst⟩ := decodeFirst_encodeChar c (cs.flatMap encodeChar)
    rw [List.flatMap_cons, hbytes, List.cons_append, decodeFrom, hfirst]
    show (decodeFrom (position + 1) more.length (more ++ _)).map (c :: ·) = _
    rw [decodeFrom_skip, decodeFrom_encodeChars cs]
    rfl

theorem encodeFrom_chars (byteOf : Fin 2048 → Option UInt8) : ∀ (cs : List Char) (position : Nat),
    encodeFrom byteOf position (cs.map .char) = .ok (cs.flatMap encodeChar)
  | [], _ => rfl
  | c :: cs, position => by
    rw [List.map_cons, encodeFrom, encodeFrom_chars byteOf cs]
    rfl

/-- A text without halves has bytes, and it is read from them. -/
theorem decode_encode (s : String) : ∃ bytes, (ofString s).encode = .ok bytes ∧ decode bytes = .ok s := by
  refine ⟨s.toList.flatMap encodeChar, encodeFrom_chars _ s.toList 0, ?_⟩
  rw [decode, decodeFrom_encodeChars]
  exact congrArg Except.ok String.ofList_toList

end Text
end GeneratorHost
