import GeneratorHost.Text.Utf8

/-! Texts as names of files. A name is written in bytes and read back; no letter of ASCII comes about that way, so
    what names one entry of a directory before does so afterwards, and none gets lost at its end. -/

namespace GeneratorHost
namespace Text

/-! ### Bytes of letters -/

theorem toNat_byte_of_lt {n : Nat} (h : n < 0x100) : (UInt8.ofNat n).toNat = n := by
  rw [UInt8.toNat_ofNat']
  omega

theorem le_byte {n : Nat} (h : 0x80 ≤ n) (hlt : n < 0x100) : 0x80 ≤ (UInt8.ofNat n).toNat := by
  rwa [toNat_byte_of_lt hlt]

theorem le_of_mem_encodeChar {c : Char} (h : 0x80 ≤ c.toNat) : ∀ b ∈ encodeChar c, 0x80 ≤ b.toNat := by
  have hvalid : c.toNat < 0xD800 ∨ 0xDFFF < c.toNat ∧ c.toNat < 0x110000 := c.valid
  unfold encodeChar
  simp only []
  split
  · omega
  split
  · exact List.forall_mem_cons.mpr ⟨le_byte (by omega) (by omega),
      List.forall_mem_singleton.mpr (le_byte (by omega) (by omega))⟩
  split
  · exact List.forall_mem_cons.mpr ⟨le_byte (by omega) (by omega),
      List.forall_mem_cons.mpr ⟨le_byte (by omega) (by omega),
        List.forall_mem_singleton.mpr (le_byte (by omega) (by omega))⟩⟩
  · exact List.forall_mem_cons.mpr ⟨le_byte (by omega) (by omega),
      List.forall_mem_cons.mpr ⟨le_byte (by omega) (by omega),
        List.forall_mem_cons.mpr ⟨le_byte (by omega) (by omega),
          List.forall_mem_singleton.mpr (le_byte (by omega) (by omega))⟩⟩⟩

/-- Of the bytes of a character only those of a character of ASCII are below 128. -/
theorem eq_of_mem_encodeChar {c : Char} {b : UInt8} (h : b ∈ encodeChar c) (hb : b.toNat < 0x80) :
    c = Char.ofNat b.toNat := by
  by_cases hc : c.toNat < 0x80
  · rw [encodeChar, if_pos hc, List.mem_singleton] at h
    rw [h, toNat_byte_of_lt (by omega), Char.ofNat_toNat]
  · have hle := le_of_mem_encodeChar (Nat.le_of_not_lt hc) b h
    omega

theorem le_of_nameByte_eq_some {n : Fin 2048} {b : UInt8} (h : nameByte n = some b) : 0x80 ≤ b.toNat := by
  unfold nameByte at h
  split at h
  · next hn =>
    simp only [Bool.and_eq_true, decide_eq_true_eq] at hn
    rw [← Option.some.inj h, toNat_byte_of_lt (by omega)]
    omega
  · cases h

/-- The bytes of the name of a file that are below 128 are its characters of ASCII, and every half has one that is
    not. -/
theorem encodeFrom_nameByte : ∀ {letters : List Letter} {position : Nat} {bytes : List UInt8},
    encodeFrom nameByte position letters = .ok bytes →
      (∀ b ∈ bytes, b.toNat < 0x80 → .char (Char.ofNat b.toNat) ∈ letters) ∧
        ((∃ l ∈ letters, l.isHalf) → ∃ b ∈ bytes, 0x80 ≤ b.toNat)
  | [], _, _, h => by
    cases h
    exact ⟨by simp, by simp⟩
  | .char c :: letters, position, bytes, h => by
    rw [encodeFrom] at h
    cases hr : encodeFrom nameByte (position + 1) letters with
    | error e =>
      rw [hr] at h
      cases h
    | ok rest =>
      rw [hr] at h
      cases h
      obtain ⟨hlow, hhalf⟩ := encodeFrom_nameByte hr
      constructor
      · intro b hb hlt
        rcases List.mem_append.mp hb with hb | hb
        · rw [← eq_of_mem_encodeChar hb hlt]
          exact List.mem_cons_self
        · exact List.mem_cons_of_mem _ (hlow b hb hlt)
      · rintro ⟨l, hl, hh⟩
        rcases List.mem_cons.mp hl with rfl | hl
        · cases hh
        · obtain ⟨b, hb, hle⟩ := hhalf ⟨l, hl, hh⟩
          exact ⟨b, List.mem_append_right _ hb, hle⟩
  | .half n :: letters, position, bytes, h => by
    rw [encodeFrom] at h
    cases hn : nameByte n with
    | none =>
      rw [hn] at h
      cases h
    | some first =>
      rw [hn] at h
      replace h : (encodeFrom nameByte (position + 1) letters).map (first :: ·) = .ok bytes := h
      cases hr : encodeFrom nameByte (position + 1) letters with
      | error e =>
        rw [hr] at h
        cases h
      | ok rest =>
        rw [hr] at h
        cases h
        have hfirst := le_of_nameByte_eq_some hn
        refine ⟨fun b hb hlt => ?_, fun _ => ⟨first, List.mem_cons_self, hfirst⟩⟩
        rcases List.mem_cons.mp hb with rfl | hb
        · omega
        · exact List.mem_cons_of_mem _ ((encodeFrom_nameByte hr).1 b hb hlt)

/-! ### Letters of bytes -/

theorem toNat_ofNat (n : Nat) : (Char.ofNat n).toNat = n ∨ (Char.ofNat n).toNat = 0 := by
  by_cases h : n.isValidChar
  · rw [Char.ofNat, dif_pos h]
    exact Or.inl rfl
  · rw [Char.ofNat, dif_neg h]
    exact Or.inr rfl

theorem toNat_ofNat_of_le {n : Nat} (h : 0x80 ≤ n) : 0x80 ≤ (Char.ofNat n).toNat ∨ (Char.ofNat n).toNat = 0 := by
  rcases toNat_ofNat n with he | he
  · rw [he]
    exact Or.inl h
  · exact Or.inr he

section Spelled
variable {first second : UInt8} {rest : List UInt8} {c : Char} {length : Nat}

/-- What is read as a character: a byte of ASCII, or a leading byte with the bytes that go on with it, as another
    character. -/
inductive Spelled (first : UInt8) : List UInt8 → Char → Nat → Prop
  | one {rest : List UInt8} (h : first.toNat < 0x80) : Spelled first rest (Char.ofNat first.toNat) 1
  | more {passed rest : List UInt8} {c : Char} (h : ∀ b ∈ passed, isContinuation b = true)
      (hc : 0x80 ≤ c.toNat ∨ c.toNat = 0) : Spelled first (passed ++ rest) c (passed.length + 1)

theorem le_of_isContinuation {b : UInt8} (h : isContinuation b = true) : 0x80 ≤ b.toNat := by
  simp only [isContinuation, Bool.and_eq_true, decide_eq_true_eq] at h
  exact h.1

theorem isContinuation_of_follows (h : follows first second = true) : isContinuation second = true := by
  simp only [follows, Bool.and_eq_true] at h
  exact h.1.1.1.1

/-- No character is spelled in more bytes than it needs. -/
theorem le_payload_of_follows (h : follows first second = true) :
    (first.toNat = 0xE0 → 0x20 ≤ payload second) ∧ (first.toNat = 0xF0 → 0x10 ≤ payload second) := by
  simp only [follows, isContinuation, Bool.and_eq_true, decide_eq_true_eq, Bool.not_eq_true', Bool.and_eq_false_iff,
    beq_eq_false_iff_ne, decide_eq_false_iff_not] at h
  unfold payload
  omega

theorem spelled_of_two (hlow : 0xC2 ≤ first.toNat) (hhigh : first.toNat < 0xE0)
    (h : decodeFirst first rest = .character c length) : Spelled first rest c length := by
  have h₀ : ¬first.toNat < 0x80 := by omega
  have h₁ : ¬first.toNat < 0xC2 := by omega
  simp only [decodeFirst, h₀, h₁, hhigh, if_true, if_false] at h
  split at h
  · cases h
  · next second others =>
    split at h
    · next hf =>
      obtain ⟨hc, rfl⟩ := Decoded.character.inj h
      have hpassed : ∀ b ∈ [second], isContinuation b = true :=
        List.forall_mem_singleton.mpr (isContinuation_of_follows hf)
      rw [← hc]
      exact Spelled.more hpassed (toNat_ofNat_of_le (by omega))
    · cases h

theorem spelled_of_three (hlow : 0xE0 ≤ first.toNat) (hhigh : first.toNat < 0xF0)
    (h : decodeFirst first rest = .character c length) : Spelled first rest c length := by
  have h₀ : ¬first.toNat < 0x80 := by omega
  have h₁ : ¬first.toNat < 0xC2 := by omega
  have h₂ : ¬first.toNat < 0xE0 := by omega
  simp only [decodeFirst, h₀, h₁, h₂, hhigh, if_true, if_false] at h
  split at h
  · cases h
  · split at h <;> cases h
  · next second third others =>
    split at h
    · cases h
    next hf =>
    split at h
    · cases h
    next hthird =>
    replace hf : follows first second = true := by simpa using hf
    replace hthird : isContinuation third = true := by simpa using hthird
    obtain ⟨hpayload, -⟩ := le_payload_of_follows hf
    obtain ⟨hc, rfl⟩ := Decoded.character.inj h
    have hpassed : ∀ b ∈ [second, third], isContinuation b = true :=
      List.forall_mem_cons.mpr ⟨isContinuation_of_follows hf, List.forall_mem_singleton.mpr hthird⟩
    rw [← hc]
    exact Spelled.more hpassed (toNat_ofNat_of_le (by omega))

theorem spelled_of_four (hlow : 0xF0 ≤ first.toNat) (hhigh : first.toNat < 0xF5)
    (h : decodeFirst first rest = .character c length) : Spelled first rest c length := by
  have h₀ : ¬first.toNat < 0x80 := by omega
  have h₁ : ¬first.toNat < 0xC2 := by omega
  have h₂ : ¬first.toNat < 0xE0 := by omega
  have h₃ : ¬first.toNat < 0xF0 := by omega
  simp only [decodeFirst, h₀, h₁, h₂, h₃, hhigh, if_true, if_false] at h
  split at h
  · cases h
  · split at h <;> cases h
  · split at h
    · cases h
    · split at h <;> cases h
  · next second third fourth others =>
    split at h
    · cases h
    next hf =>
    split at h
    · cases h
    next hthird =>
    split at h
    · cases h
    next hfourth =>
    replace hf : follows first second = true := by simpa using hf
    replace hthird : isContinuation third = true := by simpa using hthird
    replace hfourth : isContinuation fourth = true := by simpa using hfourth
    obtain ⟨-, hpayload⟩ := le_payload_of_follows hf
    obtain ⟨hc, rfl⟩ := Decoded.character.inj h
    have hpassed : ∀ b ∈ [second, third, fourth], isContinuation b = true :=
      List.forall_mem_cons.mpr ⟨isContinuation_of_follows hf,
        List.forall_mem_cons.mpr ⟨hthird, List.forall_mem_singleton.mpr hfourth⟩⟩
    rw [← hc]
    exact Spelled.more hpassed (toNat_ofNat_of_le (by omega))

theorem spelled_of_decodeFirst (h : decodeFirst first rest = .character c length) : Spelled first rest c length := by
  by_cases h₀ : first.toNat < 0x80
  · simp only [decodeFirst, h₀, if_true] at h
    cases h
    exact .one h₀
  by_cases h₁ : first.toNat < 0xC2
  · simp only [decodeFirst, h₀, h₁, if_true, if_false] at h
    cases h
  by_cases h₂ : first.toNat < 0xE0
  · exact spelled_of_two (Nat.le_of_not_lt h₁) h₂ h
  by_cases h₃ : first.toNat < 0xF0
  · exact spelled_of_three (Nat.le_of_not_lt h₂) h₃ h
  by_cases h₄ : first.toNat < 0xF5
  · exact spelled_of_four (Nat.le_of_not_lt h₃) h₄ h
  · simp only [decodeFirst, h₀, h₁, h₂, h₃, h₄, if_false] at h
    cases h

/-- A character that is read is the first byte, or it is none of ASCII; it takes up no more bytes than there are, and no
    other one is below 128. -/
theorem decodeFirst_eq_character (h : decodeFirst first rest = .character c length) :
    ((first.toNat < 0x80 ∧ c = Char.ofNat first.toNat ∧ length = 1) ∨ 0x80 ≤ c.toNat ∨ c.toNat = 0) ∧
      length - 1 ≤ rest.length ∧ ∀ b ∈ rest.take (length - 1), 0x80 ≤ b.toNat := by
  cases spelled_of_decodeFirst h with
  | one hlt => exact ⟨Or.inl ⟨hlt, rfl, rfl⟩, Nat.zero_le _, by simp⟩
  | @more passed rest c hpassed hc =>
    refine ⟨Or.inr hc, by simp, fun b hb => ?_⟩
    rw [Nat.add_sub_cancel, List.take_left] at hb
    exact le_of_isContinuation (hpassed b hb)

end Spelled

/-- A slash that is read was a byte. -/
theorem mem_of_slash_mem_decodeNameFrom : ∀ {bytes : List UInt8} {skip : Nat},
    .char '/' ∈ decodeNameFrom skip bytes → ∃ b ∈ bytes, b.toNat = 0x2F
  | b :: rest, skip + 1, h => by
    rw [decodeNameFrom] at h
    obtain ⟨b', hb', he⟩ := mem_of_slash_mem_decodeNameFrom h
    exact ⟨b', List.mem_cons_of_mem _ hb', he⟩
  | b :: rest, 0, h => by
    rw [decodeNameFrom] at h
    cases hd : decodeFirst b rest with
    | character c length =>
      rw [hd] at h
      rcases List.mem_cons.mp h with h | h
      · obtain rfl := Letter.char.inj h
        rcases (decodeFirst_eq_character hd).1 with ⟨hb, hc, -⟩ | hc | hc
        · refine ⟨b, List.mem_cons_self, ?_⟩
          rcases toNat_ofNat b.toNat with hn | hn
          · exact (hn.symm.trans (congrArg Char.toNat hc.symm))
          · exact absurd (hn.symm.trans (congrArg Char.toNat hc.symm)) (by decide)
        · exact absurd hc (by decide)
        · exact absurd hc (by decide)
      · obtain ⟨b', hb', he⟩ := mem_of_slash_mem_decodeNameFrom h
        exact ⟨b', List.mem_cons_of_mem _ hb', he⟩
    | fault cause length =>
      rw [hd] at h
      rcases List.mem_cons.mp h with h | h
      · have hlt := b.toNat_lt
        rw [Letter.ofCode, dif_pos ⟨by unfold Letter.firstHalf; omega, by omega⟩] at h
        cases h
      · obtain ⟨b', hb', he⟩ := mem_of_slash_mem_decodeNameFrom h
        exact ⟨b', List.mem_cons_of_mem _ hb', he⟩

/-- Bytes that are read as dots are all below 128. -/
theorem lt_of_decodeNameFrom_dots : ∀ {bytes : List UInt8},
    (∀ l ∈ decodeNameFrom 0 bytes, l = .char '.') → ∀ b ∈ bytes, b.toNat < 0x80
  | [], _, b, hb => nomatch hb
  | first :: rest, h, b, hb => by
    rw [decodeNameFrom] at h
    cases hd : decodeFirst first rest with
    | character c length =>
      rw [hd] at h
      obtain rfl := Letter.char.inj (h (.char c) List.mem_cons_self)
      rcases (decodeFirst_eq_character hd).1 with ⟨hlt, -, rfl⟩ | hc | hc
      · rcases List.mem_cons.mp hb with rfl | hb
        · exact hlt
        · exact lt_of_decodeNameFrom_dots (fun l hl => h l (List.mem_cons_of_mem _ hl)) b hb
      · exact absurd hc (by decide)
      · exact absurd hc (by decide)
    | fault cause length =>
      rw [hd] at h
      have hlt := first.toNat_lt
      have hhalf := h (Letter.ofCode (0xDC00 + first.toNat)) List.mem_cons_self
      rw [Letter.ofCode, dif_pos ⟨by unfold Letter.firstHalf; omega, by omega⟩] at hhalf
      cases hhalf

/-! ### Characters of ASCII at the end -/

/-- What begins with a character of ASCII is read by itself. -/
theorem exists_decodeNameFrom_append {more : List UInt8} (hmore : ∀ b, more.head? = some b → b.toNat < 0x80) :
    ∀ {bytes : List UInt8} {skip : Nat}, skip ≤ bytes.length →
      ∃ front, decodeNameFrom skip (bytes ++ more) = front ++ decodeNameFrom 0 more
  | [], skip, h => by
    obtain rfl := Nat.le_zero.mp h
    exact ⟨[], rfl⟩
  | b :: bytes, skip + 1, h => by
    rw [List.cons_append, decodeNameFrom]
    exact exists_decodeNameFrom_append hmore (Nat.le_of_succ_le_succ h)
  | b :: bytes, 0, _ => by
    rw [List.cons_append, decodeNameFrom]
    cases hd : decodeFirst b (bytes ++ more) with
    | fault cause length =>
      obtain ⟨front, hfront⟩ := exists_decodeNameFrom_append hmore (Nat.zero_le bytes.length)
      exact ⟨_ :: front, congrArg (List.cons _) hfront⟩
    | character c length =>
      obtain ⟨-, hle, htake⟩ := decodeFirst_eq_character hd
      -- Otherwise the first of the other bytes would go on with the character.
      have hbytes : length - 1 ≤ bytes.length := by
        refine Nat.le_of_not_lt fun hlt => ?_
        obtain ⟨b', others, hm⟩ : ∃ b' others, more = b' :: others := by
          refine List.exists_cons_of_ne_nil fun hnil => ?_
          rw [hnil, List.append_nil] at hle
          omega
        have hmem : b' ∈ (bytes ++ more).take (length - 1) := by
          rw [hm, List.take_append, List.take_cons (by omega)]
          exact List.mem_append_right _ List.mem_cons_self
        have hlow := hmore b' (by rw [hm]; rfl)
        have hhigh := htake b' hmem
        omega
      obtain ⟨front, hfront⟩ := exists_decodeNameFrom_append hmore hbytes
      exact ⟨_ :: front, congrArg (List.cons _) hfront⟩

/-- The bytes of characters of ASCII, which are their codes. -/
def asciiBytes (cs : List Char) : List UInt8 := cs.map fun c => UInt8.ofNat c.toNat

theorem decodeNameFrom_asciiBytes : ∀ {cs : List Char}, (∀ c ∈ cs, c.toNat < 0x80) →
    decodeNameFrom 0 (asciiBytes cs) = cs.map .char
  | [], _ => rfl
  | c :: cs, h => by
    rw [List.forall_mem_cons] at h
    have hbyte : (UInt8.ofNat c.toNat).toNat = c.toNat := toNat_byte_of_lt (by omega)
    have hfirst : ∀ rest, decodeFirst (UInt8.ofNat c.toNat) rest = .character c 1 := by
      intro rest
      simp only [decodeFirst, hbyte, h.1, if_true, Char.ofNat_toNat]
    rw [asciiBytes, List.map_cons, decodeNameFrom, hfirst]
    exact congrArg (List.cons _) (decodeNameFrom_asciiBytes h.2)

theorem encodeFrom_ascii (byteOf : Fin 2048 → Option UInt8) : ∀ {cs : List Char} (position : Nat),
    (∀ c ∈ cs, c.toNat < 0x80) → encodeFrom byteOf position (cs.map .char) = .ok (asciiBytes cs)
  | [], _, _ => rfl
  | c :: cs, position, h => by
    rw [List.forall_mem_cons] at h
    have hfirst : encodeChar c = [UInt8.ofNat c.toNat] := if_pos h.1
    rw [List.map_cons, encodeFrom, encodeFrom_ascii byteOf (position + 1) h.2, hfirst]
    rfl

/-- Characters of ASCII at the end are the last bytes. -/
theorem exists_encodeFrom_append {cs : List Char} (h : ∀ c ∈ cs, c.toNat < 0x80) (byteOf : Fin 2048 → Option UInt8) :
    ∀ {letters : List Letter} {position : Nat} {bytes : List UInt8},
      encodeFrom byteOf position (letters ++ cs.map .char) = .ok bytes → ∃ front, bytes = front ++ asciiBytes cs
  | [], position, bytes, hb => by
    rw [List.nil_append, encodeFrom_ascii byteOf position h] at hb
    exact ⟨[], (Except.ok.inj hb).symm⟩
  | .char c :: letters, position, bytes, hb => by
    rw [List.cons_append, encodeFrom] at hb
    cases hr : encodeFrom byteOf (position + 1) (letters ++ cs.map .char) with
    | error e =>
      rw [hr] at hb
      cases hb
    | ok rest =>
      rw [hr] at hb
      cases hb
      obtain ⟨front, rfl⟩ := exists_encodeFrom_append h byteOf hr
      exact ⟨encodeChar c ++ front, (List.append_assoc ..).symm⟩
  | .half n :: letters, position, bytes, hb => by
    rw [List.cons_append, encodeFrom] at hb
    cases hn : byteOf n with
    | none =>
      rw [hn] at hb
      cases hb
    | some b =>
      rw [hn] at hb
      cases hr : encodeFrom byteOf (position + 1) (letters ++ cs.map .char) with
      | error e =>
        simp only [hr] at hb
        cases hb
      | ok rest =>
        simp only [hr] at hb
        cases hb
        obtain ⟨front, rfl⟩ := exists_encodeFrom_append h byteOf hr
        exact ⟨b :: front, rfl⟩

/-- Characters of ASCII at the end of a name are still there when it is read back. -/
theorem exists_letters_asName_append (t : Text) {cs : List Char} (h : ∀ c ∈ cs, c.toNat < 0x80) :
    ∃ front, (t ++ ofChars cs).asName.letters = front ++ cs.map .char := by
  have hself : (t ++ ofChars cs).letters = t.letters ++ cs.map .char := rfl
  unfold asName
  cases he : (t ++ ofChars cs).encodeName with
  | error e => exact ⟨_, hself⟩
  | ok bytes =>
    show ∃ front, (if (t ++ ofChars cs).letters.any Letter.isHalf then _ else _ : Text).letters = _
    split
    · rw [encodeName, hself] at he
      obtain ⟨front, rfl⟩ := exists_encodeFrom_append h nameByte he
      have hhead : ∀ b, (asciiBytes cs).head? = some b → b.toNat < 0x80 := by
        intro b hb
        obtain ⟨c, hc, rfl⟩ := List.mem_map.mp (List.mem_of_head? hb)
        have hlow := h c hc
        rwa [toNat_byte_of_lt (by omega)]
      obtain ⟨letters, hletters⟩ := exists_decodeNameFrom_append hhead (Nat.zero_le front.length)
      exact ⟨letters, hletters.trans (congrArg _ (decodeNameFrom_asciiBytes h))⟩
    · exact ⟨_, hself⟩

/-! ### Names of entries -/

/-- A name that leads from a directory to one of its entries. -/
structure IsEntryName (t : Text) : Prop where
  ne_empty : t ≠ ""
  ne_dot : t ≠ "."
  ne_dots : t ≠ ".."
  no_slash : .char '/' ∉ t.letters

theorem isEntryName_asName {t : Text} (h : t.IsEntryName) : t.asName.IsEntryName := by
  unfold asName
  cases he : t.encodeName with
  | error e => exact h
  | ok bytes =>
    obtain ⟨hlow, hhalf⟩ := encodeFrom_nameByte he
    show (if t.letters.any Letter.isHalf then _ else _ : Text).IsEntryName
    split
    · next hany =>
      obtain ⟨b, hb, hle⟩ := hhalf (List.any_eq_true.mp hany)
      have hdots : ∀ u : Text, (∀ l ∈ u.letters, l = .char '.') → (⟨decodeNameFrom 0 bytes⟩ : Text) ≠ u := by
        rintro u hu rfl
        have := lt_of_decodeNameFrom_dots hu b hb
        omega
      refine ⟨hdots _ ?_, hdots _ ?_, hdots _ ?_, fun hm => ?_⟩
      · decide
      · decide
      · decide
      · obtain ⟨b', hb', hs⟩ := mem_of_slash_mem_decodeNameFrom hm
        have hmem := hlow b' hb' (by omega)
        rw [hs] at hmem
        exact h.no_slash hmem
    · exact h

end Text
end GeneratorHost
