import GeneratorHost.Text.Basic
import GeneratorHost.Text.Digit

/-! Numbers in hexadecimal digits. Only the sixteen digits occur, and two numbers are not written alike. -/

namespace GeneratorHost
namespace Text

theorem exists_of_mem_toDigits {c : Char} (n : Nat) (h : c ∈ Nat.toDigits 16 n) : ∃ d < 16, c = d.digitChar := by
  induction n using Nat.strongRecOn with
  | ind n ih =>
    rw [Nat.toDigits_eq_if (by decide)] at h
    split at h
    · next hn => exact ⟨n, hn, List.mem_singleton.mp h⟩
    · rcases List.mem_append.mp h with h | h
      · exact ih (n / 16) (by omega) h
      · exact ⟨n % 16, Nat.mod_lt _ (by decide), List.mem_singleton.mp h⟩

theorem mem_hexPadded {width n : Nat} {l : Letter} (h : l ∈ (ofString (hexPadded width n)).letters) :
    ∃ d < 16, l = .char (Nat.digitChar d) := by
  simp only [ofString, ofChars, hexPadded, String.toList_ofList, List.mem_map] at h
  obtain ⟨c, hc, rfl⟩ := h
  rcases List.mem_append.mp hc with hc | hc
  · exact ⟨0, by decide, congrArg Letter.char (List.eq_of_mem_replicate hc)⟩
  · obtain ⟨d, hd, rfl⟩ := exists_of_mem_toDigits n hc
    exact ⟨d, hd, rfl⟩

/-- The number that hexadecimal digits stand for. -/
def hexValue (cs : List Char) : Nat := ofDigits 16 (cs.map fun c => (baseDigit? c).getD 0)

theorem hexValue_concat (cs : List Char) (c : Char) :
    hexValue (cs ++ [c]) = hexValue cs * 16 + (baseDigit? c).getD 0 := by
  simp [hexValue, ofDigits, List.foldl_append]

theorem hexValue_toDigits (n : Nat) : hexValue (Nat.toDigits 16 n) = n := by
  have hdigit : ∀ d < 16, (baseDigit? d.digitChar).getD 0 = d := by decide
  induction n using Nat.strongRecOn with
  | ind n ih =>
    rw [Nat.toDigits_eq_if (by decide)]
    split
    · next hn =>
      have h := hexValue_concat [] n.digitChar
      rw [hdigit n hn] at h
      exact h.trans (by simp [hexValue, ofDigits])
    · rw [hexValue_concat, ih (n / 16) (by omega), hdigit _ (Nat.mod_lt _ (by decide))]
      omega

theorem hexValue_zeros (k : Nat) (cs : List Char) : hexValue (List.replicate k '0' ++ cs) = hexValue cs := by
  induction k with
  | zero => rfl
  | succ k ih =>
    rw [List.replicate_succ, List.cons_append]
    exact ih

theorem hexPadded_inj {width n m : Nat} (h : hexPadded width n = hexPadded width m) : n = m := by
  have hchars := String.ofList_injective h
  have hvalue := congrArg hexValue hchars
  simp only [hexValue_zeros, hexValue_toDigits] at hvalue
  exact hvalue

end Text
end GeneratorHost
