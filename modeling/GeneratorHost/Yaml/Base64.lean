import GeneratorHost.Text.Basic

/-! Bytes written with sixty-four characters, four of them for three bytes. Characters outside of these are
    passed over; what comes behind the padding does not count. -/

namespace GeneratorHost
namespace Yaml
namespace Base64

/-- The six bits that a character stands for. -/
def sextet? (c : Char) : Option Nat :=
  let n := c.toNat
  if 0x41 ≤ n && n ≤ 0x5A then some (n - 0x41)
  else if 0x61 ≤ n && n ≤ 0x7A then some (n - 0x61 + 26)
  else if 0x30 ≤ n && n ≤ 0x39 then some (n - 0x30 + 52)
  else if c == '+' then some 62
  else if c == '/' then some 63
  else none

/-- Reads characters behind `place` characters of a group of four, the last of which left `bits` over and
    `pads` padding characters behind them. -/
def decodeFrom (place bits pads : Nat) : List Char → Option (List UInt8)
  | [] => if place == 0 then some [] else none
  | c :: cs =>
    if c == '=' then
      if place ≥ 2 then
        if place + pads + 1 ≥ 4 then some [] else decodeFrom place bits (pads + 1) cs
      else decodeFrom place bits pads cs
    else match sextet? c with
      | none => decodeFrom place bits pads cs
      | some n =>
        match place with
        | 0 => decodeFrom 1 n 0 cs
        | 1 => (decodeFrom 2 (n % 16) 0 cs).map (UInt8.ofNat (bits * 4 + n / 16) :: ·)
        | 2 => (decodeFrom 3 (n % 4) 0 cs).map (UInt8.ofNat (bits * 16 + n / 4) :: ·)
        | _ => (decodeFrom 0 0 0 cs).map (UInt8.ofNat (bits * 64 + n) :: ·)

/-- The bytes that a text of ASCII characters is written for. -/
def decode? (t : Text) : Option (List UInt8) :=
  match t.chars? with
  | some cs => if cs.all fun c => c.toNat < 0x80 then decodeFrom 0 0 0 cs else none
  | none => none

end Base64
end Yaml
end GeneratorHost
