import GeneratorHost.Text.Basic
import GeneratorHost.Text.Quoted

/-! Text as bytes. Every character is written in one to four bytes, and a half in none; reading is strict and
    reports the first sequence of bytes that no text is written as. -/

namespace GeneratorHost
namespace Text

/-- The bytes of one character. -/
def encodeChar (c : Char) : List UInt8 :=
  let n := c.toNat
  if n < 0x80 then [UInt8.ofNat n]
  else if n < 0x800 then [UInt8.ofNat (0xC0 + n / 0x40), UInt8.ofNat (0x80 + n % 0x40)]
  else if n < 0x10000 then
    [UInt8.ofNat (0xE0 + n / 0x1000), UInt8.ofNat (0x80 + n / 0x40 % 0x40), UInt8.ofNat (0x80 + n % 0x40)]
  else
    [UInt8.ofNat (0xF0 + n / 0x40000), UInt8.ofNat (0x80 + n / 0x1000 % 0x40),
      UInt8.ofNat (0x80 + n / 0x40 % 0x40), UInt8.ofNat (0x80 + n % 0x40)]

/-- The first halves that are not written: where they start, how many there are in a row, and the code of
    the first of them. -/
structure EncodeError where
  position : Nat
  length : Nat
  first : Nat
  deriving DecidableEq, Repr

/-- The bytes of letters, the first of which has the given position. A half is written if it has a byte of
    its own. -/
def encodeFrom (byteOf : Fin 2048 → Option UInt8) (position : Nat) : List Letter → Except EncodeError (List UInt8)
  | [] => .ok []
  | .char c :: ls => (encodeFrom byteOf (position + 1) ls).map (encodeChar c ++ ·)
  | .half n :: ls =>
    match byteOf n with
    | some b => (encodeFrom byteOf (position + 1) ls).map (b :: ·)
    | none => .error ⟨position, (ls.takeWhile Letter.isHalf).length + 1, (Letter.half n).code⟩

/-- The bytes of a text, in which no half may stand. -/
def encode (t : Text) : Except EncodeError (List UInt8) := encodeFrom (fun _ => none) 0 t.letters

/-- The byte that stands as a half in the name of a file. -/
def nameByte (n : Fin 2048) : Option UInt8 :=
  if 0x480 ≤ n.val && n.val < 0x500 then some (UInt8.ofNat (n.val - 0x400)) else none

/-- The bytes of the name of a file. -/
def encodeName (t : Text) : Except EncodeError (List UInt8) := encodeFrom nameByte 0 t.letters

/-- The wording of an encoding error: one half is named, of several the positions. -/
def EncodeError.message (e : EncodeError) : String :=
  let place :=
    if e.length == 1 then "character '" ++ codeEscape e.first ++ "' in position " ++ ofNat e.position
    else "characters in position " ++ ofNat e.position ++ "-" ++ ofNat (e.position + e.length - 1)
  "'utf-8' codec can't encode " ++ place ++ ": surrogates not allowed"

/-- Why a sequence of bytes is not read. -/
inductive DecodeCause
  | invalidStart
  | invalidContinuation
  | unexpectedEnd
  deriving DecidableEq, Repr

/-- The first bytes that are not read: where they start, how many there are, and the first of them. -/
structure DecodeError where
  cause : DecodeCause
  position : Nat
  length : Nat
  first : UInt8
  deriving DecidableEq, Repr

/-- What stands at the front of a list of bytes: a character and the number of its bytes, or a fault and
    the number of bytes it spans. -/
inductive Decoded
  | character (c : Char) (length : Nat)
  | fault (cause : DecodeCause) (length : Nat)

/-- A byte that continues a character. -/
def isContinuation (b : UInt8) : Bool := 0x80 ≤ b.toNat && b.toNat < 0xC0

/-- Whether `second` may follow the leading byte `first`: no character is written in more bytes than it
    needs, none is a surrogate and none lies beyond the last one. -/
def follows (first second : UInt8) : Bool :=
  isContinuation second &&
    !(first.toNat == 0xE0 && second.toNat < 0xA0) && !(first.toNat == 0xED && 0xA0 ≤ second.toNat) &&
    !(first.toNat == 0xF0 && second.toNat < 0x90) && !(first.toNat == 0xF4 && 0x90 ≤ second.toNat)

/-- The payload of a continuation byte. -/
def payload (b : UInt8) : Nat := b.toNat - 0x80

/-- Reads the character that starts with `first` and goes on in `rest`. -/
def decodeFirst (first : UInt8) (rest : List UInt8) : Decoded :=
  let n := first.toNat
  if n < 0x80 then .character (Char.ofNat n) 1
  else if n < 0xC2 then .fault .invalidStart 1
  else if n < 0xE0 then
    match rest with
    | [] => .fault .unexpectedEnd 1
    | b :: _ =>
      if follows first b then .character (Char.ofNat ((n - 0xC0) * 0x40 + payload b)) 2
      else .fault .invalidContinuation 1
  else if n < 0xF0 then
    match rest with
    | [] => .fault .unexpectedEnd 1
    | [b] => if follows first b then .fault .unexpectedEnd 2 else .fault .invalidContinuation 1
    | b :: c :: _ =>
      if !follows first b then .fault .invalidContinuation 1
      else if !isContinuation c then .fault .invalidContinuation 2
      else .character (Char.ofNat ((n - 0xE0) * 0x1000 + payload b * 0x40 + payload c)) 3
  else if n < 0xF5 then
    match rest with
    | [] => .fault .unexpectedEnd 1
    | [b] => if follows first b then .fault .unexpectedEnd 2 else .fault .invalidContinuation 1
    | [b, c] =>
      if !follows first b then .fault .invalidContinuation 1
      else if !isContinuation c then .fault .invalidContinuation 2
      else .fault .unexpectedEnd 3
    | b :: c :: d :: _ =>
      if !follows first b then .fault .invalidContinuation 1
      else if !isContinuation c then .fault .invalidContinuation 2
      else if !isContinuation d then .fault .invalidContinuation 3
      else .character
        (Char.ofNat ((n - 0xF0) * 0x40000 + payload b * 0x1000 + payload c * 0x40 + payload d)) 4
  else .fault .invalidStart 1

/-- Reads `bytes`, the first of which has the given position; `skip` of them belong to the character
    read last. -/
def decodeFrom (position skip : Nat) : List UInt8 → Except DecodeError (List Char)
  | [] => .ok []
  | b :: rest =>
    match skip with
    | skip + 1 => decodeFrom (position + 1) skip rest
    | 0 => match decodeFirst b rest with
      | .character c length => (decodeFrom (position + 1) (length - 1) rest).map (c :: ·)
      | .fault cause length => .error ⟨cause, position, length, b⟩

/-- The text that `bytes` are written as. -/
def decode (bytes : List UInt8) : Except DecodeError String :=
  (decodeFrom 0 0 bytes).map String.ofList

/-- Reads the bytes of the name of a file, where a byte that is not read stands as a half; `skip` of them
    belong to the letter read last. -/
def decodeNameFrom (skip : Nat) : List UInt8 → List Letter
  | [] => []
  | b :: rest =>
    match skip with
    | skip + 1 => decodeNameFrom skip rest
    | 0 => match decodeFirst b rest with
      | .character c length => .char c :: decodeNameFrom (length - 1) rest
      | .fault .. => Letter.ofCode (0xDC00 + b.toNat) :: decodeNameFrom 0 rest

/-- The text as it is read back once it has been the name of a file: halves whose bytes make up a character
    become that character. -/
def asName (t : Text) : Text :=
  match t.encodeName with
  | .ok bytes => if t.letters.any Letter.isHalf then ⟨decodeNameFrom 0 bytes⟩ else t
  | .error _ => t

def DecodeCause.message : DecodeCause → String
  | .invalidStart => "invalid start byte"
  | .invalidContinuation => "invalid continuation byte"
  | .unexpectedEnd => "unexpected end of data"

/-- The wording of a decoding error: one byte is named, of several the positions. -/
def DecodeError.message (e : DecodeError) : String :=
  let place :=
    if e.length == 1 then
      "byte 0x" ++ hexPadded 2 e.first.toNat ++ " in position " ++ ofNat e.position
    else
      "bytes in position " ++ ofNat e.position ++ "-" ++ ofNat (e.position + e.length - 1)
  "'utf-8' codec can't decode " ++ place ++ ": " ++ e.cause.message

end Text
end GeneratorHost
