/-!
Text as bytes. `encode` writes characters as bytes and `characters` reads them back, one entry per
character and one empty entry per maximal piece that belongs to no character. `decode?` refuses a
text with such a piece; `decodeLossy` shows each as one replacement character.
-/

namespace NodeConsole.Utf8

def encode (chars : List Char) : List UInt8 :=
  chars.flatMap String.utf8EncodeChar

def bytes (text : String) : List UInt8 :=
  encode text.toList

/-- Where a reader stands between two bytes: after `value` has been gathered, the next byte has to
lie in `low … high`, and `more` bytes from `0x80 … 0xBF` follow it. -/
structure Pending where
  low : Nat
  high : Nat
  more : Nat
  value : Nat
deriving DecidableEq, Repr

inductive Lead where
  | single (c : Char)
  | opens (pending : Pending)
  | stray
deriving DecidableEq, Repr

/-- The ranges for the second byte leave out overlong forms, surrogates and values above
`0x10FFFF`, so every character has one encoding only. -/
def lead (byte : UInt8) : Lead :=
  let b := byte.toNat
  if b < 0x80 then .single (Char.ofNat b)
  else if b < 0xC2 then .stray
  else if b < 0xE0 then .opens ⟨0x80, 0xBF, 0, b - 0xC0⟩
  else if b = 0xE0 then .opens ⟨0xA0, 0xBF, 1, 0⟩
  else if b = 0xED then .opens ⟨0x80, 0x9F, 1, 0xD⟩
  else if b < 0xF0 then .opens ⟨0x80, 0xBF, 1, b - 0xE0⟩
  else if b = 0xF0 then .opens ⟨0x90, 0xBF, 2, 0⟩
  else if b < 0xF4 then .opens ⟨0x80, 0xBF, 2, b - 0xF0⟩
  else if b = 0xF4 then .opens ⟨0x80, 0x8F, 2, 4⟩
  else .stray

structure Progress where
  pending : Option Pending
  done : List (Option Char)
deriving DecidableEq, Repr

def Progress.start (done : List (Option Char)) (byte : UInt8) : Progress :=
  match lead byte with
  | .single c => ⟨none, some c :: done⟩
  | .opens pending => ⟨some pending, done⟩
  | .stray => ⟨none, none :: done⟩

/-- Read a byte. One that cannot continue a character ends the broken piece and is read as the
start of the next character. -/
def Progress.step (progress : Progress) (byte : UInt8) : Progress :=
  match progress.pending with
  | none => .start progress.done byte
  | some pending =>
    if pending.low ≤ byte.toNat ∧ byte.toNat ≤ pending.high then
      let value := pending.value * 64 + byte.toNat % 64
      match pending.more with
      | 0 => ⟨none, some (Char.ofNat value) :: progress.done⟩
      | more + 1 => ⟨some ⟨0x80, 0xBF, more, value⟩, progress.done⟩
    else .start (none :: progress.done) byte

def Progress.finish (progress : Progress) : List (Option Char) :=
  match progress.pending with
  | none => progress.done.reverse
  | some _ => (none :: progress.done).reverse

def characters (text : List UInt8) : List (Option Char) :=
  (text.foldl Progress.step ⟨none, []⟩).finish

def decode? (text : List UInt8) : Option (List Char) :=
  (characters text).mapM id

def decodeLossy (text : List UInt8) : List Char :=
  (characters text).map (·.getD '\uFFFD')

example : decodeLossy [0x61, 0xE4, 0xBE, 0x62] = ['a', '\uFFFD', 'b'] := by decide
example : decode? [0xE4, 0xBE, 0x8B] = some ['例'] := by decide
example : decode? [0xC0, 0x80] = none := by decide

end NodeConsole.Utf8
