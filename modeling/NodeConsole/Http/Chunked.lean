import NodeConsole.Http.Fault
/-!
Bodies in chunks. A chunk is a line with its size in hexadecimal, possibly with extensions after it,
and as many bytes; a chunk without bytes ends the body, and trailers may follow it.
-/

namespace NodeConsole.Http

inductive ChunkPlace where
  | sizeStart
  | size (read : Nat)
  | sizeBlank (read : Nat)
  | extension (read : Nat)
  | sizeEnd (read : Nat)
  | bytes (left : Nat)
  | chunkReturn
  | chunkEnd
  | lastReturn
  | lastEnd
  | trailer
  | trailerEnd
  | done
deriving DecidableEq, Repr

structure ChunkProgress where
  place : ChunkPlace := .sizeStart
  read : List UInt8 := []
deriving DecidableEq, Repr

def sizeDigit? (byte : UInt8) : Option Nat :=
  let b := byte.toNat
  if 0x30 ≤ b ∧ b ≤ 0x39 then some (b - 0x30)
  else if 0x41 ≤ b ∧ b ≤ 0x46 then some (b - 0x37)
  else if 0x61 ≤ b ∧ b ≤ 0x66 then some (b - 0x57)
  else none

def afterSize (read : Nat) (fault : BodyFault) (byte : UInt8) : Except BodyFault ChunkPlace :=
  if byte = 0x09 ∨ byte = 0x20 then .ok (.sizeBlank read)
  else if byte = 0x3B then .ok (.extension read)
  else if byte = 0x0D then .ok (.sizeEnd read)
  else .error fault

def ChunkPlace.next (byte : UInt8) : ChunkPlace → Except BodyFault ChunkPlace
  | .sizeStart =>
    match sizeDigit? byte with
    | some digit => .ok (.size digit)
    | none => .error .noSize
  | .size read =>
    match sizeDigit? byte with
    | some digit =>
      if read * 16 + digit < Nat.pow 2 64 then .ok (.size (read * 16 + digit)) else .error .sizeOverflow
    | none => afterSize read .badSize byte
  | .sizeBlank read => afterSize read .badSizeBlank byte
  | .extension read =>
    if byte = 0x0D then .ok (.sizeEnd read)
    else if byte = 0x0A then .error .badExtension
    else .ok (.extension read)
  | .sizeEnd read =>
    if byte ≠ 0x0A then .error .badSizeEnd
    else .ok (if read = 0 then .lastReturn else .bytes read)
  | .bytes left => .ok (.bytes left)
  | .chunkReturn => if byte = 0x0D then .ok .chunkEnd else .error .badChunkReturn
  | .chunkEnd => if byte = 0x0A then .ok .sizeStart else .error .badChunkEnd
  | .lastReturn => .ok (if byte = 0x0D then .lastEnd else .trailer)
  | .lastEnd => if byte = 0x0A then .ok .done else .error .badEnd
  | .trailer => .ok (if byte = 0x0D then .trailerEnd else .trailer)
  | .trailerEnd => if byte = 0x0A then .ok .lastReturn else .error .badTrailerEnd
  | .done => .ok .done

def ChunkProgress.step (progress : ChunkProgress) (byte : UInt8) : Except BodyFault ChunkProgress :=
  match progress.place with
  | .bytes (left + 1) =>
    .ok ⟨if left = 0 then .chunkReturn else .bytes left, byte :: progress.read⟩
  | place => (place.next byte).map fun next => ⟨next, progress.read⟩

def dechunk (bytes : List UInt8) : Except BodyFault (List UInt8) :=
  match bytes.foldlM ChunkProgress.step {} with
  | .error fault => .error fault
  | .ok ⟨.done, read⟩ => .ok read.reverse
  | .ok ⟨.bytes _, _⟩ => .error .cutShort
  | .ok _ => .error .sizeCutShort

example : (dechunk [0x31, 0x0D, 0x0A, 0x61, 0x0D, 0x0A, 0x30, 0x0D, 0x0A, 0x0D, 0x0A]).toOption =
    some [0x61] := by decide

end NodeConsole.Http
