import NodeConsole.Http.Target
import NodeConsole.Http.Wire
/-!
Requests as bytes on a connection. A request without a length and without chunks has no body.
-/

namespace NodeConsole.Http

structure RequestHead where
  method : String
  target : Target
  version : Nat
  headers : Headers
deriving DecidableEq, Repr

def readWord (accepted : UInt8 → Bool) (s : List UInt8) :
    Except HeadFault (List UInt8 × List UInt8) :=
  match s.dropWhile accepted with
  | [] => .error .closed
  | mark :: rest =>
    let word := s.takeWhile accepted
    if word = [] ∨ mark ≠ 0x20 then .error .badHeader else .ok (word, rest)

def isTargetByte (byte : UInt8) : Bool :=
  0x20 < byte.toNat && byte != 0x7F

def readRequestHead (s : List UInt8) : Except HeadFault (RequestHead × List UInt8) := do
  let s ← skipLines s
  let (method, s) ← readWord isTokenByte s
  let (target, s) ← readWord isTargetByte s
  let (version, s) ← readVersion s
  let s ← lineEnd .badVersion s
  let (headers, s) ← readHeaders headerLimit s
  match (Utf8.decode? target).bind fun target => Target.parse? (String.ofList target) with
  | none => .error .badHeader
  | some target =>
    .ok (⟨String.ofList (method.map fun byte => Char.ofNat byte.toNat), target, version, headers⟩, s)

def readRequestBody (head : RequestHead) (s : List UInt8) :
    Except HeadFault (Except BodyFault ByteArray) :=
  if head.headers.has "transfer-encoding" then
    if head.version = 0 ∨ !isChunked head.headers then .error .badEncoding
    else .ok ((dechunk s).map bodyOfBytes)
  else
    match (head.headers.values "content-length").map decimal64? with
    | [] => .ok (.ok .empty)
    | none :: _ => .error .badLength
    | some length :: rest =>
      if rest.any (· != some length) then .error .badLength
      else if s.length < length then .ok (.error .cutShort)
      else .ok (.ok (bodyOfBytes (s.take length)))

end NodeConsole.Http
