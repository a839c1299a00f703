import NodeConsole.Http.Chunked
import NodeConsole.Http.HeaderBlock
import NodeConsole.Http.Message
/-!
Replies as bytes on a connection that is closed after them. The end of a body is given by its length,
by its chunks or by the end of the connection.
-/

namespace NodeConsole.Http

/-! ## Lengths -/

def commaPieces (value : List UInt8) : List (List UInt8) :=
  (value.foldr
    (fun byte pieces =>
      match pieces with
      | [] => [[byte]]
      | piece :: rest => if byte = 0x2C then [] :: piece :: rest else (byte :: piece) :: rest)
    [[]]).map trimValue

def decimal64? (digits : List UInt8) : Option Nat :=
  if digits = [] then none
  else
    digits.foldlM
      (fun n digit =>
        if 0x30 ≤ digit.toNat ∧ digit.toNat ≤ 0x39 ∧ n * 10 + (digit.toNat - 0x30) < Nat.pow 2 64 then
          some (n * 10 + (digit.toNat - 0x30))
        else none)
      0

def bodyLength? (headers : Headers) : Option Nat :=
  match (headers.values "content-length").flatMap commaPieces with
  | [] => none
  | first :: rest =>
    match decimal64? first with
    | none => none
    | some length => if rest.all fun other => decimal64? other == some length then some length else none

def isChunked (headers : Headers) : Bool :=
  match (headers.values "transfer-encoding").getLast? with
  | none => false
  | some value =>
    ((commaPieces value).getLast?.map fun piece => lowerName piece) == some "chunked"

/-! ## Heads -/

structure Head where
  version : Nat
  status : Nat
  headers : Headers
deriving DecidableEq, Repr

def expectBytes (fault : HeadFault) : List UInt8 → List UInt8 → Except HeadFault (List UInt8)
  | [], s => .ok s
  | _ :: _, [] => .error .closed
  | expected :: more, byte :: rest => if byte = expected then expectBytes fault more rest else .error fault

def skipLines : List UInt8 → Except HeadFault (List UInt8)
  | 0x0A :: rest => skipLines rest
  | 0x0D :: 0x0A :: rest => skipLines rest
  | [0x0D] => .error .closed
  | 0x0D :: _ => .error .badHeader
  | s => .ok s

def readVersion (s : List UInt8) : Except HeadFault (Nat × List UInt8) := do
  let rest ← expectBytes .badVersion (Utf8.bytes "HTTP/1.") s
  match rest with
  | 0x30 :: rest => .ok (0, rest)
  | 0x31 :: rest => .ok (1, rest)
  | [] => .error .closed
  | _ => .error .badVersion

def readStatus (s : List UInt8) : Except HeadFault (Nat × List UInt8) :=
  let digits := (s.take 3).takeWhile fun byte => 0x30 ≤ byte.toNat && byte.toNat ≤ 0x39
  if digits.length = 3 then
    .ok (digits.foldl (fun n digit => n * 10 + (digit.toNat - 0x30)) 0, s.drop 3)
  else if digits.length = s.length then .error .closed
  else .error .badStatus

def readReason : List UInt8 → Except HeadFault (List UInt8)
  | 0x20 :: rest => lineEnd .badStatus (rest.dropWhile isValueByte)
  | rest => lineEnd .badStatus rest

def readHead (s : List UInt8) : Except HeadFault (Head × List UInt8) := do
  let s ← skipLines s
  let (version, s) ← readVersion s
  let s ← expectBytes .badVersion [0x20] s
  let (status, s) ← readStatus s
  let s ← readReason s
  let (headers, s) ← readHeaders headerLimit s
  if status < 100 then .error .badStatus else .ok (⟨version, status, headers⟩, s)

def isInformational (status : Nat) : Bool :=
  100 ≤ status && status < 200 && status != 101

def readFinalHead : Nat → List UInt8 → Except HeadFault (Head × List UInt8)
  | 0, _ => .error .closed
  | limit + 1, s =>
    match readHead s with
    | .error fault => .error fault
    | .ok (head, rest) => if isInformational head.status then readFinalHead limit rest else .ok (head, rest)

/-! ## Replies -/

inductive Outcome where
  | lost (fault : HeadFault)
  | answered (status : Nat) (headers : Headers) (body : Except BodyFault ByteArray)

/-- The body behind a head. Replies to `HEAD` and some statuses have none. -/
def readBody (method : String) (head : Head) (s : List UInt8) :
    Except HeadFault (Except BodyFault ByteArray) :=
  if method = "HEAD" ∨ head.status = 101 ∨ head.status = 204 ∨ head.status = 304 then
    .ok (.ok .empty)
  else if head.headers.has "transfer-encoding" then
    if head.version = 0 then .error .badEncoding
    else if isChunked head.headers then .ok ((dechunk s).map bodyOfBytes)
    else .ok (.ok (bodyOfBytes s))
  else if head.headers.has "content-length" then
    match bodyLength? head.headers with
    | none => .error .badLength
    | some length =>
      if Nat.pow 2 64 - 3 < length then .error .tooLarge
      else if s.length < length then .ok (.error .cutShort)
      else .ok (.ok (bodyOfBytes (s.take length)))
  else .ok (.ok (bodyOfBytes s))

def Outcome.ofBytes (method : String) (s : List UInt8) : Outcome :=
  match readFinalHead (s.length + 1) s with
  | .error fault => .lost fault
  | .ok (head, rest) =>
    match readBody method head rest with
    | .error fault => .lost fault
    | .ok body => .answered head.status head.headers body

end NodeConsole.Http
