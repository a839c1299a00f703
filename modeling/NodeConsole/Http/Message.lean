import NodeConsole.Http.Header
/-!
Requests and replies as they travel.
-/

namespace NodeConsole.Http

structure Request where
  method : String
  target : String
  headers : Headers
  body : ByteArray := .empty

structure Reply where
  status : Nat
  headers : Headers
  body : ByteArray := .empty

def bodyOf (text : String) : ByteArray :=
  text.toByteArray

def bodyOfBytes (bytes : List UInt8) : ByteArray :=
  ⟨bytes.toArray⟩

def bodyBytes (body : ByteArray) : List UInt8 :=
  body.data.toList

theorem length_bodyBytes (body : ByteArray) : (bodyBytes body).length = body.size := by
  rw [bodyBytes, Array.length_toList, ByteArray.size]

def decimalValue (n : Nat) : List UInt8 :=
  (Nat.toDigits 10 n).map fun c => UInt8.ofNat c.toNat

end NodeConsole.Http
