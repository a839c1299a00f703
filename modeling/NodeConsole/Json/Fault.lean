import NodeConsole.Json.Basic
/-!
Why a JSON text, or a value of the wrong shape, is refused. A cause is kept apart from its wording
and from the place in the text where reading stopped.
-/

namespace NodeConsole.Json

inductive Found where
  | null
  | bool (value : Bool)
  | number (value : Number)
  | string (text : String)
  | array
  | object
deriving DecidableEq, Repr

inductive Expected where
  | boolean
  | string
  | natural64
  | record (name : String)
deriving DecidableEq, Repr

inductive Cause where
  | endInArray
  | endInObject
  | endInString
  | endInValue
  | expectedColon
  | expectedCommaOrBracket
  | expectedCommaOrBrace
  | expectedWord
  | expectedValue
  | badEscape
  | badNumber
  | numberOutOfRange
  | badUnicode
  | controlInString
  | nameNotString
  | loneSurrogate
  | unfinishedSurrogate
  | trailingComma
  | trailingText
  | nestedTooDeep
  | wrongType (found : Found) (expected : Expected)
  | wrongValue (found : Found) (expected : Expected)
  | repeatedField (name : String)
  | tooManyItems (count : Nat)
deriving DecidableEq, Repr

structure Place where
  line : Nat
  column : Nat
deriving DecidableEq, Repr

structure Error where
  cause : Cause
  place : Option Place
deriving DecidableEq, Repr

def Place.after (consumed : List UInt8) : Place :=
  let line := consumed.count 0x0A + 1
  let column := (consumed.reverse.takeWhile (· != 0x0A)).length
  ⟨line, column⟩

example : Place.after [0x61, 0x0A, 0x62, 0x63] = ⟨2, 2⟩ := by decide

end NodeConsole.Json
