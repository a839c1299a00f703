import NodeConsole.Http.Fault
import NodeConsole.Http.Header
import NodeConsole.Text.Utf8
/-!
The header lines of a message, up to the empty line after them. Lines end in a line feed with or
without a carriage return before it.
-/

namespace NodeConsole.Http

def headerLimit : Nat :=
  100

def lineEnd (fault : HeadFault) : List UInt8 → Except HeadFault (List UInt8)
  | [] => .error .closed
  | 0x0A :: rest => .ok rest
  | [0x0D] => .error .closed
  | 0x0D :: 0x0A :: rest => .ok rest
  | _ => .error fault

def isBlankByte (byte : UInt8) : Bool :=
  byte == 0x20 || byte == 0x09

def trimValue (value : List UInt8) : List UInt8 :=
  ((value.dropWhile isBlankByte).reverse.dropWhile isBlankByte).reverse

def lowerName (name : List UInt8) : String :=
  String.ofList (name.map fun byte => (Char.ofNat byte.toNat).toLower)

def readHeaders : Nat → List UInt8 → Except HeadFault (Headers × List UInt8)
  | limit, s =>
    match s with
    | [] => .error .closed
    | first :: _ =>
      if first = 0x0D ∨ first = 0x0A then (lineEnd .badHeader s).map fun rest => ([], rest)
      else
        match limit with
        | 0 => .error .tooLarge
        | limit + 1 => do
          let name := s.takeWhile isTokenByte
          match s.dropWhile isTokenByte with
          | [] => .error .closed
          | mark :: rest =>
            if name = [] ∨ mark ≠ 0x3A then .error .badHeader
            else
              let rest ← lineEnd .badHeader (rest.dropWhile isValueByte)
              let value := trimValue
                ((s.drop (name.length + 1)).takeWhile isValueByte)
              let (headers, rest) ← readHeaders limit rest
              .ok ((lowerName name, value) :: headers, rest)

def headerBytes (headers : Headers) : List UInt8 :=
  headers.flatMap (fun header => Utf8.bytes header.1 ++ [0x3A, 0x20] ++ header.2 ++ [0x0D, 0x0A]) ++
    [0x0D, 0x0A]

end NodeConsole.Http
