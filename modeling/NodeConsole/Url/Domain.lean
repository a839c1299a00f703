import NodeConsole.Url.Domain.Joiner
import NodeConsole.Url.Domain.Mapping
import NodeConsole.Url.Domain.Punycode
import NodeConsole.Url.Error
import NodeConsole.Url.Percent
import NodeConsole.Url.Segment
/-!
Domain names. A name is mapped, composed and cut into labels at its dots; a label with characters
outside ASCII is written in ASCII after the mark `xn--`, and one that has the mark already has to be
the written form of such a label. Labels have to keep to the rules about directions of writing and
about invisible joiners.
-/

namespace NodeConsole.Url.Domain

def isForbidden (c : Char) : Bool :=
  c.toNat ≤ 0x20 || c.toNat == 0x7F || "#/:<>?@[\\]^|%".toList.contains c

def isAscii (c : Char) : Bool :=
  c.toNat < 0x80

def unmarked? : List Char → Option (List Char)
  | 'x' :: 'n' :: '-' :: '-' :: rest => some rest
  | _ => none

def isProper (label : List Char) : Bool :=
  label.all isValid && !(label.head?.any isMark) && joinersFit label && compose label == label

structure Label where
  text : List Char
  written : List Char
deriving DecidableEq, Repr

def label? (label : List Char) : Option Label :=
  match unmarked? label with
  | some written =>
    if !written.all isAscii then none
    else
      match unpunycode? written with
      | none => none
      | some decoded =>
        if decoded.all isAscii || !isProper decoded then none else some ⟨decoded, label⟩
  | none =>
    if label.all isAscii then some ⟨label, label⟩
    else if isProper label then some ⟨label, "xn--".toList ++ punycode label⟩
    else none

def joinLabels : List (List Char) → List Char
  | [] => []
  | [label] => label
  | label :: rest => label ++ '.' :: joinLabels rest

def ascii? (name : List Char) : Option (List Char) :=
  match mapChars? name with
  | none => none
  | some mapped =>
    let composed := compose mapped
    if composed.any isForbidden then none
    else
      match (piecesAt (· == '.') composed).mapM label? with
      | none => none
      | some labels =>
        if keepDirections (labels.map (·.text)) then some (joinLabels (labels.map (·.written)))
        else none

def ofHost (host : List Char) : Except Error (List Char) :=
  match (Utf8.decode? (percentDecode (Utf8.encode host))).bind ascii? with
  | none => .error .badDomain
  | some [] => .error .emptyHost
  | some name => .ok name

example : (ofHost "Example.%6Frg".toList).toOption = some "example.org".toList := by decide +kernel

end NodeConsole.Url.Domain
