import Mathlib.Data.List.Basic
import NodeConsole.Http.Call
import NodeConsole.Proofs.Text.Utf8
/-!
Calls and what is sent of them. A URL gives a call nothing but what tells who sends it, and a call is
given little more as it is sent.
-/

namespace NodeConsole.Http

/-! ## User names and passwords -/

def spoken (part : List Char) : List UInt8 :=
  Url.percentDecode (Utf8.encode part)

def IsText (part : List Char) : Prop :=
  (Utf8.decode? (spoken part)).isSome = true

instance (part : List Char) : Decidable (IsText part) :=
  inferInstanceAs (Decidable (_ = _))

def introduction (username password : List UInt8) : List UInt8 :=
  Utf8.bytes "Basic " ++ Utf8.encode (Text.base64 (username ++ 0x3A :: password))

/-- What a URL says of who sends a request to it: nothing without a user name and a password, and
otherwise both. A password that is no text is left out, and with a user name that is none all is. -/
structure Introduces (url : Url) (values : List (List UInt8)) : Prop where
  both : ∀ password, url.password = some password → IsText password → IsText url.username →
    values = [introduction (spoken url.username) (spoken password)]
  user : (∀ password, url.password = some password → ¬IsText password) → IsText url.username →
    url.username ≠ [] → values = [introduction (spoken url.username) []]
  nobody : (∀ password, url.password = some password → ¬IsText password) → url.username = [] → values = []
  garbled : ¬IsText url.username → values = []

theorem spoken_eq_nil_iff {part : List Char} : spoken part = [] ↔ part = [] := by
  have kept {byte : UInt8} {rest : List UInt8} : Url.percentDecode (byte :: rest) ≠ [] := by
    rw [Url.percentDecode.eq_def]
    split
    · split <;> exact List.cons_ne_nil _ _
    · exact List.cons_ne_nil _ _
    · next none => cases none
  constructor
  · intro nothing
    cases part with
    | nil => rfl
    | cons c rest =>
        rcases List.exists_cons_of_ne_nil (String.utf8EncodeChar_ne_nil (c := c)) with ⟨byte, more, coded⟩
        rw [spoken, Utf8.encode_cons, coded] at nothing
        exact absurd nothing kept
  · intro nothing
    rw [nothing]
    rfl

theorem decodedPart?_of_isText {part : List Char} (isText : IsText part) :
    decodedPart? part = some (spoken part) := by
  rcases Option.isSome_iff_exists.mp isText with ⟨text, decoded⟩
  rw [spoken] at decoded
  rw [decodedPart?, decoded]
  rfl

theorem decodedPart?_of_not_isText {part : List Char} (noText : ¬IsText part) : decodedPart? part = none := by
  rw [IsText, Option.not_isSome_iff_eq_none, spoken] at noText
  rw [decodedPart?, noText]
  rfl

theorem bind_decodedPart?_eq_none {secret : Option (List Char)}
    (silent : ∀ password, secret = some password → ¬IsText password) : secret.bind decodedPart? = none := by
  rw [Option.bind_eq_none_iff]
  intro password given
  exact decodedPart?_of_not_isText (silent password given)

theorem basicCredentials_eq (username password : List UInt8) :
    basicCredentials username password = introduction username password := by
  rw [basicCredentials, introduction, Utf8.encode_append, List.append_assoc]
  rfl

theorem introduces_credentials? (url : Url) :
    Introduces url ((credentials? url).toList.map fun who => basicCredentials who.1 who.2) where
  both password given passwordText userText := by
    rw [credentials?, decodedPart?_of_isText userText, given, Option.bind_some,
      decodedPart?_of_isText passwordText]
    simp [basicCredentials_eq]
  user silent userText named := by
    rw [credentials?, decodedPart?_of_isText userText]
    dsimp only
    rw [bind_decodedPart?_eq_none silent, if_neg (by simp [spoken_eq_nil_iff, named])]
    simp [basicCredentials_eq]
  nobody silent unnamed := by
    have userText : decodedPart? url.username = some [] := by
      rw [unnamed]
      decide
    rw [credentials?, userText]
    dsimp only
    rw [bind_decodedPart?_eq_none silent, if_pos ⟨rfl, rfl⟩]
    rfl
  garbled noText := by
    rw [credentials?, decodedPart?_of_not_isText noText]
    rfl

/-! ## Headers of a URL -/

theorem Call.values_ofUrl_authorization (method : String) (url : Url) :
    (Call.ofUrl method url).headers.values "authorization" =
      (credentials? url).toList.map fun who => basicCredentials who.1 who.2 := by
  rw [Call.ofUrl_headers]
  cases credentials? url <;> simp [Headers.values]

theorem Call.values_ofUrl_other {name : String} (other : name ≠ "authorization") (method : String)
    (url : Url) : (Call.ofUrl method url).headers.values name = [] := by
  rw [Call.ofUrl_headers]
  cases credentials? url <;> simp [Headers.values, Ne.symm other]

/-! ## Headers that are sent -/

def suppliedNames : List String :=
  ["accept", "host", "content-length"]

theorem Call.values_request_other {name : String} (other : name ∉ suppliedNames) (call : Call) :
    call.request.headers.values name = call.headers.values name := by
  simp only [suppliedNames, List.mem_cons, List.not_mem_nil, or_false, not_or] at other
  rcases other with ⟨notAccept, notHost, notLength⟩
  rw [Call.request]
  dsimp only
  split
  · rw [Headers.values_putNew_other notHost, Headers.values_putNew_other notAccept]
  · rw [Headers.values_putNew_other notLength, Headers.values_putNew_other notHost,
      Headers.values_putNew_other notAccept]

theorem Call.values_request_accept (call : Call) :
    call.request.headers.values "accept" =
      if call.headers.values "accept" = [] then [Utf8.bytes "*/*"]
      else call.headers.values "accept" := by
  rw [← Headers.values_putNew_self, Call.request]
  dsimp only
  split
  · rw [Headers.values_putNew_other (by decide)]
  · rw [Headers.values_putNew_other (by decide), Headers.values_putNew_other (by decide)]

theorem Call.values_request_host {call : Call} (absent : call.headers.values "host" = []) :
    call.request.headers.values "host" = [Utf8.bytes (hostPort call.url)] := by
  rw [Call.request]
  dsimp only
  split
  · rw [Headers.values_putNew_self, Headers.values_putNew_other (by decide), if_pos absent]
  · rw [Headers.values_putNew_other (by decide), Headers.values_putNew_self,
      Headers.values_putNew_other (by decide), if_pos absent]

/-- A number is told by its usual text. -/
theorem decimalValue_eq (n : Nat) : decimalValue n = Utf8.bytes (toString n) := by
  have written : ∀ c ∈ Nat.toDigits 10 n, String.utf8EncodeChar c = [UInt8.ofNat c.toNat] := by
    intro c member
    have digit := Nat.isDigit_of_mem_toDigits (by decide) (by decide) member
    rw [Char.isDigit, Bool.and_eq_true, decide_eq_true_iff, decide_eq_true_iff] at digit
    apply Utf8.utf8EncodeChar_of_lt
    exact Nat.lt_of_le_of_lt digit.2 (by decide)
  have text : (toString n).toList = Nat.toDigits 10 n := String.toList_ofList
  rw [decimalValue, Utf8.bytes, Utf8.encode, text, List.flatMap_congr written]
  exact List.map_eq_flatMap

theorem Call.values_request_length {call : Call} (absent : call.headers.values "content-length" = []) :
    call.request.headers.values "content-length" =
      if call.body.size = 0 then [] else [Utf8.bytes (toString call.body.size)] := by
  have stillAbsent (accept host : List UInt8) :
      ((call.headers.putNew "accept" accept).putNew "host" host).values "content-length" = [] := by
    rw [Headers.values_putNew_other (by decide), Headers.values_putNew_other (by decide), absent]
  rw [Call.request]
  dsimp only
  split
  · exact stillAbsent _ _
  · rw [Headers.values_putNew_self, if_pos (stillAbsent _ _), decimalValue_eq]

end NodeConsole.Http
