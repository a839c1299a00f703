import NodeConsole.Proofs.Json.Encoding
import NodeConsole.Proofs.Json.RoundTrip
import NodeConsole.Proofs.Results
import NodeConsole.Proofs.Settings.Attempts
/-!
What is made of the response to a call. A body that breaks off counts before the status, the status before
what the body says.
-/

namespace NodeConsole

namespace Json

/-! ## Blank bodies -/

theorem isBlankByte_iff {byte : UInt8} :
    Text.isBlankByte byte = true ↔ byte ∈ [0x09, 0x0A, 0x0C, 0x0D, 0x20] := by
  simp [Text.isBlankByte, or_assoc]

theorem not_isBlankByte_of_scalarScan {byte : UInt8} {s : List UInt8} {result : Json × List UInt8}
    (read : scalarScan byte s = .ok result) : Text.isBlankByte byte = false := by
  rcases of_scalarScan_eq_ok read with ⟨letters, literal, listed⟩ | rfl | rfl | digit
  · have visible : literals.all (fun listed => !Text.isBlankByte listed.1) = true := by decide
    simpa using List.all_eq_true.mp visible _ listed
  · rfl
  · rfl
  · have other {mark : UInt8} (noDigit : isDigit mark = false) : byte ≠ mark := ne_of_isDigit digit noDigit
    rw [Bool.eq_false_iff]
    intro blank
    simp only [isBlankByte_iff, List.mem_cons, List.not_mem_nil, or_false] at blank
    rcases blank with tab | feed | form | back | space
    · exact other rfl tab
    · exact other rfl feed
    · exact other rfl form
    · exact other rfl back
    · exact other rfl space

theorem exists_mem_of_read {limit : Nat} {s rest : List UInt8} {value : Json}
    (read : (valueReader limit).read s = .ok (value, rest)) :
    ∃ byte ∈ s, Text.isBlankByte byte = false := by
  rcases read_cases read with ⟨blanks, blank, ⟨byte, tail, _, rfl, scalar⟩ | ⟨_, _, inner⟩⟩
  · exact ⟨byte, by simp, not_isBlankByte_of_scalarScan scalar⟩
  · rcases inner with ⟨values, tail, rfl, _, _⟩ | ⟨entries, tail, rfl, _, _⟩
    · exact ⟨0x5B, by simp, rfl⟩
    · exact ⟨0x7B, by simp, rfl⟩

theorem not_blank_of_read {limit : Nat} {s rest : List UInt8} {value : Json}
    (read : (valueReader limit).read s = .ok (value, rest)) : s.all Text.isBlankByte = false := by
  rcases exists_mem_of_read read with ⟨byte, member, visible⟩
  rw [List.all_eq_false]
  exact ⟨byte, member, by simp [visible]⟩

theorem not_blank_of_ofBytes {text : List UInt8} {value : Json} (read : ofBytes text = .ok value) :
    text.all Text.isBlankByte = false := by
  rw [ofBytes, documentOf] at read
  split at read
  · cases read
  · next found => exact not_blank_of_read found

theorem not_blank_of_decode?_eq_none {text : List UInt8} (broken : Utf8.decode? text = none) :
    text.all Text.isBlankByte = false := by
  apply Bool.eq_false_iff.mpr
  intro blank
  apply Utf8.decode?_eq_none_iff.mp broken
  apply Utf8.reads_of_ascii
  intro byte member
  have isBlank := isBlankByte_iff.mp (List.all_eq_true.mp blank byte member)
  simp only [List.mem_cons, List.not_mem_nil, or_false] at isBlank
  rcases isBlank with rfl | rfl | rfl | rfl | rfl <;> decide

/-- A value with anything but blanks behind it is no document. -/
theorem ofBytes_of_more {text rest : List UInt8} {value : Json}
    (read : (valueReader depthLimit).read text = .ok (value, rest)) (more : ¬Blank rest) :
    ∃ reason, ofBytes text = .error reason := by
  rw [ofBytes, documentOf, read]
  dsimp only
  split
  · next ended => exact absurd (blank_of_skipBlank_eq_nil ended) more
  · exact ⟨_, rfl⟩

end Json

namespace Settings

def Succeeds (status : Nat) : Prop :=
  200 ≤ status ∧ status < 300

def blankBytes : List UInt8 :=
  [0x09, 0x0A, 0x0C, 0x0D, 0x20]

structure Endpoint.Decoded (bytes : List UInt8) (result : Result) : Prop where
  blank : (∀ byte ∈ bytes, byte ∈ blankBytes) → result = .ok .null
  ok_iff : (∃ byte ∈ bytes, byte ∉ blankBytes) → ∀ value, result = .ok value ↔ Json.ofBytes bytes = .ok value
  undecodable : (∃ byte ∈ bytes, byte ∉ blankBytes) → ∀ reason, Json.ofBytes bytes = .error reason →
    result = .error (.undecodable reason)
  noText : Utf8.decode? bytes = none → ∃ reason, result = .error (.undecodable reason)
  moreText : ∀ value rest, (Json.valueReader Json.depthLimit).read bytes = .ok (value, rest) →
    ¬Json.Blank rest → ∃ reason, result = .error (.undecodable reason)
  roundTrip : ∀ value, Json.Integral 127 value → bytes = Utf8.bytes value.compact → result = .ok value

structure Endpoint.Classified (response : Http.Response) (result : Result) : Prop where
  cut : ∀ fault, response.body = .error fault → result = .error (.unanswered (.badBody fault))
  refused : ∀ body, response.body = .ok body → ¬Succeeds response.status →
    result = .error (.refused response.status (String.ofList (Utf8.decodeLossy (Http.bodyBytes body))))
  refusedText : ∀ body text, response.body = .ok body → ¬Succeeds response.status →
    Http.bodyBytes body = Utf8.bytes text → result = .error (.refused response.status text)
  decoded : ∀ body, response.body = .ok body → Succeeds response.status →
    Decoded (Http.bodyBytes body) result
  status_iff : ∀ error n, result = .error error →
    (error.status? = some n ↔
      (∃ body, response.body = .ok body) ∧ ¬Succeeds response.status ∧ response.status = n)

namespace Endpoint

theorem all_isBlankByte_iff {bytes : List UInt8} :
    bytes.all Text.isBlankByte = true ↔ ∀ byte ∈ bytes, byte ∈ blankBytes := by
  rw [List.all_eq_true]
  exact forall₂_congr fun _ _ => Json.isBlankByte_iff

def resultOfBytes (bytes : List UInt8) : Result :=
  if bytes.all Text.isBlankByte then .ok .null else (Json.ofBytes bytes).mapError .undecodable

theorem resultOfBytes_of_error {bytes : List UInt8} (visible : bytes.all Text.isBlankByte = false)
    {reason : Json.Error} (failed : Json.ofBytes bytes = .error reason) :
    resultOfBytes bytes = .error (.undecodable reason) := by
  rw [resultOfBytes, visible, failed]
  rfl

theorem resultOfBytes_of_ok {bytes : List UInt8} {value : Json} (read : Json.ofBytes bytes = .ok value) :
    resultOfBytes bytes = .ok value := by
  rw [resultOfBytes, Json.not_blank_of_ofBytes read, read]
  rfl

theorem decoded_resultOfBytes (bytes : List UInt8) : Decoded bytes (resultOfBytes bytes) := by
  have visible (found : ∃ byte ∈ bytes, byte ∉ blankBytes) : bytes.all Text.isBlankByte = false := by
    rcases found with ⟨byte, member, other⟩
    apply Bool.eq_false_iff.mpr
    intro blank
    exact other (all_isBlankByte_iff.mp blank byte member)
  constructor
  case blank =>
    intro blank
    exact if_pos (all_isBlankByte_iff.mpr blank)
  case ok_iff =>
    intro found value
    rw [resultOfBytes, visible found, if_neg Bool.false_ne_true]
    exact mapError_eq_ok_iff
  case undecodable =>
    intro found reason failed
    exact resultOfBytes_of_error (visible found) failed
  case noText =>
    intro broken
    rcases Json.ofBytes_of_decode?_eq_none broken with ⟨reason, failed⟩
    exact ⟨reason, resultOfBytes_of_error (Json.not_blank_of_decode?_eq_none broken) failed⟩
  case moreText =>
    intro value rest read more
    rcases Json.ofBytes_of_more read more with ⟨reason, failed⟩
    exact ⟨reason, resultOfBytes_of_error (Json.not_blank_of_read read) failed⟩
  case roundTrip =>
    intro value integral written
    apply resultOfBytes_of_ok
    rw [written, Utf8.bytes, Json.compact, String.toList_ofList]
    exact Json.ofBytes_of_spells integral.spells

theorem resultOf_of_success {response : Http.Response} {body : ByteArray} (whole : response.body = .ok body)
    (success : Succeeds response.status) : resultOf response = resultOfBytes (Http.bodyBytes body) := by
  rw [resultOf_of_ok whole]
  exact if_pos success

theorem resultOf_of_refusal {response : Http.Response} {body : ByteArray} (whole : response.body = .ok body)
    (refusal : ¬Succeeds response.status) :
    resultOf response =
      .error (.refused response.status (String.ofList (Utf8.decodeLossy (Http.bodyBytes body)))) := by
  rw [resultOf_of_ok whole]
  exact if_neg refusal

theorem status?_of_resultOfBytes {bytes : List UInt8} {error : CallError}
    (failed : resultOfBytes bytes = .error error) : error.status? = none := by
  rw [resultOfBytes] at failed
  split at failed
  · cases failed
  · cases read : Json.ofBytes bytes with
    | error reason =>
        rw [read] at failed
        cases failed
        rfl
    | ok value =>
        rw [read] at failed
        cases failed

theorem classified_resultOf (response : Http.Response) : Classified response (resultOf response) where
  cut fault broken := resultOf_of_error broken
  refused body whole refusal := resultOf_of_refusal whole refusal
  refusedText body text whole refusal written := by
    rw [resultOf_of_refusal whole refusal, written, Utf8.decodeLossy_bytes]
  decoded body whole success := by
    rw [resultOf_of_success whole success]
    exact decoded_resultOfBytes _
  status_iff error n failed := by
    cases content : response.body with
    | error fault =>
        rw [resultOf_of_error content] at failed
        cases failed
        simp [CallError.status?]
    | ok body =>
        by_cases success : Succeeds response.status
        · rw [resultOf_of_success content success] at failed
          simp [status?_of_resultOfBytes failed, success]
        · rw [resultOf_of_refusal content success] at failed
          cases failed
          simp [CallError.status?, success]

variable {σ : Type} [Http.Carrier σ]

/-- A call whose attempt is answered has the result that the last response stands for. -/
theorem perform_classified {endpoint : Endpoint} {path : String} {url : Url} {document : Option Json}
    {state : σ} {response : Http.Response} (found : endpoint.urlFor path = .ok url)
    (answered : (endpoint.attempt url document state).1 = .ok response) :
    Classified response (endpoint.perform path document state).1 := by
  rw [perform_eq, found]
  dsimp only
  rw [Prod.map_fst, answered]
  exact classified_resultOf response

def nestedDocument : Json :=
  .object [("a\"b", .array [.null, .number (.integer (-7)), .object []]), ("é", .string "\n")]

def answering : Http.Network where
  reachable := true
  answers := [.reply 200 "OK" [] (Utf8.bytes nestedDocument.compact) false]

theorem integral_nestedDocument : Json.Integral 127 nestedDocument := by
  apply Json.Integral.object
  · decide +kernel
  · intro member isMember
    simp only [List.mem_cons, List.not_mem_nil, or_false] at isMember
    rcases isMember with rfl | rfl
    · apply Json.Integral.array
      intro item isItem
      simp only [List.mem_cons, List.not_mem_nil, or_false] at isItem
      rcases isItem with rfl | rfl | rfl
      · exact .null _
      · exact .integer _ (by decide) (by decide)
      · exact .object List.Pairwise.nil fun _ none => by cases none
    · exact .string _ _

theorem perform_classified_nestedDocument :
    (perform ⟨"http://localhost:7412", none⟩ "/settings" none answering).1 = .ok nestedDocument := by
  have found : urlFor ⟨"http://localhost:7412", none⟩ "/settings" =
      .ok { scheme := "http".toList, host := some (.named "localhost".toList), port := some 7412,
            path := .segments ["settings".toList] } := by
    decide +kernel
  have glance : (match (attempt ⟨"http://localhost:7412", none⟩
        { scheme := "http".toList, host := some (.named "localhost".toList), port := some 7412,
          path := .segments ["settings".toList] } none answering).1 with
      | .ok ⟨200, _, .ok body⟩ => Http.bodyBytes body == Utf8.bytes nestedDocument.compact
      | _ => false) = true := by decide +kernel
  split at glance
  · next answered =>
    have success : Succeeds 200 := ⟨by decide, by decide⟩
    have decoded := (perform_classified found answered).decoded _ rfl success
    exact decoded.roundTrip _ integral_nestedDocument (eq_of_beq glance)
  · cases glance

end Endpoint

end Settings

end NodeConsole
