import NodeConsole.Proofs.Console.PayloadSources
import NodeConsole.Proofs.Json.Acceptance
/-!
What is sent for a value that is written in JSON. A document of the grammar is sent as what it means, of the
kind that was written. If it has no meaning, its text is sent as a string.
-/

namespace NodeConsole.Settings.Assignment

open Json.Grammar

def Sendable (document : Document) : Prop :=
  Readable Json.depthLimit document.value.depth document.value.numerals document.value.strings

structure SentAs (key : String) (document : Document) (value : Json) : Prop where
  parsed : parse (key ++ "=" ++ document.text) = .ok ⟨key, value⟩
  means : document.value.meaning? Json.depthLimit = some value
  sameKind : kindOf value = document.value.kind
  noText : value ≠ .string document.text

theorem valueOf_text (document : Document) :
    valueOf document.text = (document.value.meaning? Json.depthLimit).getD (.string document.text) := by
  rw [valueOf, ← document.ofText_toOption]
  cases Json.ofText document.text <;> rfl

theorem parse_of_not_sendable {key : String} (isKey : IsKey key) {document : Document}
    (unfit : ¬Sendable document) :
    parse (key ++ "=" ++ document.text) = .ok ⟨key, .string document.text⟩ := by
  rw [parse_append isKey, valueOf_text]
  cases means : document.value.meaning? Json.depthLimit with
  | none => rfl
  | some value => exact absurd ((document.value.exists_meaning_iff _).mp ⟨value, means⟩) unfit

/-! ## Documents without a meaning -/

def largeDocument : Document :=
  ⟨[], .number ⟨false, 1, [], some ⟨false, none, 4, [0, 0]⟩⟩, []⟩

theorem not_sendable_largeDocument : ¬Sendable largeDocument := by
  have unfit : ¬Fits 1 400 := by decide
  intro sendable
  exact unfit (sendable.inRange _ (List.mem_singleton_self _))

def halfDocument : Document :=
  ⟨[], .string [.unit ⟨13, false⟩ ⟨8, false⟩ ⟨0, false⟩ ⟨0, false⟩], []⟩

theorem not_sendable_halfDocument : ¬Sendable halfDocument := by
  intro sendable
  cases sendable.paired _ (List.mem_singleton_self _) with
  | whole noHalf => exact (noHalf 0xD800 rfl).1 (by decide)

def nestedArrays : Nat → Value
  | 0 => .array [] .nil
  | inner + 1 => .array [] (.cons [] (nestedArrays inner) [] .nil)

theorem chars_nestedArrays (n : Nat) :
    (nestedArrays n).chars = List.replicate (n + 1) '[' ++ List.replicate (n + 1) ']' := by
  induction n with
  | zero => rfl
  | succ n induction =>
      have inner : (nestedArrays (n + 1)).chars = '[' :: ((nestedArrays n).chars ++ [] ++ [']']) := rfl
      rw [inner, induction, List.append_nil, List.append_assoc, ← List.replicate_succ', ← List.cons_append,
        ← List.replicate_succ]

theorem depth_nestedArrays (n : Nat) : (nestedArrays n).depth = n + 1 := by
  induction n with
  | zero => rfl
  | succ n induction =>
      rw [nestedArrays, Value.depth, Items.depth, Items.depth, induction, Nat.max_zero]

def deepDocument : Document :=
  ⟨[], nestedArrays 127, []⟩

theorem not_sendable_deepDocument : ¬Sendable deepDocument := by
  intro sendable
  have shallow : (nestedArrays 127).depth ≤ 127 := sendable.shallow
  rw [depth_nestedArrays] at shallow
  exact absurd shallow (by decide)

/-! ## Documents of the grammar -/

/-- A document of the grammar is sent as a value of its own kind, and never as its text, exactly if it is not
nested too deep, its numbers are not too large, and no string in it has half a character. -/
theorem parse_document {key : String} (isKey : IsKey key) (document : Document) :
    (Sendable document → ∃ value, SentAs key document value) ∧
      (¬Sendable document → parse (key ++ "=" ++ document.text) = .ok ⟨key, .string document.text⟩) := by
  refine ⟨fun sendable => ?_, parse_of_not_sendable isKey⟩
  rcases (document.value.exists_meaning_iff _).mpr sendable with ⟨value, means⟩
  refine ⟨value, ?_, means, Value.kindOf_meaning means, Document.meaning_ne_text means⟩
  rw [parse_append isKey, valueOf_text, means, Option.getD_some]

theorem parse_unsendable :
    (largeDocument.text = "1e400" ∧ parse "k=1e400" = .ok ⟨"k", .string "1e400"⟩) ∧
      (halfDocument.text = "\"\\ud800\"" ∧ parse "k=\"\\ud800\"" = .ok ⟨"k", .string "\"\\ud800\""⟩) ∧
      deepDocument.text = String.ofList (List.replicate 128 '[' ++ List.replicate 128 ']') ∧
      parse ("k" ++ "=" ++ deepDocument.text) = .ok ⟨"k", .string deepDocument.text⟩ := by
  have isKey : IsKey "k" := ⟨by decide, by decide, by decide⟩
  have large : largeDocument.text = "1e400" := by decide
  have half : halfDocument.text = "\"\\ud800\"" := by decide
  have deep : deepDocument.text = String.ofList (List.replicate 128 '[' ++ List.replicate 128 ']') := by
    have none : spaceChars [] = [] := rfl
    rw [Document.text, deepDocument, chars_nestedArrays, none, List.nil_append, List.append_nil]
  have sentLarge := parse_of_not_sendable isKey not_sendable_largeDocument
  have sentHalf := parse_of_not_sendable isKey not_sendable_halfDocument
  rw [large] at sentLarge
  rw [half] at sentHalf
  exact ⟨⟨large, sentLarge⟩, ⟨half, sentHalf⟩, deep, parse_of_not_sendable isKey not_sendable_deepDocument⟩

def mixedDocument : Document :=
  ⟨[.space], .array [] (.cons [] (.number ⟨true, 0, [5], none⟩) [.tab] (.cons [.space]
    (.string [.unit ⟨13, false⟩ ⟨8, false⟩ ⟨3, false⟩ ⟨13, true⟩, .unit ⟨13, false⟩ ⟨14, false⟩ ⟨0, false⟩ ⟨0, true⟩])
    [] .nil)), [.lineFeed]⟩

theorem parse_document_of_mixed :
    mixedDocument.text = " [-0.5\t, \"\\ud83D\\ude00\"]\n" ∧
      (∃ value, SentAs "node name" mixedDocument value) ∧
      parse ("node name" ++ "=" ++ deepDocument.text) = .ok ⟨"node name", .string deepDocument.text⟩ := by
  have isKey : IsKey "node name" := ⟨by decide, by decide, by decide⟩
  have sendable : Sendable mixedDocument := by
    refine ⟨by decide, fun numeral member => ?_, fun pieces member => ?_⟩
    · cases List.mem_singleton.mp member
      exact .inr (.inl (by decide))
    · cases List.mem_singleton.mp member
      exact .pair rfl (by decide) rfl (by decide) .nil
  exact ⟨by decide, (parse_document isKey mixedDocument).1 sendable,
    (parse_document isKey deepDocument).2 not_sendable_deepDocument⟩

end NodeConsole.Settings.Assignment
