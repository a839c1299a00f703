import NodeConsole.Proofs.Json.Values
/-!
Objects put together from the texts of their members. Such an object is read as the keys with the values
that the texts are read as on their own.
-/

namespace NodeConsole.Json

def memberText (gap : List Char) (entry : String × String) : List Char :=
  stringChars entry.1 ++ ':' :: (gap ++ entry.2.toList)

def objectText (gap : List Char) (entries : List (String × String)) : String :=
  String.ofList ('\x7b' :: (',' :: gap).intercalate (entries.map (memberText gap)) ++ ['\x7d'])

example : objectText [' '] [("a", "[1]"), ("\"", "2")] = "\x7b\"a\": [1], \"\\\"\": 2\x7d" := by decide

structure Fit (limit : Nat) (valueOf : String → Json) (entry : String × String) : Prop where
  reads : ofText entry.2 = .ok (valueOf entry.2)
  shallow : nestingOf (Utf8.bytes entry.2) ≤ limit

section

variable {limit : Nat} {valueOf : String → Json} {gap : List Char} {entry : String × String}
  {first : Bool} {separator : List UInt8}

theorem names_memberText (blank : Blank (Utf8.encode gap)) (fit : Fit limit valueOf entry)
    (isGap : IsGap first separator) {behind rest : List UInt8} (ends : EndsNumber behind)
    {entries : List (String × Json)}
    (later : ∀ blanks, Blank blanks → Names (valueReader limit) false (blanks ++ behind) entries rest) :
    Names (valueReader limit) first (separator ++ (Utf8.encode (memberText gap entry) ++ behind))
      ((entry.1, valueOf entry.2) :: entries) rest := by
  rcases read_of_ofText fit.reads fit.shallow ends with ⟨blanks, blankBehind, valueRead⟩
  rw [← read_blank_append limit blank] at valueRead
  have names := (later blanks blankBehind).written entry.1 isGap valueRead
  rw [memberText, Utf8.encode_append, Utf8.encode_cons, Utf8.encode_append]
  simp only [List.append_assoc]
  exact names

theorem names_intercalate (blank : Blank (Utf8.encode gap)) {entries : List (String × String)}
    (fit : ∀ entry ∈ entries, Fit limit valueOf entry) (nonempty : entries ≠ [])
    (isGap : IsGap first separator) (behind : List UInt8) :
    Names (valueReader limit) first
      (separator ++ (Utf8.encode ((',' :: gap).intercalate (entries.map (memberText gap))) ++ 0x7D :: behind))
      (entries.map fun entry => (entry.1, valueOf entry.2)) behind := by
  -- By induction on the members; the blanks behind a value belong to the gap that follows it.
  induction entries generalizing first separator with
  | nil => exact absurd rfl nonempty
  | cons entry rest induction =>
      have fitEntry := fit entry (by simp)
      cases rest with
      | nil =>
          have ends : EndsNumber (0x7D :: behind) := endsNumber_cons (by decide) behind
          have single : (',' :: gap).intercalate ([entry].map (memberText gap)) =
              memberText gap entry := by
            simp [List.intercalate]
          rw [single]
          apply names_memberText blank fitEntry isGap ends
          intro blanks blankBehind
          exact .done blankBehind behind
      | cons next rest =>
          have fitRest : ∀ later ∈ next :: rest, Fit limit valueOf later :=
            fun later member => fit later (List.mem_cons_of_mem _ member)
          have several : (',' :: gap).intercalate ((entry :: next :: rest).map (memberText gap)) =
              memberText gap entry ++
                (',' :: (gap ++ (',' :: gap).intercalate ((next :: rest).map (memberText gap)))) := by
            simp [List.intercalate]
          have comma (text : List Char) :
              Utf8.encode (',' :: (gap ++ text)) = 0x2C :: (Utf8.encode gap ++ Utf8.encode text) := by
            rw [Utf8.encode_cons, Utf8.encode_append]
            rfl
          rw [several, Utf8.encode_append, comma, List.append_assoc, List.cons_append, List.append_assoc]
          apply names_memberText blank fitEntry isGap (endsNumber_cons (by decide) _)
          intro blanks blankBehind
          have gapBehind : IsGap false (blanks ++ 0x2C :: Utf8.encode gap) :=
            ⟨blanks, Utf8.encode gap, blankBehind, blank, rfl⟩
          have more := induction fitRest (by simp) gapBehind
          rw [List.append_assoc, List.cons_append] at more
          exact more

/-- An object is read as its keys with the values that their texts are read as. -/
theorem ofText_objectText (blank : Blank (Utf8.encode gap)) {entries : List (String × String)}
    (nonempty : entries ≠ []) (fit : ∀ entry ∈ entries, Fit 126 valueOf entry) :
    ofText (objectText gap entries) =
      .ok (ofEntries (entries.map fun entry => (entry.1, valueOf entry.2))) := by
  have isGap : IsGap true [] := blank_nil
  have read := (names_intercalate blank fit nonempty isGap []).read []
  have whole : Utf8.bytes (objectText gap entries) =
      [] ++ 0x7B :: ([] ++
        (Utf8.encode ((',' :: gap).intercalate (entries.map (memberText gap))) ++ [0x7D])) := by
    rw [Utf8.bytes, objectText, String.toList_ofList, List.cons_append, Utf8.encode_cons,
      Utf8.encode_append]
    rfl
  have limit : depthLimit = 126 + 1 := rfl
  rw [ofText, ofBytes, documentOf, whole, limit, read_succ, valueScan_object blank_nil read]
  rfl

end

end NodeConsole.Json
