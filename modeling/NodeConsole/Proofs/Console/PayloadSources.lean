import NodeConsole.Console.Payload
import NodeConsole.Proofs.Json.Members
import NodeConsole.Proofs.Json.Objects
/-!
The two sources of a settings document. Assignments of keys to texts make up the same document as a file
with the object that has these keys and texts for its members.
-/

namespace NodeConsole

namespace Settings.Assignment

/-- A key that an assignment can give: what is left of it at the first equals sign is the key again. -/
structure IsKey (key : String) : Prop where
  nonempty : key ≠ ""
  trimmed : Text.trim key = key
  noMark : '=' ∉ key.toList

theorem IsKey.trimChars_toList {key : String} (isKey : IsKey key) :
    Text.trimChars key.toList = key.toList := by
  have same := congrArg String.toList isKey.trimmed
  rwa [Text.trim, String.toList_ofList] at same

theorem parse_append {key : String} (isKey : IsKey key) (text : String) :
    parse (key ++ "=" ++ text) = .ok ⟨key, valueOf text⟩ := by
  have inKey : ∀ c ∈ key.toList, (c != '=') = true := by
    intro c member
    rw [bne_iff_ne]
    rintro rfl
    exact isKey.noMark member
  have whole : (key ++ "=" ++ text).toList = key.toList ++ '=' :: text.toList := by
    simp
  have nonempty : key.toList ≠ [] := by
    intro empty
    exact isKey.nonempty (String.toList_eq_nil_iff.mp empty)
  rw [parse, whole, List.takeWhile_append_of_pos inKey, List.dropWhile_append_of_pos inKey]
  simp only [List.takeWhile_cons, List.dropWhile_cons, bne_self_eq_false, Bool.false_eq_true, if_false,
    List.append_nil, isKey.trimChars_toList, if_neg nonempty, String.ofList_toList]

theorem mapM_parse {entries : List (String × String)} (keys : ∀ entry ∈ entries, IsKey entry.1) :
    (entries.mapM fun entry => parse (entry.1 ++ "=" ++ entry.2)) =
      .ok (entries.map fun entry => ⟨entry.1, valueOf entry.2⟩) := by
  induction entries with
  | nil => rfl
  | cons entry rest induction =>
      rw [List.mapM_cons, parse_append (keys entry (by simp)),
        induction fun later member => keys later (List.mem_cons_of_mem _ member)]
      rfl

end Settings.Assignment

namespace Console

open Settings (Assignment)
open Settings.Assignment (IsKey valueOf)

theorem document_of_assignments {entries : List (String × String)} (nonempty : entries ≠ [])
    (files : Files) :
    Source.document { assignments := entries.map fun entry => ⟨entry.1, valueOf entry.2⟩ } files =
      .ok (.ofEntries (entries.map fun entry => (entry.1, valueOf entry.2))) := by
  have present : (entries.map fun entry => Assignment.mk entry.1 (valueOf entry.2)).isEmpty = false := by
    simpa using nonempty
  rw [Source.document, present, Settings.documentOf, List.map_map]
  rfl

theorem document_of_file {entries : List (String × String)} {gap : List Char} {files : Files}
    {path : String} (content : files.readText path = .ok (Json.objectText gap entries)) {document : Json}
    (read : Json.ofText (Json.objectText gap entries) = .ok document) (ignored : List Assignment) :
    Source.document { file := some path, assignments := ignored } files = .ok document := by
  simp only [Source.document, documentOfFile, content, read]

theorem find?_last (valueOf : String → Json) (earlier later : List (String × String)) (key text : String)
    (last : ∀ entry ∈ later, entry.1 ≠ key) :
    Members.find? key (Members.ofEntries
        ((earlier ++ (key, text) :: later).map fun entry => (entry.1, valueOf entry.2))) =
      some (valueOf text) := by
  have none : (later.map fun entry => (entry.1, valueOf entry.2)).reverse.find?
      (fun entry => key = entry.1) = none := by
    rw [List.find?_eq_none]
    intro entry member
    rw [List.mem_reverse, List.mem_map] at member
    rcases member with ⟨original, inLater, rfl⟩
    simpa using Ne.symm (last original inLater)
  rw [Members.find?_ofEntries, List.map_append, List.map_cons, List.reverse_append, List.reverse_cons,
    List.find?_append, List.find?_append, none]
  simp

/-- Settings can be given in either way. Assignments of JSON texts to keys make up the same document as a
file with the object of these members, keys that occur several times included: the last of them wins. -/
theorem document_of_either_source {entries : List (String × String)} (nonempty : entries ≠ [])
    (keys : ∀ entry ∈ entries, IsKey entry.1)
    (accepted : ∀ entry ∈ entries, ∃ value, Json.ofText entry.2 = .ok value)
    (nested : ∀ entry ∈ entries, Json.nestingOf (Utf8.bytes entry.2) ≤ 126) {gap : List Char}
    (blank : Json.Blank (Utf8.encode gap)) {files : Files} {path : String}
    (content : files.readText path = .ok (Json.objectText gap entries)) (others : Files)
    (ignored : List Assignment) :
    ∃ assignments members,
      (entries.mapM fun entry => Assignment.parse (entry.1 ++ "=" ++ entry.2)) = .ok assignments ∧
      Source.document { assignments := assignments } others = .ok (.object members) ∧
      Source.document { file := some path, assignments := ignored } files = .ok (.object members) ∧
      ∀ earlier key text later, entries = earlier ++ (key, text) :: later →
        (∀ entry ∈ later, entry.1 ≠ key) →
        ∃ value, Json.ofText text = .ok value ∧ Members.find? key members = some value := by
  have reads : ∀ entry ∈ entries, Json.ofText entry.2 = .ok (valueOf entry.2) := by
    intro entry member
    rcases accepted entry member with ⟨value, read⟩
    rw [valueOf, read]
  have fit : ∀ entry ∈ entries, Json.Fit 126 valueOf entry :=
    fun entry member => ⟨reads entry member, nested entry member⟩
  refine ⟨_, _, Assignment.mapM_parse keys, document_of_assignments nonempty others,
    document_of_file content (Json.ofText_objectText blank nonempty fit) ignored, ?_⟩
  rintro earlier key text later rfl last
  exact ⟨valueOf text, reads (key, text) (by simp), find?_last valueOf earlier later key text last⟩

def markedEntries : List (String × String) :=
  [("k", "[1, \"=,\", \x7b\"k\": \x7b\x7d\x7d]"), ("é \"\\\u0001", "\"\\ud83d\\ude00\""), ("k", " true\n")]

theorem document_of_either_source_of_marked :
    ∃ assignments members,
      (markedEntries.mapM fun entry => Assignment.parse (entry.1 ++ "=" ++ entry.2)) = .ok assignments ∧
      Source.document { assignments := assignments } [] = .ok (.object members) ∧
      Source.document { file := some "s" }
        [("s", .file (Utf8.bytes (Json.objectText [' '] markedEntries)))] = .ok (.object members) ∧
      Members.find? "k" members = some (.bool true) := by
  have keys : ∀ entry ∈ markedEntries, IsKey entry.1 := by
    have each : ∀ entry ∈ markedEntries,
        entry.1 ≠ "" ∧ Text.trim entry.1 = entry.1 ∧ '=' ∉ entry.1.toList := by decide
    intro entry member
    rcases each entry member with ⟨nonempty, trimmed, noMark⟩
    exact ⟨nonempty, trimmed, noMark⟩
  have accepted : ∀ entry ∈ markedEntries, ∃ value, Json.ofText entry.2 = .ok value := by
    have each : ∀ entry ∈ markedEntries, (Json.ofText entry.2).isOk = true := by decide +kernel
    intro entry member
    cases read : Json.ofText entry.2 with
    | ok value => exact ⟨value, rfl⟩
    | error fault =>
        have isOk := each entry member
        rw [read] at isOk
        cases isOk
  have content : Files.readText [("s", .file (Utf8.bytes (Json.objectText [' '] markedEntries)))] "s" =
      .ok (Json.objectText [' '] markedEntries) := by decide
  rcases document_of_either_source (by decide) keys accepted (by decide) (by decide) content [] []
    with ⟨assignments, members, parsed, assigned, fromFile, last⟩
  rcases last (markedEntries.take 2) "k" " true\n" [] rfl (by simp) with ⟨value, read, found⟩
  have truth : Json.ofText " true\n" = .ok (.bool true) := rfl
  cases truth.symm.trans read
  exact ⟨assignments, members, parsed, assigned, fromFile, found⟩

end Console

end NodeConsole
