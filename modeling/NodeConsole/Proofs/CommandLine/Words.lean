import NodeConsole.Proofs.CommandLine.Values
/-!
The words of a command line one at a time. Where a command goes on, a word is an option with its value, an
option whose value is the next word, such a value, or the two dashes behind which there are no options.
-/

namespace NodeConsole.CommandLine

/-! ## Kinds of words -/

def dashed? (word : String) : Option (String × Option String) :=
  match word.toList with
  | '-' :: '-' :: c :: text =>
    some (String.ofList ((c :: text).takeWhile (· ≠ '=')), Level.attachedValue? (c :: text))
  | _ => none

example : dashed? "--set=k=v" = some ("set", some "k=v") := by decide
example : dashed? "--set" = some ("set", none) := by decide
example : dashed? "--" = none := by decide

theorem dashed?_eq {word : String} {text : List Char} (dashes : word.toList = '-' :: '-' :: text)
    (nonempty : text ≠ []) :
    dashed? word = some (String.ofList (text.takeWhile (· ≠ '=')), Level.attachedValue? text) := by
  rcases List.exists_cons_of_ne_nil nonempty with ⟨c, more, rfl⟩
  rw [dashed?, dashes]
  rfl

/-- A word that can be the value of the option before it: it does not start with a dash, unless it is one. -/
def IsValue (word : String) : Prop :=
  ∀ c more, word.toList ≠ '-' :: c :: more

theorem exists_dash_of_dashed? {word : String} {parts : String × Option String}
    (dashed : dashed? word = some parts) : ∃ c more, word.toList = '-' :: '-' :: c :: more := by
  rw [dashed?] at dashed
  split at dashed
  · next c more starts => exact ⟨c, more, starts⟩
  · cases dashed

/-! ## Commands -/

theorem child?_eq_none_of_dash {word : String} {more : List Char} (dash : word.toList = '-' :: more) (verb : Verb) :
    verb.child? word = none := by
  rw [Verb.child?, List.find?_eq_none]
  intro child _ named
  rw [decide_eq_true_iff] at named
  have begins : child.name.toList.head? = some '-' := by rw [named, dash]; rfl
  cases child <;> exact absurd begins (by decide)

theorem child?_helpName (verb : Verb) : verb.child? helpName = none := by
  cases verb <;> rfl

namespace Level

variable {verb : Verb} {level after : Level} {word name text : String} {option : Opt} {said : Answers}

/-! ## Words where the command goes on -/

inductive Goes (verb : Verb) : Level → String → Level → Prop where
  | closing {level : Level} : Goes verb level "--" { level with trailing := true }
  | attached {level : Level} {word name text : String} {option : Opt} {said told : Answers}
      (dashed : dashed? word = some (name, some text)) (named : verb.option? name = some option)
      (settled : level.settled = .ok said) (given : give said option text = .ok told) :
      Goes verb level word { level with answers := told, pending := none }
  | bare {level : Level} {word name : String} {option : Opt} {said : Answers}
      (dashed : dashed? word = some (name, none)) (named : verb.option? name = some option)
      (settled : level.settled = .ok said) :
      Goes verb level word { level with answers := said, pending := some ⟨option, none⟩ }
  | value {level : Level} {word : String} {option : Opt} (awaits : level.pending = some ⟨option, none⟩)
      (isValue : IsValue word) : Goes verb level word { level with pending := some ⟨option, some word⟩ }

theorem information?_eq_none (named : verb.option? name = some option) : information? verb name = none := by
  rw [information?]
  split
  · next isHelp =>
    subst isHelp
    cases verb <;> cases named
  · split
    · next isVersion =>
      rcases isVersion with ⟨rfl, rfl⟩
      cases named
    · rfl

theorem other_of_dashed {attached : Option String} (dashed : dashed? word = some (name, attached)) :
    level.other verb word = level.long verb name attached := by
  rw [dashed?] at dashed
  split at dashed
  · next c more starts =>
    cases dashed
    rw [other, starts]
    rfl
  · cases dashed

theorem other_of_isValue (isValue : IsValue word) : level.other verb word = level.plain verb word := by
  rw [other]
  split
  · next starts => exact absurd starts (isValue _ _)
  · next starts => exact absurd starts (isValue _ _)
  · next starts => exact absurd starts (isValue _ _)
  · rfl

theorem next_of_dash {more : List Char} (isOpen : level.trailing = false) (dash : word.toList = '-' :: more) :
    level.next verb word = level.other verb word := by
  have noHelp : ¬(word = helpName ∧ verb.isGroup) := by
    rintro ⟨rfl, _⟩
    cases dash
  rw [next, isOpen, if_neg Bool.false_ne_true, child?_eq_none_of_dash dash, if_neg noHelp, ite_self]

theorem Goes.next (isOpen : level.trailing = false) (goes : Goes verb level word after) :
    level.next verb word = .here after := by
  cases goes with
  | closing => rw [next_of_dash isOpen rfl]; rfl
  | attached dashed named settled given =>
      rcases exists_dash_of_dashed? dashed with ⟨c, more, starts⟩
      rw [next_of_dash isOpen starts, other_of_dashed dashed, long.eq_def, information?_eq_none named]
      simp only [named, mention, settled, given]
  | bare dashed named settled =>
      rcases exists_dash_of_dashed? dashed with ⟨c, more, starts⟩
      rw [next_of_dash isOpen starts, other_of_dashed dashed, long.eq_def, information?_eq_none named]
      simp only [named, mention, settled]
  | value awaits isValue =>
      have notTrailing : ¬level.trailing = true := Bool.not_eq_true _ ▸ isOpen
      have waits : level.awaitsValue = true := by rw [awaitsValue, awaits]
      rw [Level.next, if_neg notTrailing, if_pos waits, other_of_isValue isValue, plain, awaits]

theorem next_of_child {child : Verb} (isOpen : level.trailing = false) (ready : level.awaitsValue = false)
    (named : verb.child? word = some child) : level.next verb word = .below child := by
  have noHelp : ¬(word = helpName ∧ verb.isGroup) := by
    rintro ⟨rfl, _⟩
    rw [child?_helpName] at named
    cases named
  rw [next, isOpen, if_neg Bool.false_ne_true, ready, if_neg Bool.false_ne_true, if_neg noHelp, named]

theorem informed_ne_below {child : Verb} {stop : Stop} : level.informed stop ≠ .below child := by
  rw [informed]
  split <;> exact fun same => by cases same

theorem mention_ne_below {child : Verb} {attached : Option String} :
    level.mention option attached ≠ .below child := by
  rw [mention]
  split
  · exact fun same => by cases same
  · split
    · exact fun same => by cases same
    · split <;> exact fun same => by cases same

theorem long_ne_below {child : Verb} {attached : Option String} :
    level.long verb name attached ≠ .below child := by
  rw [long.eq_def]
  split
  · exact informed_ne_below
  · exact fun same => by cases same
  · split
    · exact fun same => by cases same
    · exact mention_ne_below

theorem short_ne_below {child : Verb} {letter : Char} : level.short verb letter ≠ .below child := by
  rw [short]
  split
  · exact informed_ne_below
  · split
    · exact informed_ne_below
    · exact fun same => by cases same

theorem other_ne_below {child : Verb} : level.other verb word ≠ .below child := by
  rw [other]
  split
  · exact fun same => by cases same
  · exact long_ne_below
  · exact short_ne_below
  · rw [plain]
    split <;> exact fun same => by cases same

theorem of_next_eq_below {child : Verb} (goesBelow : level.next verb word = .below child) :
    level.trailing = false ∧ level.awaitsValue = false ∧ verb.child? word = some child := by
  rw [next] at goesBelow
  split at goesBelow
  · cases goesBelow
  · next isOpen =>
    rw [Bool.not_eq_true] at isOpen
    split at goesBelow
    · exact absurd goesBelow other_ne_below
    · next ready =>
      rw [Bool.not_eq_true] at ready
      split at goesBelow
      · cases goesBelow
      · split at goesBelow
        · next named =>
          cases goesBelow
          exact ⟨isOpen, ready, named⟩
        · exact absurd goesBelow other_ne_below

theorem of_long_eq_here {attached : Option String} (dashed : dashed? word = some (name, attached))
    (goesOn : level.long verb name attached = .here after) : Goes verb level word after := by
  rw [long.eq_def] at goesOn
  split at goesOn
  · exact absurd goesOn informed_ne_here
  · cases goesOn
  · split at goesOn
    · cases goesOn
    · next option named =>
      rw [mention] at goesOn
      split at goesOn
      · cases goesOn
      · next said settled =>
        split at goesOn
        · cases goesOn
          exact .bare dashed named settled
        · split at goesOn
          · cases goesOn
          · next given =>
            cases goesOn
            exact .attached dashed named settled given

theorem of_other_eq_here (goesOn : level.other verb word = .here after) : Goes verb level word after := by
  rw [other] at goesOn
  split at goesOn
  · next dashes =>
    have same : word = "--" := String.toList_injective dashes
    cases goesOn
    rw [same]
    exact .closing
  · next text more dashes =>
    exact of_long_eq_here (dashed?_eq dashes more) goesOn
  · exact absurd goesOn short_ne_here
  · next noDashes noDash =>
    rw [plain] at goesOn
    split at goesOn
    · next option awaits =>
      cases goesOn
      exact .value awaits noDash
    · cases goesOn

theorem of_next_eq_here (goesOn : level.next verb word = .here after) :
    level.trailing = false ∧ Goes verb level word after := by
  rw [next] at goesOn
  split at goesOn
  · cases goesOn
  · next isOpen =>
    rw [Bool.not_eq_true] at isOpen
    refine ⟨isOpen, ?_⟩
    split at goesOn
    · exact of_other_eq_here goesOn
    · split at goesOn
      · cases goesOn
      · split at goesOn
        · cases goesOn
        · exact of_other_eq_here goesOn

end Level

end NodeConsole.CommandLine
