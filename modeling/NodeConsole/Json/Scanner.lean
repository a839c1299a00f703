import NodeConsole.Json.Fault
import NodeConsole.Text.Utf8
/-!
The parts of a JSON text below the level of values: blanks, words, numbers and strings. A function
here takes the bytes still to be read and gives back what it read with the bytes after it; a fault
names the bytes that follow the place it is reported at.
-/

namespace NodeConsole.Json

/-- A cause, and the bytes that follow the place where it is reported. -/
structure Fault where
  cause : Cause
  rest : List UInt8
deriving DecidableEq, Repr

abbrev Scan (α : Type) :=
  Except Fault (α × List UInt8)

def isBlank (byte : UInt8) : Bool :=
  byte == 0x20 || byte == 0x09 || byte == 0x0A || byte == 0x0D

def skipBlank (s : List UInt8) : List UInt8 :=
  s.dropWhile isBlank

theorem length_skipBlank_le (s : List UInt8) : (skipBlank s).length ≤ s.length :=
  (List.dropWhile_suffix _).length_le

def word : List UInt8 → List UInt8 → Except Fault (List UInt8)
  | [], s => .ok s
  | _ :: _, [] => .error ⟨.endInValue, []⟩
  | letter :: letters, byte :: rest =>
    if byte = letter then word letters rest else .error ⟨.expectedWord, rest⟩

theorem length_word_le {letters s rest : List UInt8} (read : word letters s = .ok rest) :
    rest.length ≤ s.length := by
  fun_induction word letters s with
  | case1 s => simp_all
  | case2 => simp at read
  | case3 letters byte tail induction => have := induction read; simp only [List.length_cons]; omega
  | case4 => simp at read

/-! ## Numbers -/

def isDigit (byte : UInt8) : Bool :=
  0x30 ≤ byte && byte ≤ 0x39

def digitValue (byte : UInt8) : Nat :=
  byte.toNat - 0x30

/-- Append decimal digits to a significand as long as it stays below `2 ^ 64`. The second number
counts the digits left out. -/
def gather (significand : Nat) : List UInt8 → Nat × Nat
  | [] => (significand, 0)
  | digit :: digits =>
    let next := significand * 10 + digitValue digit
    if next < Nat.pow 2 64 then gather next digits else (significand, digits.length + 1)

/-- Scale a magnitude by a power of ten, if the result is finite. It is multiplied or divided once
when the power itself is finite, and divided by `10 ^ 308` first for as long as it is not. -/
def scaleByTen (x : Binary64) (exponent : Int) : Option Binary64 :=
  if exponent.natAbs ≤ 308 then
    if 0 ≤ exponent then
      let scaled := x.times (.tenTo exponent.natAbs)
      if scaled.isFinite then some scaled else none
    else some (x.quotient (.tenTo exponent.natAbs))
  else if x.isZero then some x
  else if 0 ≤ exponent then none
  else scaleByTen (x.quotient (.tenTo 308)) (exponent + 308)
termination_by exponent.natAbs
decreasing_by omega

def floatScan (negative : Bool) (significand : Nat) (exponent : Int) (rest : List UInt8) :
    Scan Number :=
  match scaleByTen (.ofNat significand) exponent with
  | some x => .ok (.float (if negative then x.negate else x), rest)
  | none => .error ⟨.numberOutOfRange, rest⟩

def integerScan (negative : Bool) (significand : Nat) (rest : List UInt8) : Scan Number :=
  if negative then
    if significand = 0 ∨ Nat.pow 2 63 < significand then
      .ok (.float (Binary64.ofNat significand).negate, rest)
    else .ok (.integer (-significand), rest)
  else .ok (.integer significand, rest)

/-- The digits of an exponent after its first one, and the number they complete. An exponent past
`2 ^ 31 - 1` gives zero or no number at all. -/
def exponentDigits (negative : Bool) (significand : Nat) (start : Int) (raises : Bool)
    (exponent : Nat) : List UInt8 → Scan Number
  | [] => floatScan negative significand (if raises then start + exponent else start - exponent) []
  | byte :: rest =>
    if isDigit byte then
      let next := exponent * 10 + digitValue byte
      if next < Nat.pow 2 31 then exponentDigits negative significand start raises next rest
      else if raises && significand != 0 then .error ⟨.numberOutOfRange, rest⟩
      else
        let zero := Binary64.ofNat 0
        .ok (.float (if negative then zero.negate else zero), rest.dropWhile isDigit)
    else
      floatScan negative significand (if raises then start + exponent else start - exponent)
        (byte :: rest)

def exponentScan (negative : Bool) (significand : Nat) (start : Int) (s : List UInt8) :
    Scan Number :=
  let (raises, digits) : Bool × List UInt8 := match s with
    | 0x2B :: rest => (true, rest)
    | 0x2D :: rest => (false, rest)
    | _ => (true, s)
  match digits with
  | [] => .error ⟨.endInValue, []⟩
  | byte :: rest =>
    if isDigit byte then
      exponentDigits negative significand start raises (digitValue byte) rest
    else .error ⟨.badNumber, rest⟩

def fractionScan (negative : Bool) (significand : Nat) (start : Int) (s : List UInt8) :
    Scan Number :=
  let digits := s.takeWhile isDigit
  let rest := s.dropWhile isDigit
  let (significand, left) := gather significand digits
  let exponent : Int := start - ((digits.length : Int) - left)
  match digits, rest with
  | [], [] => .error ⟨.endInValue, []⟩
  | [], _ :: after => .error ⟨.badNumber, after⟩
  | _ :: _, 0x65 :: after => exponentScan negative significand exponent after
  | _ :: _, 0x45 :: after => exponentScan negative significand exponent after
  | _ :: _, _ => floatScan negative significand exponent rest

def afterWholeScan (negative : Bool) (significand left : Nat) : List UInt8 → Scan Number
  | 0x2E :: rest => fractionScan negative significand left rest
  | 0x65 :: rest => exponentScan negative significand left rest
  | 0x45 :: rest => exponentScan negative significand left rest
  | rest =>
    if left = 0 then integerScan negative significand rest
    else floatScan negative significand left rest

def numberScan (negative : Bool) : List UInt8 → Scan Number
  | [] => .error ⟨.endInValue, []⟩
  | 0x30 :: rest =>
    match rest with
    | byte :: after =>
      if isDigit byte then .error ⟨.badNumber, after⟩ else afterWholeScan negative 0 0 rest
    | [] => afterWholeScan negative 0 0 []
  | byte :: rest =>
    if isDigit byte then
      let (significand, left) := gather 0 ((byte :: rest).takeWhile isDigit)
      afterWholeScan negative significand left ((byte :: rest).dropWhile isDigit)
    else .error ⟨.badNumber, rest⟩

/-! ## Strings -/

def hexValue? (byte : UInt8) : Option Nat :=
  let b := byte.toNat
  if 0x30 ≤ b ∧ b ≤ 0x39 then some (b - 0x30)
  else if 0x41 ≤ b ∧ b ≤ 0x46 then some (b - 0x37)
  else if 0x61 ≤ b ∧ b ≤ 0x66 then some (b - 0x57)
  else none

def hexScan : List UInt8 → Scan Nat
  | a :: b :: c :: d :: rest =>
    match hexValue? a, hexValue? b, hexValue? c, hexValue? d with
    | some a, some b, some c, some d => .ok (((a * 16 + b) * 16 + c) * 16 + d, rest)
    | _, _, _, _ => .error ⟨.badEscape, rest⟩
  | _ => .error ⟨.endInString, []⟩

def trailingUnitScan (leading : Nat) : List UInt8 → Scan (List UInt8)
  | [] => .error ⟨.endInString, []⟩
  | [0x5C] => .error ⟨.endInString, []⟩
  | 0x5C :: 0x75 :: rest =>
    match hexScan rest with
    | .error fault => .error fault
    | .ok (unit, rest) =>
      if 0xDC00 ≤ unit ∧ unit ≤ 0xDFFF then
        .ok (Utf8.encode [Char.ofNat (0x10000 + (leading - 0xD800) * 0x400 + (unit - 0xDC00))], rest)
      else .error ⟨.loneSurrogate, rest⟩
  | 0x5C :: _ :: rest => .error ⟨.unfinishedSurrogate, rest⟩
  | _ :: rest => .error ⟨.unfinishedSurrogate, rest⟩

def unitScan (s : List UInt8) : Scan (List UInt8) :=
  match hexScan s with
  | .error fault => .error fault
  | .ok (unit, rest) =>
    if 0xDC00 ≤ unit ∧ unit ≤ 0xDFFF then .error ⟨.loneSurrogate, rest⟩
    else if 0xD800 ≤ unit ∧ unit ≤ 0xDBFF then trailingUnitScan unit rest
    else .ok (Utf8.encode [Char.ofNat unit], rest)

def shortEscape? (byte : UInt8) : Option UInt8 :=
  if byte = 0x22 ∨ byte = 0x5C ∨ byte = 0x2F then some byte
  else if byte = 0x62 then some 0x08
  else if byte = 0x66 then some 0x0C
  else if byte = 0x6E then some 0x0A
  else if byte = 0x72 then some 0x0D
  else if byte = 0x74 then some 0x09
  else none

def escapeScan : List UInt8 → Scan (List UInt8)
  | [] => .error ⟨.endInString, []⟩
  | byte :: rest =>
    if byte = 0x75 then unitScan rest
    else
      match shortEscape? byte with
      | some meant => .ok ([meant], rest)
      | none => .error ⟨.badEscape, rest⟩

theorem length_hexScan_lt {s rest : List UInt8} {n : Nat} (read : hexScan s = .ok (n, rest)) :
    rest.length < s.length := by
  unfold hexScan at read
  split at read
  · split at read
    · cases read; simp only [List.length_cons]; omega
    · cases read
  · cases read

theorem length_trailingUnitScan_lt {leading : Nat} {s rest bytes : List UInt8}
    (read : trailingUnitScan leading s = .ok (bytes, rest)) : rest.length < s.length := by
  unfold trailingUnitScan at read
  split at read
  · cases read
  · cases read
  · split at read
    · cases read
    · rename_i hex
      have shorter := length_hexScan_lt hex
      split at read
      · simp only [Except.ok.injEq, Prod.mk.injEq] at read
        simp only [← read.2, List.length_cons]; omega
      · cases read
  · cases read
  · cases read

theorem length_unitScan_lt {s rest bytes : List UInt8} (read : unitScan s = .ok (bytes, rest)) :
    rest.length < s.length := by
  unfold unitScan at read
  split at read
  · cases read
  · rename_i hex
    have shorter := length_hexScan_lt hex
    split at read
    · cases read
    · split at read
      · have := length_trailingUnitScan_lt read; omega
      · cases read; exact shorter

theorem length_escapeScan_lt {s rest bytes : List UInt8} (read : escapeScan s = .ok (bytes, rest)) :
    rest.length < s.length := by
  unfold escapeScan at read
  split at read
  · cases read
  · split at read
    · have := length_unitScan_lt read; simp only [List.length_cons]; omega
    · generalize shortEscape? _ = meant at read
      cases meant
      · cases read
      · cases read; simp

def stringBytesScan (done : List UInt8) (s : List UInt8) : Scan (List UInt8) :=
  match s with
  | [] => .error ⟨.endInString, []⟩
  | 0x22 :: rest => .ok (done.reverse, rest)
  | 0x5C :: rest =>
    match _escape : escapeScan rest with
    | .error fault => .error fault
    | .ok (bytes, after) => stringBytesScan (bytes.reverse ++ done) after
  | byte :: rest =>
    if byte < 0x20 then .error ⟨.controlInString, rest⟩ else stringBytesScan (byte :: done) rest
termination_by s.length
decreasing_by
  · have := length_escapeScan_lt _escape; simp only [List.length_cons]; omega
  · simp only [List.length_cons]; omega

def stringScan (s : List UInt8) : Scan String :=
  match stringBytesScan [] s with
  | .error fault => .error fault
  | .ok (bytes, rest) =>
    match Utf8.decode? bytes with
    | some chars => .ok (String.ofList chars, rest)
    | none => .error ⟨.badUnicode, rest⟩

theorem length_stringBytesScan_lt {done s rest bytes : List UInt8}
    (read : stringBytesScan done s = .ok (bytes, rest)) : rest.length < s.length := by
  fun_induction stringBytesScan done s with
  | case1 => cases read
  | case2 => cases read; simp
  | case3 => cases read
  | case4 _ _ _ _ escape induction =>
    have := length_escapeScan_lt escape
    have := induction read
    simp only [List.length_cons]; omega
  | case5 => cases read
  | case6 _ _ _ _ _ _ induction => have := induction read; simp only [List.length_cons]; omega

theorem length_stringScan_lt {s rest : List UInt8} {text : String}
    (read : stringScan s = .ok (text, rest)) : rest.length < s.length := by
  unfold stringScan at read
  split at read
  · cases read
  · rename_i bytes
    have := length_stringBytesScan_lt bytes
    split at read
    · cases read; exact this
    · cases read

/-! ## Numbers leave less to read -/

theorem length_floatScan {negative : Bool} {significand : Nat} {exponent : Int}
    {s rest : List UInt8} {n : Number}
    (read : floatScan negative significand exponent s = .ok (n, rest)) : rest = s := by
  unfold floatScan at read
  split at read
  · cases read; rfl
  · cases read

theorem length_integerScan {negative : Bool} {significand : Nat} {s rest : List UInt8} {n : Number}
    (read : integerScan negative significand s = .ok (n, rest)) : rest = s := by
  unfold integerScan at read
  split at read
  · split at read <;> cases read <;> rfl
  · cases read; rfl

theorem length_exponentDigits_le {negative : Bool} {significand : Nat} {start : Int} {raises : Bool}
    {exponent : Nat} {s rest : List UInt8} {n : Number}
    (read : exponentDigits negative significand start raises exponent s = .ok (n, rest)) :
    rest.length ≤ s.length := by
  induction s generalizing exponent with
  | nil => rw [exponentDigits] at read; simp [length_floatScan read]
  | cons byte tail induction =>
    rw [exponentDigits] at read
    split at read
    · simp only at read
      split at read
      · have := induction read; simp only [List.length_cons]; omega
      · split at read
        · cases read
        · cases read
          have := (List.dropWhile_suffix (l := tail) isDigit).length_le
          simp only [List.length_cons]; omega
    · simp [length_floatScan read]

theorem length_exponentScan_le {negative : Bool} {significand : Nat} {start : Int}
    {s rest : List UInt8} {n : Number}
    (read : exponentScan negative significand start s = .ok (n, rest)) :
    rest.length ≤ s.length := by
  unfold exponentScan at read
  simp only at read
  split at read
  · cases read
  · rename_i byte tail digits
    split at read
    · have shorter := length_exponentDigits_le read
      split at digits <;> simp_all only [List.length_cons] <;> omega
    · cases read

theorem length_fractionScan_le {negative : Bool} {significand : Nat} {start : Int}
    {s rest : List UInt8} {n : Number}
    (read : fractionScan negative significand start s = .ok (n, rest)) :
    rest.length ≤ s.length := by
  have dropped := (List.dropWhile_suffix (l := s) isDigit).length_le
  unfold fractionScan at read
  simp only at read
  split at read
  · cases read
  · cases read
  · rename_i after; rw [after, List.length_cons] at dropped
    have := length_exponentScan_le read; omega
  · rename_i after; rw [after, List.length_cons] at dropped
    have := length_exponentScan_le read; omega
  · rw [length_floatScan read]; exact dropped

theorem length_afterWholeScan_le {negative : Bool} {significand left : Nat} {s rest : List UInt8}
    {n : Number} (read : afterWholeScan negative significand left s = .ok (n, rest)) :
    rest.length ≤ s.length := by
  unfold afterWholeScan at read
  split at read
  · have := length_fractionScan_le read; simp only [List.length_cons]; omega
  · have := length_exponentScan_le read; simp only [List.length_cons]; omega
  · have := length_exponentScan_le read; simp only [List.length_cons]; omega
  · split at read
    · exact Nat.le_of_eq (congrArg List.length (length_integerScan read))
    · exact Nat.le_of_eq (congrArg List.length (length_floatScan read))

theorem length_numberScan_lt {negative : Bool} {s rest : List UInt8} {n : Number}
    (read : numberScan negative s = .ok (n, rest)) : rest.length < s.length := by
  unfold numberScan at read
  split at read
  · cases read
  · split at read
    · split at read
      · cases read
      · have := length_afterWholeScan_le read; simp only [List.length_cons] at *; omega
    · have := length_afterWholeScan_le read; simp only [List.length_cons] at *; omega
  · rename_i byte tail _
    split at read
    · rename_i digit
      have shorter := length_afterWholeScan_le read
      have dropped := (List.dropWhile_suffix (l := tail) isDigit).length_le
      rw [List.dropWhile_cons, if_pos digit] at shorter
      simp only [List.length_cons]; omega
    · cases read

end NodeConsole.Json
