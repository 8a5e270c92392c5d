/-
Self-delimiting texts: encodings that can be told from whatever follows them.

An encoding `enc` is self-delimiting when `enc a ++ r = enc b ++ r'` forces
`a = b` and `r = r'`. Such encodings are injective and closed under the ways a
record, a nullable field and an array are written; a number is self-delimiting
up to the next character that is no digit. With these rules a text format is
unambiguous as soon as its parts are.

The encodings at the end are those of JSON text as `JSON.stringify` writes it.
-/

import Mathlib.Data.List.Basic
import Mathlib.Logic.Function.Basic
import Mathlib.Tactic.Common

namespace Text

universe u v

variable {α : Type u} {β : Type v}

/-! ### The notion -/

/-- No text of `enc`, whatever follows it, can be read as another one. -/
def SelfDelimiting (enc : α → List Char) : Prop :=
  ∀ a b r r', enc a ++ r = enc b ++ r' → a = b ∧ r = r'

namespace SelfDelimiting

variable {enc : α → List Char} {encB : β → List Char}

theorem injective (h : SelfDelimiting enc) : Function.Injective enc := by
  intro a b same
  exact (h a b [] [] (by rw [same])).1

theorem comap (h : SelfDelimiting enc) {f : β → α} (inj : Function.Injective f) :
    SelfDelimiting fun b => enc (f b) := by
  intro a b r r' same
  obtain ⟨heq, rest⟩ := h (f a) (f b) r r' same
  exact ⟨inj heq, rest⟩

/-- Behind a fixed text. -/
theorem after (h : SelfDelimiting enc) (pre : List Char) :
    SelfDelimiting fun a => pre ++ enc a := by
  intro a b r r' same
  rw [List.append_assoc, List.append_assoc] at same
  exact h a b r r' (List.append_cancel_left same)

/-- Before a fixed text. -/
theorem before (h : SelfDelimiting enc) (post : List Char) :
    SelfDelimiting fun a => enc a ++ post := by
  intro a b r r' same
  rw [List.append_assoc, List.append_assoc] at same
  obtain ⟨heq, rest⟩ := h a b _ _ same
  exact ⟨heq, List.append_cancel_left rest⟩

/-- One after the other. -/
theorem pair (h : SelfDelimiting enc) (hB : SelfDelimiting encB) :
    SelfDelimiting fun e : α × β => enc e.1 ++ encB e.2 := by
  rintro ⟨a, b⟩ ⟨a', b'⟩ r r' same
  simp only [List.append_assoc] at same
  obtain ⟨rfl, tail⟩ := h a a' _ _ same
  obtain ⟨rfl, rest⟩ := hB b b' r r' tail
  exact ⟨rfl, rest⟩

end SelfDelimiting

/-! ### Nullable values -/

/-- `null` or the text of the value. -/
def nullable (enc : α → List Char) : Option α → List Char
  | none => ['n', 'u', 'l', 'l']
  | some a => enc a

theorem SelfDelimiting.nullable {enc : α → List Char} (h : SelfDelimiting enc)
    (starts : ∀ a r, (enc a ++ r).head? ≠ some 'n') : SelfDelimiting (nullable enc) := by
  intro a b r r' same
  cases a with
  | none =>
      cases b with
      | none => exact ⟨rfl, List.append_cancel_left same⟩
      | some b => exact absurd (congrArg List.head? same).symm (starts b r')
  | some a =>
      cases b with
      | none => exact absurd (congrArg List.head? same) (starts a r)
      | some b =>
          obtain ⟨rfl, rest⟩ := h a b r r' same
          exact ⟨rfl, rest⟩

/-! ### Arrays -/

/-- What follows the first element. -/
def arrayTail (enc : α → List Char) : List α → List Char
  | [] => [']']
  | a :: l => ',' :: (enc a ++ arrayTail enc l)

def array (enc : α → List Char) : List α → List Char
  | [] => ['[', ']']
  | a :: l => '[' :: (enc a ++ arrayTail enc l)

theorem arrayTail_cons_append (enc : α → List Char) (a : α) (l : List α) (r : List Char) :
    arrayTail enc (a :: l) ++ r = ',' :: (enc a ++ (arrayTail enc l ++ r)) := by
  simp [arrayTail]

theorem array_cons_append (enc : α → List Char) (a : α) (l : List α) (r : List Char) :
    array enc (a :: l) ++ r = '[' :: (enc a ++ (arrayTail enc l ++ r)) := by
  simp [array]

theorem selfDelimiting_arrayTail {enc : α → List Char} (h : SelfDelimiting enc) :
    SelfDelimiting (arrayTail enc) := by
  intro l
  induction l with
  | nil =>
      intro l' r r' same
      cases l' with
      | nil => exact ⟨rfl, (List.cons.inj same).2⟩
      | cons b l' => exact absurd (List.cons.inj same).1 (by decide)
  | cons a l ih =>
      intro l' r r' same
      cases l' with
      | nil => exact absurd (List.cons.inj same).1 (by decide)
      | cons b l' =>
          rw [arrayTail_cons_append, arrayTail_cons_append] at same
          obtain ⟨rfl, tail⟩ := h a b _ _ (List.cons.inj same).2
          obtain ⟨rfl, rest⟩ := ih l' r r' tail
          exact ⟨rfl, rest⟩

theorem SelfDelimiting.array {enc : α → List Char} (h : SelfDelimiting enc)
    (starts : ∀ a r, (enc a ++ r).head? ≠ some ']') : SelfDelimiting (array enc) := by
  have nonempty : ∀ b l r r', Text.array enc [] ++ r ≠ Text.array enc (b :: l) ++ r' := by
    intro b l r r' same
    rw [array_cons_append] at same
    exact starts b _ (congrArg List.head? (List.cons.inj same).2).symm
  intro l l' r r' same
  cases l with
  | nil =>
      cases l' with
      | nil => exact ⟨rfl, List.append_cancel_left same⟩
      | cons b l' => exact absurd same (nonempty b l' r r')
  | cons a l =>
      cases l' with
      | nil => exact absurd same.symm (nonempty a l r' r)
      | cons b l' =>
          rw [array_cons_append, array_cons_append] at same
          obtain ⟨rfl, tail⟩ := h a b _ _ (List.cons.inj same).2
          obtain ⟨rfl, rest⟩ := selfDelimiting_arrayTail h l l' r r' tail
          exact ⟨rfl, rest⟩

/-! ### Numbers -/

/-- Runs of characters with a property end where the property does. -/
theorem span_unique {p : Char → Bool} {l l' : List Char} {c c' : Char} {r r' : List Char}
    (hl : ∀ x ∈ l, p x = true) (hl' : ∀ x ∈ l', p x = true) (hc : p c = false) (hc' : p c' = false)
    (same : l ++ c :: r = l' ++ c' :: r') : l = l' ∧ c :: r = c' :: r' := by
  induction l generalizing l' with
  | nil =>
      cases l' with
      | nil => exact ⟨rfl, same⟩
      | cons y l' =>
          have first : c = y := (List.cons.inj same).1
          rw [first, hl' y List.mem_cons_self] at hc
          cases hc
  | cons x l ih =>
      cases l' with
      | nil =>
          have first : x = c' := (List.cons.inj same).1
          rw [← first, hl x List.mem_cons_self] at hc'
          cases hc'
      | cons y l' =>
          rw [List.cons_append, List.cons_append, List.cons.injEq] at same
          obtain ⟨rfl, tail⟩ := same
          obtain ⟨rfl, rest⟩ := ih (fun z hz => hl z (List.mem_cons_of_mem _ hz))
            (fun z hz => hl' z (List.mem_cons_of_mem _ hz)) tail
          exact ⟨rfl, rest⟩

/-- Decimal digits. -/
def digits (n : Nat) : List Char := Nat.toDigits 10 n

theorem digits_injective : Function.Injective digits := by
  intro m n same
  have read := congrArg (Nat.ofDigitChars 10 · 0) same
  simpa only [digits, Nat.ofDigitChars_ten_toDigits] using read

theorem isDigit_of_mem_digits {n : Nat} {c : Char} (h : c ∈ digits n) : c.isDigit = true :=
  Nat.isDigit_of_mem_toDigits (by decide) (by decide) h

/-- A number ends at the next character that is no digit. -/
theorem selfDelimiting_digits {c : Char} (hc : c.isDigit = false) :
    SelfDelimiting fun n => digits n ++ [c] := by
  intro m n r r' same
  rw [List.append_assoc, List.append_assoc] at same
  obtain ⟨heq, rest⟩ := span_unique (p := Char.isDigit) (fun _ => isDigit_of_mem_digits)
    (fun _ => isDigit_of_mem_digits) hc hc same
  exact ⟨digits_injective heq, (List.cons.inj rest).2⟩

/-- An integer, with a minus sign when it is negative. -/
def integer : Int → List Char
  | .ofNat n => digits n
  | .negSucc n => '-' :: digits (n + 1)

theorem digits_ne_minus (m : Nat) (l l' : List Char) : digits m ++ l ≠ '-' :: l' := by
  intro same
  cases hd : digits m with
  | nil => exact absurd hd (by simp [digits, Nat.toDigits_ne_nil])
  | cons c cs =>
      have isDigit : c.isDigit = true := isDigit_of_mem_digits (n := m) (by simp [hd])
      rw [hd] at same
      rw [(List.cons.inj same).1] at isDigit
      cases isDigit

theorem selfDelimiting_integer {c : Char} (hc : c.isDigit = false) :
    SelfDelimiting fun i => integer i ++ [c] := by
  intro i j r r' same
  cases i with
  | ofNat m =>
      cases j with
      | ofNat n =>
          obtain ⟨rfl, rest⟩ := selfDelimiting_digits hc m n r r' same
          exact ⟨rfl, rest⟩
      | negSucc n =>
          rw [List.append_assoc] at same
          exact absurd same (digits_ne_minus m _ _)
  | negSucc m =>
      cases j with
      | ofNat n =>
          rw [List.append_assoc] at same
          refine absurd same.symm ?_
          rw [List.append_assoc]
          exact digits_ne_minus n _ _
      | negSucc n =>
          obtain ⟨heq, rest⟩ := selfDelimiting_digits hc (m + 1) (n + 1) r r' (List.cons.inj same).2
          obtain rfl : m = n := Nat.succ.inj heq
          exact ⟨rfl, rest⟩

/-! ### Strings -/

/-- The quotation mark. -/
def quote : Char := Char.ofNat 0x22

/-- The backslash. -/
def backslash : Char := Char.ofNat 0x5C

/-- The letter that stands behind a backslash for a character, where there is
one. -/
def shortEscape (c : Char) : Option Char :=
  if c = quote then some quote
  else if c = backslash then some backslash
  else if c.toNat = 0x8 then some 'b'
  else if c.toNat = 0x9 then some 't'
  else if c.toNat = 0xA then some 'n'
  else if c.toNat = 0xC then some 'f'
  else if c.toNat = 0xD then some 'r'
  else none

/-- A character inside a quoted string. -/
def escaped (c : Char) : List Char :=
  match shortEscape c with
  | some e => [backslash, e]
  | none =>
      if c.toNat < 0x20 then
        [backslash, 'u', '0', '0', Nat.digitChar (c.toNat / 16), Nat.digitChar (c.toNat % 16)]
      else [c]

def quoted (s : String) : List Char :=
  quote :: (s.toList.flatMap escaped ++ [quote])

/-- The value of a hexadecimal digit. -/
def hexValue (c : Char) : Nat := if c.isDigit then c.toNat - 48 else c.toNat - 87

/-- The character a letter behind a backslash stands for. -/
def unescape (e : Char) : Option Char :=
  if e = quote then some quote
  else if e = backslash then some backslash
  else if e = 'b' then some (Char.ofNat 0x8)
  else if e = 't' then some (Char.ofNat 0x9)
  else if e = 'n' then some (Char.ofNat 0xA)
  else if e = 'f' then some (Char.ofNat 0xC)
  else if e = 'r' then some (Char.ofNat 0xD)
  else none

/-- Read one character back; `none` at the closing quotation mark. -/
def readChar : List Char → Option (Char × List Char)
  | [] => none
  | c :: r =>
      if c = quote then none
      else if c = backslash then
        match r with
        | e :: r =>
            match unescape e, r with
            | some d, r => some (d, r)
            | none, '0' :: '0' :: h :: l :: r => some (Char.ofNat (hexValue h * 16 + hexValue l), r)
            | none, _ => none
        | [] => none
      else some (c, r)

theorem unescape_shortEscape {c e : Char} (h : shortEscape c = some e) : unescape e = some c := by
  have code : ∀ n, c.toNat = n → Char.ofNat n = c := by
    rintro n rfl
    exact Char.ofNat_toNat c
  unfold shortEscape at h
  split at h
  · subst_vars
    cases h
    rfl
  split at h
  · subst_vars
    cases h
    rfl
  split at h
  · cases h
    rw [← code 0x8 ‹_›]
    decide
  split at h
  · cases h
    rw [← code 0x9 ‹_›]
    decide
  split at h
  · cases h
    rw [← code 0xA ‹_›]
    decide
  split at h
  · cases h
    rw [← code 0xC ‹_›]
    decide
  split at h
  · cases h
    rw [← code 0xD ‹_›]
    decide
  · cases h

theorem hexValue_digitChar : ∀ n < 16, hexValue (Nat.digitChar n) = n := by
  decide

/-- A written character is read back. -/
theorem readChar_escaped (c : Char) (r : List Char) : readChar (escaped c ++ r) = some (c, r) := by
  have slash : backslash ≠ quote := by decide
  unfold escaped
  cases hshort : shortEscape c with
  | some e => simp [readChar, slash, unescape_shortEscape hshort]
  | none =>
      have plain : c ≠ quote ∧ c ≠ backslash := by
        constructor
        · rintro rfl
          exact absurd hshort (by decide)
        · rintro rfl
          exact absurd hshort (by decide)
      by_cases control : c.toNat < 0x20
      · have high := hexValue_digitChar (c.toNat / 16) (by omega)
        have low := hexValue_digitChar (c.toNat % 16) (Nat.mod_lt _ (by decide))
        have value : c.toNat / 16 * 16 + c.toNat % 16 = c.toNat := by omega
        have letter : unescape 'u' = none := by decide
        simp [readChar, control, slash, letter, high, low, value, Char.ofNat_toNat]
      · simp [readChar, control, plain]

theorem readChar_quote (r : List Char) : readChar (quote :: r) = none := by
  simp [readChar]

/-- The characters of a string are read back up to its end. -/
theorem escaped_unique {l l' r r' : List Char}
    (same : l.flatMap escaped ++ quote :: r = l'.flatMap escaped ++ quote :: r') :
    l = l' ∧ r = r' := by
  induction l generalizing l' with
  | nil =>
      cases l' with
      | nil => exact ⟨rfl, (List.cons.inj same).2⟩
      | cons c l' =>
          rw [List.flatMap_cons, List.append_assoc, List.flatMap_nil, List.nil_append] at same
          have read := readChar_escaped c (l'.flatMap escaped ++ quote :: r')
          rw [← same, readChar_quote] at read
          cases read
  | cons c l ih =>
      rw [List.flatMap_cons, List.append_assoc] at same
      have read := readChar_escaped c (l.flatMap escaped ++ quote :: r)
      cases l' with
      | nil =>
          rw [same, List.flatMap_nil, List.nil_append, readChar_quote] at read
          cases read
      | cons c' l' =>
          rw [same, List.flatMap_cons, List.append_assoc, readChar_escaped, Option.some.injEq,
            Prod.mk.injEq] at read
          obtain ⟨rfl, rest⟩ := read
          obtain ⟨rfl, rfl⟩ := ih rest.symm
          exact ⟨rfl, rfl⟩

theorem selfDelimiting_quoted : SelfDelimiting quoted := by
  intro s s' r r' same
  have inner : s.toList.flatMap escaped ++ quote :: r = s'.toList.flatMap escaped ++ quote :: r' := by
    simpa [quoted] using same
  obtain ⟨heq, rest⟩ := escaped_unique inner
  exact ⟨String.toList_inj.mp heq, rest⟩

end Text
