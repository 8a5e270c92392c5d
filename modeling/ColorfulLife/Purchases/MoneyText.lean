/-
Amounts as text: `penniesToDecimal` (`purchasePersistence.ts`) writes them for a
`Decimal` column and `parseMoney` (`purchaseNormalizer.ts`) reads them.

What the pattern of `parseMoney` matches are the texts of `WritesPounds`. Their
pennies are computed in binary64, where they come out exactly or beyond the safe
integers. So the accepted texts are those of safe amounts
(`parseMoney_text_iff`), and what is written is read back (`moneyText_roundTrip`).
-/

import ColorfulLife.Purchases.Dates

namespace ColorfulLife

open Binary64 Regex

/-- A number of pennies as a decimal, with two places regardless of the sign. -/
def penniesToDecimal (pennies : Int) : String :=
  let sign := if pennies < 0 then ['-'] else []
  let abs : Number := .finite pennies.natAbs
  let whole := Number.mathFloor (abs / 100)
  let cents := abs % 100
  String.ofList (sign ++ Number.integerText whole ++
    '.' :: Number.padStart 2 (Number.integerText cents))

namespace PurchaseNormalizer

/-! ### Parsing -/

/-- A value of a source document, as far as an amount may come from it. A number is
read as the text that `toString` shows, anything else is named by its type. -/
inductive MoneyValue where
  | text (value : String)
  | number (shown : String)
  | other (typeName : String)

inductive MoneyError where
  | wrongType (typeName : String)
  | empty
  | invalidFormat (value : String)
  | outOfRange (value : String)
  deriving DecidableEq, Repr

def MoneyError.message : MoneyError → String
  | .wrongType typeName => s!"Money value must be number or string, got {typeName}"
  | .empty => "Money value cannot be empty"
  | .invalidFormat value => s!"Invalid money format: \"{value}\""
  | .outOfRange value => s!"Money value out of safe integer range: {value}"

/-- `/^[\d]/`. -/
def digitFirstRe : Expr := concat [.start, .char Char.isDigit]

/-- `(?:\.(\d{1,2}))?`. -/
def decimalsRe : Expr :=
  .many (some 1) (concat [.char (decide <| · = '.'),
    .group 1 (.seq (.char Char.isDigit) (.many (some 1) (.char Char.isDigit)))])

/-- `/^\d+(?:\.(\d{1,2}))?$/`. -/
def moneyRe : Expr := concat (.start :: ([plus Char.isDigit, decimalsRe] ++ [.stop]))

/-- The text behind a leading pound sign. Without one, the text starts with a digit. -/
def withoutPound (str : List Char) : Option (List Char) :=
  match str with
  | '£' :: rest => some rest
  | _ => if test digitFirstRe str then some str else none

/-- The pennies of a text that the pattern matched. -/
def matchedPennies (str : List Char) (found : Position) : Number :=
  let matched := (Position.mk [] str []).upTo found
  let whole := Number.parseInt ((matched.splitOn '.').headD [])
  let fracPart :=
    match givenChars (found.group? 1) with
    | some frac => Number.padEnd 2 frac
    | none => "00".toList
  whole * 100 + Number.parseInt fracPart

/-- `parseMoney` behind the pound sign. -/
def parsePounds (value : String) (str : List Char) : Except MoneyError Number :=
  match firstMatch moneyRe str with
  | none => .error (.invalidFormat value)
  | some found =>
      let pennies := matchedPennies str found
      if Number.isSafeInteger pennies then .ok pennies else .error (.outOfRange value)

/-- `parseMoney` from the point on where the value has become the text `str`. -/
def parseMoneyText (value : String) (str : List Char) : Except MoneyError Number :=
  if str = [] then .error .empty
  else
    match withoutPound str with
    | none => .error (.invalidFormat value)
    | some pounds => parsePounds value pounds

def parseMoney : MoneyValue → Except MoneyError Number
  | .other typeName => .error (.wrongType typeName)
  | .number shown => parseMoneyText shown shown.toList
  | .text value => parseMoneyText value (trim value).toList

/-! ### What amounts look like -/

/-- Digits, perhaps with a point and one or two more: pounds that are so many pennies. -/
inductive WritesPounds : List Char → Nat → Prop where
  | whole {digits : List Char} (nonempty : digits ≠ []) (all : ∀ c ∈ digits, c.isDigit = true) :
      WritesPounds digits (Number.decimal digits * 100)
  | point {digits decimals : List Char} (nonempty : digits ≠ [])
      (all : ∀ c ∈ digits, c.isDigit = true) (few : IsDigits 1 decimals ∨ IsDigits 2 decimals) :
      WritesPounds (digits ++ '.' :: decimals)
        (Number.decimal digits * 100 + 10 ^ (2 - decimals.length) * Number.decimal decimals)

/-- Pounds with an optional pound sign. -/
def WritesMoney (text : List Char) (pennies : Nat) : Prop :=
  WritesPounds text pennies ∨ ∃ pounds, text = '£' :: pounds ∧ WritesPounds pounds pennies

/-! ### The pattern -/

section Pattern

variable {digits decimals str : List Char} {found : Position} {pennies : Nat}

theorem spells_decimalsRe {xs : List Char} (spelled : Spells decimalsRe xs) :
    xs = [] ∨ ∃ decimals, xs = '.' :: decimals ∧ (IsDigits 1 decimals ∨ IsDigits 2 decimals) := by
  rcases spelled.optional with none_ | ⟨_, _, ⟨dot, point, rfl⟩, behind, rfl⟩
  · exact .inl none_
  obtain rfl := of_decide_eq_true point
  obtain ⟨_, _, ⟨_, more, ⟨c, digit, rfl⟩, others, rfl⟩, rfl, rfl⟩ := behind
  refine .inr ⟨_, rfl, ?_⟩
  rcases others.optional with rfl | ⟨d, digit', rfl⟩
  · exact .inl ⟨rfl, by simpa using digit⟩
  · exact .inr ⟨rfl, by simpa using ⟨digit, digit'⟩⟩

/-- What the pattern matches is an amount. -/
theorem exists_writesPounds (matched : firstMatch moneyRe str = some found) :
    ∃ pennies, WritesPounds str pennies := by
  obtain ⟨digits, _, whole, ⟨xs, _, decimals, rfl, rfl⟩, rfl⟩ := spells_of_firstMatch matched
  obtain ⟨nonempty, all⟩ := whole.plus
  rw [List.append_nil]
  rcases spells_decimalsRe decimals with rfl | ⟨decimals, rfl, few⟩
  · rw [List.append_nil]
    exact ⟨_, .whole nonempty all⟩
  · exact ⟨_, .point nonempty all few⟩

theorem firstMatch_whole (nonempty : digits ≠ []) (all : ∀ c ∈ digits, c.isDigit = true) :
    firstMatch moneyRe digits = some ⟨digits.reverse ++ [], [], []⟩ :=
  firstMatch_of_leads (Leads.cons (leads_plus_all nonempty all)
    (Leads.cons (Leads.skip rfl) (Leads.cons leads_stop leads_concat_nil)))

theorem isDigit_of_few (few : IsDigits 1 decimals ∨ IsDigits 2 decimals) :
    ∀ c ∈ decimals, c.isDigit = true := few.elim (·.2) (·.2)

/-- One or two digits are taken to the end. -/
theorem leads_decimals {b : List Char} (few : IsDigits 1 decimals ∨ IsDigits 2 decimals) :
    Leads (.seq (.char Char.isDigit) (.many (some 1) (.char Char.isDigit))) ⟨b, decimals, []⟩
      ⟨decimals.reverse ++ b, [], []⟩ := by
  rcases few with ⟨one, all⟩ | ⟨two, all⟩
  · obtain ⟨c, rfl⟩ := List.length_eq_one_iff.mp one
    exact Leads.seq (leads_char (all c List.mem_cons_self)) (Leads.skip rfl)
  · obtain ⟨c, d, rfl⟩ := List.length_eq_two.mp two
    have second : Leads (.char Char.isDigit) ⟨c :: b, [d], []⟩ ⟨d :: c :: b, [], []⟩ :=
      leads_char (all d (by simp))
    exact Leads.seq (leads_char (all c List.mem_cons_self)) (second.optional Nat.one_pos)

theorem firstMatch_point (nonempty : digits ≠ []) (all : ∀ c ∈ digits, c.isDigit = true)
    (few : IsDigits 1 decimals ∨ IsDigits 2 decimals) :
    firstMatch moneyRe (digits ++ '.' :: decimals) =
      some ⟨decimals.reverse ++ '.' :: (digits.reverse ++ []), [], [(1, decimals)]⟩ := by
  have ends : ∀ c ∈ ('.' :: decimals).head?, c.isDigit = false := by
    rintro c ⟨⟩
    rfl
  have behind : Leads decimalsRe ⟨digits.reverse ++ [], '.' :: decimals, []⟩
      ⟨decimals.reverse ++ '.' :: (digits.reverse ++ []), [], [(1, decimals)]⟩ :=
    Leads.optional (Leads.cons (leads_char rfl)
      (Leads.cons (Leads.group_all (leads_decimals few)) leads_concat_nil)) (Nat.succ_pos _)
  exact firstMatch_of_leads (Leads.cons (leads_plus nonempty all ends)
    (Leads.cons behind (Leads.cons leads_stop leads_concat_nil)))

end Pattern

/-! ### The pennies of a match -/

section Pennies

variable {digits decimals str : List Char} {pennies : Nat}

theorem upTo_end {b : List Char} {g : List (Nat × List Char)} :
    (Position.mk [] str []).upTo ⟨b, [], g⟩ = str := List.take_length

theorem point_notMem (all : ∀ c ∈ digits, c.isDigit = true) : '.' ∉ digits := fun mem =>
  absurd (all '.' mem) (by decide)

/-- The digits before the point are read as their value. -/
theorem parseInt_whole (nonempty : digits ≠ []) (all : ∀ c ∈ digits, c.isDigit = true)
    (pieces : List (List Char)) (others : ∀ piece ∈ pieces, '.' ∉ piece) :
    Number.parseInt (((['.'].intercalate (digits :: pieces)).splitOn '.').headD []) =
      Number.ofRat (Number.decimal digits) := by
  have split := List.splitOn_intercalate '.'
    (List.forall_mem_cons.mpr ⟨point_notMem all, others⟩) (List.cons_ne_nil digits pieces)
  rw [split, List.headD_cons, Number.parseInt_digits nonempty all]

theorem matchedPennies_whole (nonempty : digits ≠ []) (all : ∀ c ∈ digits, c.isDigit = true) :
    matchedPennies digits ⟨digits.reverse ++ [], [], []⟩ =
      .ofRat (Number.decimal digits) * 100 + .ofRat (0 : Nat) := by
  have whole := parseInt_whole nonempty all [] nofun
  rw [List.intercalate_singleton] at whole
  have none_ : Number.parseInt "00".toList = .ofRat (0 : Nat) :=
    Number.parseInt_digits (by decide) (List.all_eq_true.mp rfl)
  rw [matchedPennies, upTo_end, whole]
  exact congrArg _ none_

theorem matchedPennies_point {b : List Char} (nonempty : digits ≠ [])
    (all : ∀ c ∈ digits, c.isDigit = true) (few : IsDigits 1 decimals ∨ IsDigits 2 decimals) :
    matchedPennies (digits ++ '.' :: decimals) ⟨b, [], [(1, decimals)]⟩ =
      .ofRat (Number.decimal digits) * 100 +
        .ofRat (Number.decimal (Number.padEnd 2 decimals)) := by
  have all' := isDigit_of_few few
  have given_ : decimals ≠ [] := by
    rintro rfl
    rcases few with ⟨⟨⟩, -⟩ | ⟨⟨⟩, -⟩
  have whole := parseInt_whole nonempty all [decimals] (by simpa using point_notMem all')
  have shown : ['.'].intercalate [digits, decimals] = digits ++ '.' :: decimals := by
    simp [List.intercalate_cons_cons]
  rw [shown] at whole
  have frac := Number.parseInt_digits (List.append_ne_nil_of_left_ne_nil given_ _)
    (Number.isDigit_padEnd 2 all')
  have captured : givenChars (Position.group? ⟨b, [], [(1, decimals)]⟩ 1) = some decimals :=
    givenChars_some given_
  simp only [matchedPennies, upTo_end, whole, captured]
  exact congrArg _ frac

/-- An amount is matched, and computed from its pounds and its pennies. -/
theorem WritesPounds.matched (writes : WritesPounds str pennies) :
    ∃ found whole cents, firstMatch moneyRe str = some found ∧
      matchedPennies str found = .ofRat (whole : Nat) * 100 + .ofRat (cents : Nat) ∧
      pennies = whole * 100 + cents ∧ cents < 100 := by
  cases writes with
  | whole nonempty all =>
      exact ⟨_, _, 0, firstMatch_whole nonempty all, matchedPennies_whole nonempty all, rfl,
        by decide⟩
  | @point digits decimals nonempty all few =>
      have two : (Number.padEnd 2 decimals).length = 2 := by
        rw [Number.padEnd, List.length_append, List.length_replicate]
        rcases few with ⟨length, -⟩ | ⟨length, -⟩ <;> omega
      have small := Number.decimal_lt (Number.isDigit_padEnd 2 (isDigit_of_few few))
      rw [two] at small
      refine ⟨_, _, _, firstMatch_point nonempty all few, matchedPennies_point nonempty all few,
        ?_, small⟩
      rw [Number.decimal_padEnd]

end Pennies

/-! ### Accepted texts -/

section Accepted

variable {str pounds : List Char} {pennies : Nat} {value : String} {v : Number}

/-- An amount is read exactly when it is a safe integer. -/
theorem parsePounds_eq_ok : parsePounds value str = .ok v ↔
    ∃ pennies : Nat, WritesPounds str pennies ∧ (pennies : Int) ≤ maxSafeInteger ∧
      v = .finite pennies := by
  have computed : ∀ {pennies}, WritesPounds str pennies → parsePounds value str =
      if (pennies : Int) ≤ maxSafeInteger then .ok (.finite pennies)
      else .error (.outOfRange value) := by
    intro pennies writes
    obtain ⟨found, whole, cents, matched, sum, rfl, few⟩ := writes.matched
    simp only [parsePounds, matched, sum]
    rcases lt_or_ge (whole * 100 + cents) (2 ^ 53) with small | large
    · have safe : ((whole * 100 + cents : Nat) : Int) ≤ maxSafeInteger :=
        Int.ofNat_le.mpr (Nat.le_of_lt_succ small)
      rw [Number.hundreds_of_lt small, if_pos (Number.isSafeInteger_natCast small), if_pos safe]
    · have unsafe_ : ¬((whole * 100 + cents : Nat) : Int) ≤ maxSafeInteger := fun safe =>
        absurd (Int.ofNat_le.mp safe) (not_le.mpr large)
      have refused := Number.Large.not_safe (Number.hundreds_of_le large few)
      rw [refused, if_neg Bool.false_ne_true, if_neg unsafe_]
  constructor
  · intro parsed
    cases matched : firstMatch moneyRe str with
    | none =>
        simp only [parsePounds, matched] at parsed
        cases parsed
    | some found =>
        obtain ⟨pennies, writes⟩ := exists_writesPounds matched
        rw [computed writes] at parsed
        by_cases safe : (pennies : Int) ≤ maxSafeInteger
        · rw [if_pos safe] at parsed
          cases parsed
          exact ⟨pennies, writes, safe, rfl⟩
        · rw [if_neg safe] at parsed
          cases parsed
  · rintro ⟨pennies, writes, safe, rfl⟩
    rw [computed writes, if_pos safe]

theorem test_digitFirstRe : test digitFirstRe str = str.head?.any Char.isDigit := by
  rw [test, digitFirstRe, firstMatch_anchored]
  cases str with
  | nil => rfl
  | cons c rest =>
      cases digit : c.isDigit <;> simp [concat, run_seq, run, digit]

/-- An amount starts with a digit. -/
theorem WritesPounds.head_digit (writes : WritesPounds str pennies) :
    str.head?.any Char.isDigit = true := by
  have front : ∀ {digits : List Char} (rest : List Char), digits ≠ [] →
      (∀ c ∈ digits, c.isDigit = true) → (digits ++ rest).head?.any Char.isDigit = true := by
    intro digits rest nonempty all
    obtain ⟨c, digits, rfl⟩ := List.exists_cons_of_ne_nil nonempty
    exact all c List.mem_cons_self
  cases writes with
  | whole nonempty all =>
      have shown := front [] nonempty all
      rwa [List.append_nil] at shown
  | point nonempty all few => exact front _ nonempty all

/-- A pound sign is taken off, and what has none is left alone. -/
theorem withoutPound_eq_some (digit : pounds.head?.any Char.isDigit = true) :
    withoutPound str = some pounds ↔ str = pounds ∨ str = '£' :: pounds := by
  constructor
  · intro taken
    unfold withoutPound at taken
    split at taken
    · exact .inr (congrArg _ (Option.some.inj taken))
    · exact .inl (Option.some.inj (Option.ite_none_right_eq_some.mp taken).2)
  · rintro (rfl | rfl)
    · unfold withoutPound
      split
      · cases digit
      · rw [test_digitFirstRe, if_pos digit]
    · rfl

theorem parseMoneyText_eq_ok : parseMoneyText value str = .ok v ↔
    ∃ pennies : Nat, WritesMoney str pennies ∧ (pennies : Int) ≤ maxSafeInteger ∧
      v = .finite pennies := by
  constructor
  · intro parsed
    unfold parseMoneyText at parsed
    by_cases empty : str = []
    · rw [if_pos empty] at parsed
      cases parsed
    rw [if_neg empty] at parsed
    cases taken : withoutPound str with
    | none =>
        rw [taken] at parsed
        cases parsed
    | some pounds =>
        rw [taken] at parsed
        obtain ⟨pennies, writes, safe, rfl⟩ := parsePounds_eq_ok.mp parsed
        refine ⟨pennies, ?_, safe, rfl⟩
        rcases (withoutPound_eq_some writes.head_digit).mp taken with rfl | rfl
        · exact .inl writes
        · exact .inr ⟨pounds, rfl, writes⟩
  · rintro ⟨pennies, writes, safe, rfl⟩
    have read : ∀ {pounds}, WritesPounds pounds pennies → str = pounds ∨ str = '£' :: pounds →
        parseMoneyText value str = .ok (.finite pennies) := by
      intro pounds own shown
      have digit := own.head_digit
      have taken := (withoutPound_eq_some digit).mpr shown
      have nonempty : str ≠ [] := by
        rintro rfl
        rcases shown with rfl | sign
        · cases digit
        · cases sign
      rw [parseMoneyText, if_neg nonempty, taken]
      exact parsePounds_eq_ok.mpr ⟨pennies, own, safe, rfl⟩
    rcases writes with writes | ⟨pounds, shown, writes⟩
    · exact read writes (.inl rfl)
    · exact read writes (.inr shown)

end Accepted

/-! ### Round trip -/

section RoundTrip

variable {p : Nat}

theorem toList_penniesToDecimal (small : p ≤ 2 ^ 53) : (penniesToDecimal p).toList =
    Nat.toDigits 10 (p / 100) ++ '.' :: Number.padStart 2 (Nat.toDigits 10 (p % 100)) := by
  have whole := Number.mathFloor_hundredths small
  have cents := Number.mod_hundred p
  have positive : ¬(p : Int) < 0 := by omega
  rw [penniesToDecimal, String.toList_ofList, if_neg positive, Int.natAbs_natCast, whole, cents,
    Number.integerText_natCast (by omega), Number.integerText_natCast (by omega), List.nil_append]

theorem writesPounds_penniesToDecimal (small : p ≤ 2 ^ 53) :
    WritesPounds (penniesToDecimal p).toList p := by
  have digit : ∀ n, ∀ c ∈ Nat.toDigits 10 n, c.isDigit = true := fun n c mem =>
    Nat.isDigit_of_mem_toDigits (by decide) (by decide) mem
  have two : (Number.padStart 2 (Nat.toDigits 10 (p % 100))).length = 2 := by
    have least : 0 < (Nat.toDigits 10 (p % 100)).length := Nat.length_toDigits_pos
    have few : p % 100 < 10 ^ 2 := Nat.mod_lt p (by decide)
    have most := (Nat.length_toDigits_le_iff (by decide) (by decide)).mpr few
    rw [Number.padStart, List.length_append, List.length_replicate]
    omega
  have written := WritesPounds.point (Nat.toDigits_ne_nil) (digit (p / 100))
    (.inr ⟨two, Number.isDigit_padStart 2 (digit (p % 100))⟩)
  rw [two, Number.decimal_padStart, Number.decimal_toDigits, Number.decimal_toDigits] at written
  rw [toList_penniesToDecimal small]
  have sum : p / 100 * 100 + 10 ^ (2 - 2) * (p % 100) = p := by omega
  rwa [sum] at written

theorem WritesPounds.solid {str : List Char} {pennies : Nat} (writes : WritesPounds str pennies) :
    ∀ c ∈ str, isSpace c = false := by
  intro c mem
  refine isSpace_moneyChar ?_
  cases writes with
  | whole nonempty all => exact moneyChar_digit (all c mem)
  | point nonempty all few =>
      rcases List.mem_append.mp mem with own | mem
      · exact moneyChar_digit (all c own)
      rcases List.mem_cons.mp mem with rfl | own
      · rfl
      · exact moneyChar_digit (isDigit_of_few few c own)

/-- A text is read if and only if it is an amount in pounds, with an optional sign,
of a safe number of pennies. -/
theorem parseMoney_text_iff (s : String) (v : Number) : parseMoney (.text s) = .ok v ↔
    ∃ pennies : Nat, WritesMoney (trim s).toList pennies ∧ (pennies : Int) ≤ maxSafeInteger ∧
      v = .finite pennies :=
  parseMoneyText_eq_ok

/-- What is written is read back, also with a pound sign and surrounded by white
space. -/
theorem parseMoney_surrounded (before pound after : List Char) (safe : (p : Int) ≤ maxSafeInteger)
    (sign : pound = [] ∨ pound = ['£']) (blank : ∀ c ∈ before ++ after, isSpace c = true) :
    parseMoney (.text (String.ofList
      (before ++ (pound ++ (penniesToDecimal p).toList) ++ after))) = .ok (.finite p) := by
  have small : p ≤ 2 ^ 53 := (Int.ofNat_le.mp safe).trans (by decide)
  have writes := writesPounds_penniesToDecimal small
  have signed : WritesMoney (pound ++ (penniesToDecimal p).toList) p := by
    rcases sign with rfl | rfl
    · exact .inl writes
    · exact .inr ⟨_, rfl, writes⟩
  have trimmed : trimChars (pound ++ (penniesToDecimal p).toList) =
      pound ++ (penniesToDecimal p).toList := by
    refine trimChars_solid fun c mem => ?_
    rcases List.mem_append.mp mem with own | own
    · rcases sign with rfl | rfl
      · cases own
      · rw [List.mem_singleton.mp own]
        decide
    · exact writes.solid c own
  have nonempty : pound ++ (penniesToDecimal p).toList ≠ [] := by
    refine List.append_ne_nil_of_right_ne_nil pound fun empty => ?_
    rw [empty] at writes
    cases writes.head_digit
  rw [parseMoney_text_iff, toList_trim, String.toList_ofList,
    trimChars_surrounded nonempty trimmed blank]
  exact ⟨p, signed, safe, rfl⟩

/-- Every safe amount survives writing and reading, and the accepted texts are those of
safe amounts. -/
theorem moneyText_roundTrip :
    (∀ p : Nat, (p : Int) ≤ maxSafeInteger →
      parseMoney (.text (penniesToDecimal p)) = .ok (.finite p) ∧
      ∀ before pound after : List Char, (∀ c ∈ before ++ after, isSpace c = true) →
        pound = [] ∨ pound = ['£'] →
          parseMoney (.text (String.ofList
            (before ++ (pound ++ (penniesToDecimal p).toList) ++ after))) = .ok (.finite p)) ∧
    ∀ s v, parseMoney (.text s) = .ok v ↔
      ∃ pennies : Nat, WritesMoney (trim s).toList pennies ∧
        (pennies : Int) ≤ maxSafeInteger ∧ v = .finite pennies := by
  refine ⟨fun p safe => ⟨?_, fun before pound after blank sign => ?_⟩, parseMoney_text_iff⟩
  · have plain := parseMoney_surrounded [] [] [] safe (.inl rfl) nofun
    rwa [List.nil_append, List.nil_append, List.append_nil, String.ofList_toList] at plain
  · exact parseMoney_surrounded before pound after safe sign blank

theorem moneyText_roundTrip_sample :
    penniesToDecimal 3704 = "37.04" ∧ parseMoney (.text " £37.04 ") = .ok (.finite 3704) := by
  have shown : penniesToDecimal (3704 : Nat) = "37.04" := by decide +kernel
  have blank : ∀ c ∈ [' '] ++ [' '], isSpace c = true := List.all_eq_true.mp rfl
  have read := (moneyText_roundTrip.1 3704 (by decide)).2 [' '] ['£'] [' '] blank (.inr rfl)
  rw [shown] at read
  exact ⟨shown, read⟩

end RoundTrip

end PurchaseNormalizer

end ColorfulLife
