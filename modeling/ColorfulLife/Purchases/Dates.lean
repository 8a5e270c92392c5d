/-
Dates of a purchase document (`parseDate` in `purchaseNormalizer.ts`).

A date is read by `parseInt`, put together by `Date.UTC` and refused when the
fields of the resulting instant are others: `keptDate_eq_some` says which fields
`Date` keeps. A date of the first format has digits only. In the second one
`parseInt` stops at the first character that is no digit, takes a sign and any
number of digits, so that texts pass which are in neither format, and a year of
five digits comes out in the expanded form of `toISOString` (`LooseDate`). Every
other text is read as documented (`parsesExactly_iff`).
-/

import ColorfulLife.Calendar.Gregorian
import ColorfulLife.Purchases.InvoiceLines

namespace ColorfulLife.PurchaseNormalizer

open Binary64 Calendar

/-! ### Instants -/

def msPerDay : Int := 86400000

/-- Two-digit years are those of the twentieth century. -/
def makeFullYear (year : Int) : Int := if 0 ≤ year ∧ year ≤ 99 then 1900 + year else year

/-- The day of a year, a month and a day, which may lie outside their ranges. -/
def makeDay (year month day : Int) : Int :=
  let fullYear := year + month / 12
  dayFromYear fullYear + monthStart (isLeap fullYear) (month % 12).toNat + day - 1

/-- Instants lie within a hundred million days of 1970-01-01. -/
def timeClip (time : Int) : Option Int :=
  if |time| ≤ 8640000000000000 then some time else none

/-- `Date.UTC(year, month, day)`. An argument that is not finite gives `NaN`, which
is `none`. -/
def dateUtc (year month day : Option Int) : Option Int := do
  let year ← year
  let month ← month
  let day ← day
  timeClip (makeDay (makeFullYear year) month day * msPerDay)

/-- `getUTCFullYear`, `getUTCMonth` and `getUTCDate`. -/
def utcDate (time : Int) : Date := Date.ofDay (time / msPerDay)

/-- `toISOString` of the start of a date. Years outside 0 to 9999 have a sign and
six digits. -/
def toIsoString (date : Date) : List Char :=
  let year :=
    if 0 ≤ date.year ∧ date.year ≤ 9999 then Number.padded 4 date.year.toNat
    else (if date.year < 0 then '-' else '+') :: Number.padded 6 date.year.natAbs
  ['-'].intercalate [year, Number.padded 2 (date.month + 1), Number.padded 2 date.day] ++
    "T00:00:00.000Z".toList

/-! ### Parsing -/

/-- `parseInt(text, 10)`: white space, a sign and the digits that follow. What is not
finite is `none`. -/
def parseInt (text : List Char) : Option Int :=
  let magnitude := fun digits => match Number.parseInt digits with
    | .finite value => some ⌊value⌋
    | _ => none
  match text.dropWhile isSpace with
  | '-' :: digits => (magnitude digits).map (- ·)
  | '+' :: digits => magnitude digits
  | digits => magnitude digits

/-- The date of some fields, unless the instant they give has others. -/
def keptDate (year month day : Option Int) : Option Date := do
  let date := utcDate (← dateUtc year month day)
  if year = some date.year ∧ month = some (date.month : Int) ∧ day = some (date.day : Int) then
    some date
  else none

/-- `/^\d{4}-\d{2}-\d{2}$/`. -/
def isoClasses : List (Char → Bool) :=
  let digit := Char.isDigit
  let dash := fun c => decide (c = '-')
  [digit, digit, digit, digit, dash, digit, digit, dash, digit, digit]

def isoDateRe : Regex.Expr := Regex.concat (.start :: (isoClasses.map .char ++ [.stop]))

def monthMap : List (List Char × Int) :=
  [("Jan".toList, 0), ("Feb".toList, 1), ("Mar".toList, 2), ("Apr".toList, 3), ("May".toList, 4),
    ("Jun".toList, 5), ("Jul".toList, 6), ("Aug".toList, 7), ("Sep".toList, 8), ("Oct".toList, 9),
    ("Nov".toList, 10), ("Dec".toList, 11)]

/-- `monthMap[monthAbbrev]`, which also finds inherited properties; none of them is
a number. -/
def monthOf (monthAbbrev : List Char) : Option (Option Int) :=
  (monthMap.lookup monthAbbrev).map some <|>
    (objectPrototype.lookup monthAbbrev).map fun _ => none

def parseDate (value : String) : Option String :=
  let trimmed := (trim value).toList
  if trimmed = [] then none
  else if Regex.test isoDateRe trimmed then
    match trimmed.splitOn '-' with
    | [yearStr, monthStr, dayStr] =>
        let month := (parseInt monthStr).map (· - 1)
        (keptDate (parseInt yearStr) month (parseInt dayStr)).map fun _ => String.ofList trimmed
    | _ => none
  else
    match trimmed.splitOn ' ' with
    | [dayStr, monthAbbrev, yearStr] =>
        match monthOf monthAbbrev with
        | some month =>
            -- a day or year that is `NaN` gives no date either
            (keptDate (parseInt yearStr) month (parseInt dayStr)).map fun date =>
              String.ofList ((toIsoString date).take 10)
        | none => none
    | _ => none

/-- A value of a source document, as far as a date may come from it. -/
inductive SourceValue where
  | absent
  | text (value : String)
  | other

inductive DateError where
  | notAString (name : String)
  | invalidDate (name : String)
  deriving DecidableEq, Repr

def DateError.message : DateError → String
  | .notAString name => s!"{name} must be a string"
  | .invalidDate name => s!"Invalid date for {name}"

def optionalDate (value : SourceValue) (name : String) : Except DateError (Option String) :=
  match value with
  | .absent => .ok none
  | .other => .error (.notAString name)
  | .text value =>
      match given (parseDate value) with
      | some parsed => .ok (some parsed)
      | none => .error (.invalidDate name)

/-! ### Instants of parsed dates -/

/-- `new Date(text)` for the texts that `parseDate` returns: `YYYY-MM-DD`, and the first
day of a month of the expanded years, `+YYYYYY-MM` and `-YYYYYY-MM`. -/
def newDate (text : String) : JsDate :=
  let month (sign : Int) (rest : List Char) : JsDate :=
    match rest.splitOn '-' with
    | [year, month] =>
        timeClip (makeDay (sign * Number.decimal year) ((Number.decimal month : Int) - 1) 1 *
          msPerDay)
    | _ => none
  match text.toList with
  | '+' :: rest => month 1 rest
  | '-' :: rest => month (-1) rest
  | rest =>
      match rest.splitOn '-' with
      | [year, month, day] =>
          timeClip (makeDay (Number.decimal year) ((Number.decimal month : Int) - 1)
            (Number.decimal day) * msPerDay)
      | _ => none

/-! ### What the formats say -/

def IsDigits (places : Nat) (text : List Char) : Prop :=
  text.length = places ∧ ∀ c ∈ text, c.isDigit = true

def monthNames : List (List Char) := monthMap.map Prod.fst

/-- The English abbreviation of a month. -/
def monthName (month : Nat) : List Char := monthNames.getD month []

/-- `YYYY-MM-DD`. -/
def WritesIso (text : List Char) (date : Date) : Prop :=
  ∃ year month day, text = ['-'].intercalate [year, month, day] ∧
    IsDigits 4 year ∧ IsDigits 2 month ∧ IsDigits 2 day ∧
    (Number.decimal year : Int) = date.year ∧ Number.decimal month = date.month + 1 ∧
      Number.decimal day = date.day

/-- `D[D] Mon YYYY`. -/
def WritesText (text : List Char) (date : Date) : Prop :=
  ∃ day year, text = [' '].intercalate [day, monthName date.month, year] ∧
    (IsDigits 1 day ∨ IsDigits 2 day) ∧ IsDigits 4 year ∧
    (Number.decimal year : Int) = date.year ∧ Number.decimal day = date.day

/-- A date as `YYYY-MM-DD`. -/
def isoText (date : Date) : String :=
  String.ofList (['-'].intercalate [Number.padded 4 date.year.toNat,
    Number.padded 2 (date.month + 1), Number.padded 2 date.day])

/-- The text is read if and only if it names a date of the years 100 to 9999 in one
of the formats, the result is that date, and it is read as itself. -/
def ParsesExactly (value : String) : Prop :=
  (∀ result, parseDate value = some result ↔
    ∃ date : Date, (WritesIso (trim value).toList date ∨ WritesText (trim value).toList date) ∧
      100 ≤ date.year ∧ date.year ≤ 9999 ∧ result = isoText date) ∧
  ∀ result, parseDate value = some result → parseDate result = some result

/-- What `parseInt` reads as the year and the day of a date that `Date` has, with
the name of its month between them. -/
structure Reads (value : String) (dayStr yearStr : List Char) (date : Date) : Prop where
  text : (trim value).toList = [' '].intercalate [dayStr, monthName date.month, yearStr]
  oneDay : ' ' ∉ dayStr
  oneYear : ' ' ∉ yearStr
  day : parseInt dayStr = some (date.day : Int)
  year : parseInt yearStr = some date.year
  fullYear : ¬(0 ≤ date.year ∧ date.year ≤ 99)
  inRange : |date.toDay| ≤ 100000000

/-- A text of three words that `parseInt` takes for a date although its day is not
one or two digits or its year not four. -/
def LooseDate (value : String) : Prop :=
  ∃ dayStr yearStr date, Reads value dayStr yearStr date ∧
    ¬((IsDigits 1 dayStr ∨ IsDigits 2 dayStr) ∧ IsDigits 4 yearStr)

/-! ### Fields that `Date` keeps -/

theorem makeDay_date (date : Date) : makeDay date.year date.month date.day = date.toDay := by
  have small := date.month_lt
  have none_ : (date.month : Int) / 12 = 0 := by omega
  have own : ((date.month : Int) % 12).toNat = date.month := by omega
  rw [makeDay, none_, own, add_zero]
  rfl

theorem dateUtc_date {date : Date} (fullYear : ¬(0 ≤ date.year ∧ date.year ≤ 99)) :
    dateUtc (some date.year) (some (date.month : Int)) (some (date.day : Int)) =
      timeClip (date.toDay * msPerDay) := by
  change timeClip (makeDay (makeFullYear date.year) date.month date.day * msPerDay) = _
  rw [makeFullYear, if_neg fullYear, makeDay_date]

/-- A year of at most two digits becomes a later one. -/
theorem not_kept_of_twoDigits {date : Date} {time : Int} (early : 0 ≤ date.year ∧ date.year ≤ 99)
    (given : dateUtc (some date.year) (some (date.month : Int)) (some (date.day : Int)) =
      some time) : utcDate time ≠ date := by
  intro same
  have small := date.month_lt
  have pos := date.day_pos
  have none_ : (date.month : Int) / 12 = 0 := by omega
  have clipped : timeClip (makeDay (makeFullYear date.year) date.month date.day * msPerDay) =
      some time := given
  rw [makeFullYear, if_pos early, makeDay, none_, add_zero, timeClip] at clipped
  have instant := Option.some.inj (Option.ite_none_right_eq_some.mp clipped).2
  rw [← instant, utcDate, Int.mul_ediv_cancel _ (by decide)] at same
  have later : 1900 + date.year ≤ date.year := by
    conv_rhs => rw [← same]
    exact le_yearFromDay (by omega)
  omega

theorem timeClip_days {day time : Int} : timeClip (day * msPerDay) = some time ↔
    |day| ≤ 100000000 ∧ day * msPerDay = time := by
  rw [timeClip, Option.ite_none_right_eq_some, Option.some.injEq, msPerDay, abs_le, abs_le]
  omega

theorem keptDate_eq_some {year month day : Option Int} {date : Date} :
    keptDate year month day = some date ↔
      year = some date.year ∧ month = some (date.month : Int) ∧ day = some (date.day : Int) ∧
        ¬(0 ≤ date.year ∧ date.year ≤ 99) ∧ |date.toDay| ≤ 100000000 := by
  constructor
  · intro kept
    obtain ⟨time, given, kept⟩ := Option.bind_eq_some_iff.mp kept
    obtain ⟨⟨rfl, rfl, rfl⟩, same⟩ := Option.ite_none_right_eq_some.mp kept
    obtain rfl := Option.some.inj same
    have fullYear : ¬(0 ≤ (utcDate time).year ∧ (utcDate time).year ≤ 99) := fun early =>
      not_kept_of_twoDigits early given rfl
    rw [dateUtc_date fullYear] at given
    exact ⟨rfl, rfl, rfl, fullYear, (timeClip_days.mp given).1⟩
  · rintro ⟨rfl, rfl, rfl, fullYear, inRange⟩
    have given := (dateUtc_date fullYear).trans (timeClip_days.mpr ⟨inRange, rfl⟩)
    have same : utcDate (date.toDay * msPerDay) = date := by
      rw [utcDate, Int.mul_ediv_cancel _ (by decide), Date.ofDay_toDay]
    refine Option.bind_eq_some_iff.mpr ⟨_, given, ?_⟩
    rw [same]
    exact if_pos ⟨rfl, rfl, rfl⟩

/-! ### Digits -/

section Digits

variable {places : Nat} {text : List Char}

theorem isDigits_padded (places n : Nat) : IsDigits places (Number.padded places n) :=
  ⟨Number.length_padded places n, fun _ mem => Number.isDigit_of_mem_padded mem⟩

theorem IsDigits.padded_decimal (digits : IsDigits places text) :
    Number.padded places (Number.decimal text) = text := by
  rw [← digits.1]
  exact Number.padded_decimal digits.2

theorem IsDigits.decimal_lt (digits : IsDigits places text) :
    Number.decimal text < 10 ^ places := by
  rw [← digits.1]
  exact Number.decimal_lt digits.2

theorem IsDigits.notMem (digits : IsDigits places text) {c : Char} (other : c.isDigit = false) :
    c ∉ text := by
  intro mem
  rw [digits.2 c mem] at other
  cases other

/-- `parseInt` reads a few digits as their value. -/
theorem IsDigits.parseInt_eq (digits : IsDigits places text) (pos : 0 < places)
    (few : places ≤ 4) : parseInt text = some (Number.decimal text : Int) := by
  cases text with
  | nil => exact absurd digits.1 pos.ne
  | cons c rest =>
      have digit := digits.2 c List.mem_cons_self
      have small : Number.decimal (c :: rest) ≤ 2 ^ 53 :=
        calc Number.decimal (c :: rest) ≤ 10 ^ places := digits.decimal_lt.le
          _ ≤ 10 ^ 4 := Nat.pow_le_pow_right (by decide) few
          _ ≤ 2 ^ 53 := by decide
      have read : Number.parseInt (c :: rest) = .finite (Number.decimal (c :: rest)) := by
        rw [Number.parseInt_digits (List.cons_ne_nil c rest) digits.2, Number.ofRat_natCast small]
      have minus : c ≠ '-' := fun same => by
        rw [same] at digit
        cases digit
      have plus : c ≠ '+' := fun same => by
        rw [same] at digit
        cases digit
      simp only [parseInt]
      rw [List.dropWhile_cons_of_neg (by rw [isSpace_digit digit]; exact Bool.false_ne_true)]
      split
      · rename_i same
        exact absurd (List.cons.inj same).1 minus
      · rename_i same
        exact absurd (List.cons.inj same).1 plus
      · rw [read]
        exact congrArg some (Int.floor_natCast _)

end Digits

/-! ### Months -/

theorem monthMap_lookup {monthAbbrev : List Char} {number : Int}
    (found : monthMap.lookup monthAbbrev = some number) :
    ∃ month < 12, number = (month : Nat) ∧ monthAbbrev = monthName month := by
  have all : monthMap.all fun e => (List.range 12).any fun month =>
      decide (e.2 = month) && decide (e.1 = monthName month) := by decide
  obtain ⟨before, after, split, -⟩ := List.lookup_eq_some_iff.mp found
  have listed : (monthAbbrev, number) ∈ monthMap :=
    split ▸ List.mem_append_right before List.mem_cons_self
  obtain ⟨month, small, same⟩ := List.any_eq_true.mp (List.all_eq_true.mp all _ listed)
  rw [Bool.and_eq_true, decide_eq_true_eq, decide_eq_true_eq] at same
  exact ⟨month, List.mem_range.mp small, same.1, same.2⟩

theorem monthOf_monthName {month : Nat} (small : month < 12) :
    monthOf (monthName month) = some (some (month : Int)) := by
  have all : (List.range 12).all fun month =>
      decide (monthOf (monthName month) = some (some (month : Int))) := by decide
  exact of_decide_eq_true (List.all_eq_true.mp all month (List.mem_range.mpr small))

theorem monthOf_eq_some {monthAbbrev : List Char} {number : Int}
    (found : monthOf monthAbbrev = some (some number)) :
    ∃ month < 12, number = (month : Nat) ∧ monthAbbrev = monthName month := by
  unfold monthOf at found
  cases own : monthMap.lookup monthAbbrev with
  | some m =>
      rw [own] at found
      obtain rfl := Option.some.inj (Option.some.inj found)
      exact monthMap_lookup own
  | none =>
      rw [own] at found
      obtain ⟨_, -, nan⟩ := Option.map_eq_some_iff.mp found
      cases nan

theorem space_notMem_monthName (month : Nat) : ' ' ∉ monthName month := by
  intro mem
  by_cases small : month < 12
  · have all : (List.range 12).all fun month => !(monthName month).contains ' ' := by decide
    have solid := List.all_eq_true.mp all month (List.mem_range.mpr small)
    rw [List.contains_iff_mem.mpr mem] at solid
    cases solid
  · have beyond : monthName month = [] := by
      rw [monthName, List.getD_eq_getElem?_getD, List.getElem?_eq_none (not_lt.mp small)]
      rfl
    rw [beyond] at mem
    cases mem

/-! ### The first format -/

theorem inRange_of_year {date : Date} (low : 100 ≤ date.year) (high : date.year ≤ 9999) :
    ¬(0 ≤ date.year ∧ date.year ≤ 99) ∧ |date.toDay| ≤ 100000000 := by
  have within := date.toDay_spec
  unfold dayFromYear at within
  refine ⟨by omega, abs_le.mpr ?_⟩
  omega

/-- Three parts joined by a separator that none of them has are split again. -/
theorem splitOn_three (sep : Char) {a b c : List Char} (ha : sep ∉ a) (hb : sep ∉ b)
    (hc : sep ∉ c) : ([sep].intercalate [a, b, c]).splitOn sep = [a, b, c] := by
  refine List.splitOn_intercalate sep ?_ (List.cons_ne_nil _ _)
  intro part mem
  rcases List.mem_cons.mp mem with rfl | mem
  · exact ha
  rcases List.mem_cons.mp mem with rfl | mem
  · exact hb
  · exact List.mem_singleton.mp mem ▸ hc

/-- Classes that start with digits take the digits first. -/
theorem exists_digits (places : Nat) {classes : List (Char → Bool)} {text : List Char}
    (shape : List.Forall₂ (fun accepts c => accepts c = true)
      (List.replicate places Char.isDigit ++ classes) text) :
    ∃ digits rest, text = digits ++ rest ∧ IsDigits places digits ∧
      List.Forall₂ (fun accepts c => accepts c = true) classes rest := by
  induction places generalizing text with
  | zero => exact ⟨[], text, rfl, ⟨rfl, nofun⟩, shape⟩
  | succ places ih =>
      cases shape with
      | @cons _ c _ text digit shape =>
          obtain ⟨digits, rest, rfl, ⟨length, all⟩, others⟩ := ih shape
          exact ⟨c :: digits, rest, rfl, ⟨congrArg Nat.succ length,
            List.forall_mem_cons.mpr ⟨digit, all⟩⟩, others⟩

theorem intercalate_three {sep : Char} {a b c : List Char} :
    [sep].intercalate [a, b, c] = a ++ sep :: (b ++ sep :: c) := by
  simp [List.intercalate_cons_cons]

theorem isoShape {text : List Char}
    (shape : List.Forall₂ (fun accepts c => accepts c = true) isoClasses text) :
    ∃ year month day, text = ['-'].intercalate [year, month, day] ∧
      IsDigits 4 year ∧ IsDigits 2 month ∧ IsDigits 2 day := by
  obtain ⟨year, _, rfl, hy, _ | ⟨dash, afterYear⟩⟩ := exists_digits 4 shape
  obtain rfl := of_decide_eq_true dash
  obtain ⟨month, _, rfl, hm, _ | ⟨dash', afterMonth⟩⟩ := exists_digits 2 afterYear
  obtain rfl := of_decide_eq_true dash'
  obtain ⟨day, _, rfl, hd, ⟨⟩⟩ :=
    exists_digits 2 (show List.Forall₂ _ (List.replicate 2 Char.isDigit ++ []) _ from afterMonth)
  refine ⟨year, month, day, ?_, hy, hm, hd⟩
  rw [intercalate_three, List.append_nil]

theorem IsDigits.forall₂ {places : Nat} {text : List Char} (digits : IsDigits places text) :
    List.Forall₂ (fun accepts c => accepts c = true) (List.replicate places Char.isDigit) text := by
  obtain ⟨rfl, all⟩ := digits
  induction text with
  | nil => exact .nil
  | cons c text ih =>
      exact .cons (all c List.mem_cons_self) (ih fun d mem => all d (List.mem_cons_of_mem c mem))

theorem isoShape_intercalate {year month day : List Char} (hy : IsDigits 4 year)
    (hm : IsDigits 2 month) (hd : IsDigits 2 day) :
    List.Forall₂ (fun accepts c => accepts c = true) isoClasses
      (['-'].intercalate [year, month, day]) := by
  rw [intercalate_three]
  exact List.rel_append hy.forall₂ (.cons rfl (List.rel_append hm.forall₂ (.cons rfl hd.forall₂)))

theorem isoText_of_writes {text : List Char} {date : Date} (writes : WritesIso text date) :
    String.ofList text = isoText date := by
  obtain ⟨year, month, day, rfl, hy, hm, hd, year_, month_, day_⟩ := writes
  rw [isoText, ← year_, Int.toNat_natCast, ← month_, ← day_, hy.padded_decimal, hm.padded_decimal,
    hd.padded_decimal]

/-- A text of the first format is read as the date it names. -/
theorem parseDate_iso {value result : String}
    (shape : List.Forall₂ (fun accepts c => accepts c = true) isoClasses (trim value).toList) :
    parseDate value = some result ↔ ∃ date : Date, WritesIso (trim value).toList date ∧
      100 ≤ date.year ∧ date.year ≤ 9999 ∧ result = isoText date := by
  obtain ⟨year, month, day, text, hy, hm, hd⟩ := isoShape shape
  have parts := splitOn_three '-' (hy.notMem rfl) (hm.notMem rfl) (hd.notMem rfl)
  have small := hy.decimal_lt
  have parsed : parseDate value = (keptDate (some (Number.decimal year : Int))
      (some ((Number.decimal month : Int) - 1)) (some (Number.decimal day : Int))).map
        fun _ => String.ofList (trim value).toList := by
    have nonempty : (trim value).toList ≠ [] := fun empty => by
      rw [empty] at shape
      cases shape
    simp only [parseDate]
    rw [if_neg nonempty,
      if_pos (show Regex.test isoDateRe _ = true from Regex.test_classes.mpr shape)]
    rw [text, parts]
    simp only [hy.parseInt_eq (by decide) (by decide), hm.parseInt_eq (by decide) (by decide),
      hd.parseInt_eq (by decide) (by decide), Option.map_some]
  rw [parsed, Option.map_eq_some_iff]
  constructor
  · rintro ⟨date, kept, rfl⟩
    obtain ⟨year_, month_, day_, fullYear, -⟩ := keptDate_eq_some.mp kept
    have writes : WritesIso (trim value).toList date := by
      refine ⟨year, month, day, text, hy, hm, hd, Option.some.inj year_, ?_, ?_⟩
      · have same := Option.some.inj month_
        omega
      · have same := Option.some.inj day_
        omega
    have same := Option.some.inj year_
    exact ⟨date, writes, by omega, by omega, isoText_of_writes writes⟩
  · rintro ⟨date, writes, low, high, rfl⟩
    have written := isoText_of_writes writes
    obtain ⟨year', month', day', text', hy', hm', hd', year_, month_, day_⟩ := writes
    have parts' := splitOn_three '-' (hy'.notMem rfl) (hm'.notMem rfl) (hd'.notMem rfl)
    rw [← text', text, parts] at parts'
    obtain ⟨rfl, rfl, rfl⟩ : year = year' ∧ month = month' ∧ day = day' := by simpa using parts'
    obtain ⟨fullYear, inRange⟩ := inRange_of_year low high
    have month' : (Number.decimal month : Int) - 1 = date.month := by omega
    have day' : (Number.decimal day : Int) = date.day := congrArg Nat.cast day_
    exact ⟨date, keptDate_eq_some.mpr ⟨congrArg some year_, congrArg some month',
      congrArg some day', fullYear, inRange⟩, written⟩

/-! ### The second format -/

/-- The pieces of a split text have no separator. -/
theorem notMem_of_mem_splitOn {sep : Char} {text piece : List Char}
    (mem : piece ∈ text.splitOn sep) : sep ∉ piece := by
  induction text generalizing piece with
  | nil =>
      rw [List.splitOn_nil, List.mem_singleton] at mem
      rw [mem]
      exact List.not_mem_nil
  | cons c text ih =>
      rw [List.splitOn_cons_eq_if_modifyHead] at mem
      by_cases same : (c == sep) = true
      · rw [if_pos same] at mem
        rcases List.mem_cons.mp mem with rfl | later
        · exact List.not_mem_nil
        · exact ih later
      · rw [if_neg same] at mem
        generalize text.splitOn sep = pieces at mem ih
        cases pieces with
        | nil => cases mem
        | cons first pieces =>
            rcases List.mem_cons.mp mem with rfl | later
            · refine List.not_mem_cons_of_ne_of_not_mem ?_ (ih List.mem_cons_self)
              exact fun own => same (beq_iff_eq.mpr own.symm)
            · exact ih (List.mem_cons_of_mem first later)

theorem Reads.parts {value : String} {dayStr yearStr : List Char} {date : Date}
    (reads : Reads value dayStr yearStr date) :
    (trim value).toList.splitOn ' ' = [dayStr, monthName date.month, yearStr] := by
  rw [reads.text]
  exact splitOn_three ' ' reads.oneDay (space_notMem_monthName date.month) reads.oneYear

/-- A text with a blank is not of the first format. -/
theorem not_isoShape {text : List Char} (blank : ' ' ∈ text) :
    ¬List.Forall₂ (fun accepts c => accepts c = true) isoClasses text := by
  intro shape
  obtain ⟨year, month, day, rfl, hy, hm, hd⟩ := isoShape shape
  rw [intercalate_three] at blank
  simp [hy.notMem (c := ' ') rfl, hm.notMem (c := ' ') rfl, hd.notMem (c := ' ') rfl] at blank

theorem Reads.blank {value : String} {dayStr yearStr : List Char} {date : Date}
    (reads : Reads value dayStr yearStr date) : ' ' ∈ (trim value).toList := by
  rw [reads.text, intercalate_three]
  exact List.mem_append_right dayStr List.mem_cons_self

/-- Any other text is read as what `parseInt` makes of it. -/
theorem parseDate_text {value result : String}
    (other : ¬List.Forall₂ (fun accepts c => accepts c = true) isoClasses (trim value).toList) :
    parseDate value = some result ↔ ∃ dayStr yearStr date, Reads value dayStr yearStr date ∧
      result = String.ofList ((toIsoString date).take 10) := by
  have notIso : ¬Regex.test isoDateRe (trim value).toList = true := fun shape =>
    other (Regex.test_classes.mp shape)
  constructor
  · intro parsed
    simp only [parseDate] at parsed
    rw [if_neg notIso] at parsed
    obtain ⟨-, parsed⟩ := Option.ite_none_left_eq_some.mp parsed
    have whole : [' '].intercalate ((trim value).toList.splitOn ' ') = (trim value).toList :=
      List.intercalate_splitOn ' '
    have solid : ∀ piece ∈ (trim value).toList.splitOn ' ', ' ' ∉ piece :=
      fun piece => notMem_of_mem_splitOn
    generalize (trim value).toList.splitOn ' ' = pieces at parsed whole solid
    match pieces, parsed with
    | [dayStr, monthAbbrev, yearStr], parsed =>
        cases found : monthOf monthAbbrev with
        | none =>
            simp only [found] at parsed
            cases parsed
        | some month =>
            simp only [found] at parsed
            obtain ⟨date, kept, rfl⟩ := Option.map_eq_some_iff.mp parsed
            obtain ⟨year, rfl, day, fullYear, inRange⟩ := keptDate_eq_some.mp kept
            obtain ⟨month, -, same, rfl⟩ := monthOf_eq_some found
            obtain rfl : date.month = month := by omega
            exact ⟨dayStr, yearStr, date,
              ⟨whole.symm, solid _ (by simp), solid _ (by simp), day, year, fullYear, inRange⟩, rfl⟩
  · rintro ⟨dayStr, yearStr, date, reads, rfl⟩
    have nonempty : (trim value).toList ≠ [] := List.ne_nil_of_mem reads.blank
    have kept := keptDate_eq_some.mpr ⟨reads.year, rfl, reads.day, reads.fullYear, reads.inRange⟩
    simp only [parseDate]
    rw [if_neg nonempty, if_neg notIso, reads.parts]
    simp only [monthOf_monthName date.month_lt, kept, Option.map_some]

theorem parseDate_ne_empty (value : String) : parseDate value ≠ some "" := by
  intro empty
  by_cases shape : List.Forall₂ (fun accepts c => accepts c = true) isoClasses (trim value).toList
  · obtain ⟨date, -, -, -, text⟩ := (parseDate_iso shape).mp empty
    have length := congrArg (fun s => s.toList.length) text
    simp [isoText] at length
  · obtain ⟨dayStr, yearStr, date, -, text⟩ := (parseDate_text shape).mp empty
    have nothing := List.take_eq_nil_iff.mp (String.ofList_injective text).symm
    rw [toIsoString, intercalate_three] at nothing
    simp at nothing

/-- A date that is given is read or refused in the name of its field. -/
theorem optionalDate_text (value name : String) : optionalDate (.text value) name =
    match parseDate value with
    | some parsed => .ok (some parsed)
    | none => .error (.invalidDate name) := by
  cases parsed : parseDate value with
  | none => simp only [optionalDate, parsed, given, Option.filter_none]
  | some result =>
      have nonempty : result ≠ "" := fun empty => parseDate_ne_empty value (empty ▸ parsed)
      simp only [optionalDate, parsed, given, Option.filter_some, decide_eq_true nonempty, if_true]

/-! ### The documented dates -/

theorem WritesIso.shape {text : List Char} {date : Date} (writes : WritesIso text date) :
    List.Forall₂ (fun accepts c => accepts c = true) isoClasses text := by
  obtain ⟨year, month, day, rfl, hy, hm, hd, -⟩ := writes
  exact isoShape_intercalate hy hm hd

/-- A date of four digits is the first ten characters of its instant. -/
theorem take_toIsoString {date : Date} (low : 100 ≤ date.year) (high : date.year ≤ 9999) :
    String.ofList ((toIsoString date).take 10) = isoText date := by
  rw [toIsoString, if_pos ⟨by omega, high⟩, isoText, intercalate_three]
  refine congrArg String.ofList (List.take_left' ?_)
  simp

theorem WritesText.reads {value : String} {date : Date} (low : 100 ≤ date.year)
    (high : date.year ≤ 9999) (writes : WritesText (trim value).toList date) :
    ∃ dayStr yearStr, Reads value dayStr yearStr date ∧
      (IsDigits 1 dayStr ∨ IsDigits 2 dayStr) ∧ IsDigits 4 yearStr := by
  obtain ⟨day, year, text, hd, hy, year_, day_⟩ := writes
  obtain ⟨fullYear, inRange⟩ := inRange_of_year low high
  have solid : ' ' ∉ day := hd.elim (·.notMem rfl) (·.notMem rfl)
  have read : parseInt day = some (Number.decimal day : Int) :=
    hd.elim (·.parseInt_eq (by decide) (by decide)) (·.parseInt_eq (by decide) (by decide))
  have readYear := hy.parseInt_eq (by decide) (by decide)
  rw [year_] at readYear
  rw [day_] at read
  exact ⟨day, year, ⟨text, solid, hy.notMem rfl, read, readYear, fullYear, inRange⟩, hd, hy⟩

/-- What is read from digits is written. -/
theorem Reads.writes {value : String} {dayStr yearStr : List Char} {date : Date}
    (reads : Reads value dayStr yearStr date) (hd : IsDigits 1 dayStr ∨ IsDigits 2 dayStr)
    (hy : IsDigits 4 yearStr) : WritesText (trim value).toList date ∧ 100 ≤ date.year ∧
      date.year ≤ 9999 := by
  have year := Option.some.inj
    ((hy.parseInt_eq (by decide) (by decide)).symm.trans reads.year)
  have read : parseInt dayStr = some (Number.decimal dayStr : Int) :=
    hd.elim (·.parseInt_eq (by decide) (by decide)) (·.parseInt_eq (by decide) (by decide))
  have day := Option.some.inj (read.symm.trans reads.day)
  have small := hy.decimal_lt
  have full := reads.fullYear
  exact ⟨⟨dayStr, yearStr, reads.text, hd, hy, year, by omega⟩, by omega, by omega⟩

theorem writesIso_isoText {date : Date} (low : 0 ≤ date.year) (high : date.year ≤ 9999) :
    WritesIso (isoText date).toList date := by
  have month := date.month_lt
  have day : date.day < 10 ^ 2 := by
    have least := date.day_le
    have most : daysInMonth (isLeap date.year) date.month ≤ 31 := by
      unfold daysInMonth
      split
      · split <;> decide
      all_goals decide
    omega
  refine ⟨_, _, _, String.toList_ofList, isDigits_padded 4 _, isDigits_padded 2 _,
    isDigits_padded 2 _, ?_, ?_, ?_⟩
  · rw [Number.decimal_padded (by omega)]
    omega
  · exact Number.decimal_padded (by omega)
  · exact Number.decimal_padded day

theorem trim_isoText (date : Date) : trim (isoText date) = isoText date := by
  have solid : ∀ c ∈ (isoText date).toList, isSpace c = false := by
    intro c mem
    rw [isoText, String.toList_ofList, intercalate_three] at mem
    have digit : ∀ places n, c ∈ Number.padded places n → isSpace c = false :=
      fun places n own => isSpace_digit (Number.isDigit_of_mem_padded own)
    rcases List.mem_append.mp mem with year | mem
    · exact digit 4 _ year
    rcases List.mem_cons.mp mem with rfl | mem
    · rfl
    rcases List.mem_append.mp mem with month | mem
    · exact digit 2 _ month
    rcases List.mem_cons.mp mem with rfl | day
    · rfl
    · exact digit 2 _ day
  refine String.toList_injective ?_
  rw [toList_trim, trimChars_solid solid]

/-- A date that is written as documented is read as itself. -/
theorem parseDate_isoText {date : Date} (low : 100 ≤ date.year) (high : date.year ≤ 9999) :
    parseDate (isoText date) = some (isoText date) := by
  have writes : WritesIso (trim (isoText date)).toList date := by
    rw [trim_isoText]
    exact writesIso_isoText (by omega) high
  exact (parseDate_iso writes.shape).mpr ⟨date, writes, low, high, rfl⟩

/-- A documented date is read as its `YYYY-MM-DD`. -/
theorem parseDate_documented {value : String} {date : Date}
    (writes : WritesIso (trim value).toList date ∨ WritesText (trim value).toList date)
    (low : 100 ≤ date.year) (high : date.year ≤ 9999) : parseDate value = some (isoText date) := by
  rcases writes with iso | text
  · exact (parseDate_iso iso.shape).mpr ⟨date, iso, low, high, rfl⟩
  · obtain ⟨_, _, reads, -⟩ := text.reads low high
    rw [← take_toIsoString low high]
    exact (parseDate_text (not_isoShape reads.blank)).mpr ⟨_, _, date, reads, rfl⟩

/-- A documented date is stored as its midnight. -/
theorem newDate_isoText {date : Date} (low : 100 ≤ date.year) (high : date.year ≤ 9999) :
    newDate (isoText date) = some (date.toDay * msPerDay) := by
  obtain ⟨year, month, day, text, hy, hm, hd, year_, month_, day_⟩ :=
    writesIso_isoText (by omega) high
  have parts := splitOn_three '-' (hy.notMem rfl) (hm.notMem rfl) (hd.notMem rfl)
  have named : makeDay (Number.decimal year) ((Number.decimal month : Int) - 1)
      (Number.decimal day) = date.toDay := by
    rw [year_, month_, day_, ← makeDay_date]
    simp
  have clipped := timeClip_days.mpr ⟨(inRange_of_year low high).2, rfl⟩
  have unsigned : ∀ c rest, (isoText date).toList = c :: rest → c.isDigit = true := by
    intro c rest same
    rw [text, intercalate_three] at same
    cases year with
    | nil => cases hy.1
    | cons d year =>
        rw [← (List.cons.inj same).1]
        exact hy.2 d List.mem_cons_self
  rw [newDate]
  split
  · rename_i rest same
    cases unsigned _ _ same
  · rename_i rest same
    cases unsigned _ _ same
  · simp only [text, parts]
    rw [named, clipped]

/-- A text is read as documented unless its digits are loose. -/
theorem parsesExactly_iff (value : String) : ParsesExactly value ↔ ¬LooseDate value := by
  constructor
  · rintro ⟨accepted, -⟩ ⟨dayStr, yearStr, date, reads, loose⟩
    have other := not_isoShape reads.blank
    obtain ⟨date', writes, low, high, -⟩ :=
      (accepted _).mp ((parseDate_text other).mpr ⟨dayStr, yearStr, date, reads, rfl⟩)
    rcases writes with iso | text
    · exact other iso.shape
    · obtain ⟨dayStr', yearStr', reads', strict⟩ := text.reads low high
      have same := reads.parts.symm.trans reads'.parts
      obtain ⟨rfl, -, rfl⟩ : dayStr = dayStr' ∧ monthName date.month = monthName date'.month ∧
        yearStr = yearStr' := by simpa using same
      exact loose strict
  · intro strict
    have accepted : ∀ result, parseDate value = some result ↔
        ∃ date : Date, (WritesIso (trim value).toList date ∨ WritesText (trim value).toList date) ∧
          100 ≤ date.year ∧ date.year ≤ 9999 ∧ result = isoText date := by
      intro result
      by_cases shape : List.Forall₂ (fun accepts c => accepts c = true) isoClasses
        (trim value).toList
      · rw [parseDate_iso shape]
        refine exists_congr fun date => and_congr_left fun years => ?_
        constructor
        · exact Or.inl
        · rintro (iso | text)
          · exact iso
          · obtain ⟨_, _, reads, -⟩ := text.reads years.1 years.2.1
            exact absurd shape (not_isoShape reads.blank)
      · rw [parseDate_text shape]
        constructor
        · rintro ⟨dayStr, yearStr, date, reads, rfl⟩
          have digits := not_not.mp fun loose => strict ⟨dayStr, yearStr, date, reads, loose⟩
          obtain ⟨writes, low, high⟩ := reads.writes digits.1 digits.2
          exact ⟨date, .inr writes, low, high, take_toIsoString low high⟩
        · rintro ⟨date, writes, low, high, rfl⟩
          rcases writes with iso | text
          · exact absurd iso.shape shape
          · obtain ⟨dayStr, yearStr, reads, -⟩ := text.reads low high
            exact ⟨dayStr, yearStr, date, reads, (take_toIsoString low high).symm⟩
    refine ⟨accepted, fun result parsed => ?_⟩
    obtain ⟨date, -, low, high, rfl⟩ := (accepted result).mp parsed
    exact parseDate_isoText low high

/-- A year of five digits comes out with a sign, cut after the month, and is then no
date at all. -/
theorem parseDate_fiveDigits : ¬ParsesExactly "17 Aug 20260" := by
  rintro ⟨-, again⟩
  have parsed : parseDate "17 Aug 20260" = some "+020260-08" := by decide +kernel
  have refused : parseDate "+020260-08" = none := by decide +kernel
  have same := again _ parsed
  rw [refused] at same
  cases same

end ColorfulLife.PurchaseNormalizer
