/-
Normalising a source document (`normalizePurchaseDocument` in
`purchaseNormalizer.ts`).

A field of the source is whatever its JSON was (`RawField`). It is checked and read
one field after the other, and the first that is refused names itself in the error.
What is accepted is trimmed and in range (`WellFormed`), is written back and read
again unchanged (`normalizePurchaseDocument_raw`), and passes every check that the
cost engine makes on a single field.
-/

import ColorfulLife.Purchases.Allocation
import ColorfulLife.Purchases.MoneyText

namespace ColorfulLife.PurchaseNormalizer

open Binary64 Calendar Regex Relational

/-! ### Fields of a source document -/

/-- A value as it came: `undefined` or `null`, a string, a number as `toString` shows
it, or something else of the named type. -/
inductive RawField where
  | absent
  | text (value : String)
  | number (shown : String)
  | other (typeName : String)
  deriving DecidableEq

namespace RawField

def dateValue : RawField → SourceValue
  | .absent => .absent
  | .text value => .text value
  | .number _ | .other _ => .other

/-- A missing value is not read as an amount. -/
def moneyValue : RawField → MoneyValue
  | .absent => .other "undefined"
  | .text value => .text value
  | .number shown => .number shown
  | .other typeName => .other typeName

end RawField

structure RawPurchaseItem where
  sourceLineNumber : RawField
  externalProductId : RawField
  sourceDescription : RawField
  sourceSetNumber : RawField
  productListingId : RawField
  quantity : RawField
  originalGrossUnitCost : RawField
  originalGrossLineTotal : RawField
  deriving DecidableEq

/-- `items` is `none` when it is no array. -/
structure RawPurchaseDocument where
  importHash : RawField
  sourceOrderReference : RawField
  sourceOrderDate : RawField
  merchantName : RawField
  sourceInvoiceReference : RawField
  sourceDocumentDate : RawField
  originalGrossMerchandiseTotal : RawField
  shippingTotal : RawField
  discountTotal : RawField
  finalTotalPaid : RawField
  items : Option (List RawPurchaseItem)
  deriving DecidableEq

/-! ### Whole numbers -/

inductive WholeError where
  | wrongType (typeName : String)
  | empty
  | invalid (value : String)
  | outOfRange (value : String)
  deriving DecidableEq, Repr

/-- `/^\d+$/`. -/
def wholeRe : Expr := concat (.start :: ([plus Char.isDigit] ++ [.stop]))

/-- The common body of `parseQuantity` and `parsePositiveInteger`, from the point on
where the value has become the text `str`. -/
def parseWholeText (value : String) (str : List Char) : Except WholeError Number :=
  if str = [] then .error .empty
  else
    match firstMatch wholeRe str with
    | none => .error (.invalid value)
    | some found =>
        let num := Number.parseInt ((Position.mk [] str []).upTo found)
        if Number.isSafeInteger num then .ok num else .error (.outOfRange value)

def parseWhole : MoneyValue → Except WholeError Number
  | .other typeName => .error (.wrongType typeName)
  | .number shown => parseWholeText shown shown.toList
  | .text value => parseWholeText value (trim value).toList

/-! ### Errors -/

/-- `PurchaseNormalizationError`. -/
inductive NormalizationError where
  | notAString (name : String)
  | blank (name : String)
  | notAnOptionalString (name : String)
  | notANumber (name : String)
  | negative (name : String)
  | notPositive (name : String)
  | noItems
  | money (e : MoneyError)
  | quantity (e : WholeError)
  | positiveInteger (e : WholeError)
  | date (e : DateError)
  deriving DecidableEq

def NormalizationError.message (e : NormalizationError) : String :=
  "PurchaseNormalizationError: " ++
    match e with
    | .notAString name => s!"{name} must be a string"
    | .blank name => s!"{name} is required and cannot be blank"
    | .notAnOptionalString name => s!"{name} must be a string if provided"
    | .notANumber name => s!"{name} must be number or string"
    | .negative name => s!"{name} must be non‑negative"
    | .notPositive name => s!"{name} must be a positive integer"
    | .noItems => "items must be a non‑empty array"
    | .money e => e.message
    | .quantity (.wrongType typeName) => s!"Quantity must be number or string, got {typeName}"
    | .quantity .empty => "Quantity cannot be empty"
    | .quantity (.invalid value) => s!"Invalid quantity: \"{value}\""
    | .quantity (.outOfRange value) => s!"Quantity out of safe integer range: {value}"
    | .positiveInteger (.wrongType typeName) => s!"Expected number or string, got {typeName}"
    | .positiveInteger .empty => "Value cannot be empty"
    | .positiveInteger (.invalid value) => s!"Invalid integer: \"{value}\""
    | .positiveInteger (.outOfRange value) => s!"Integer out of safe integer range: {value}"
    | .date e => e.message

def parseQuantity (value : MoneyValue) : Except NormalizationError Number :=
  (parseWhole value).mapError .quantity

def parsePositiveInteger (value : MoneyValue) : Except NormalizationError Number :=
  (parseWhole value).mapError .positiveInteger

/-! ### Checks of a field -/

/-- A blank text counts as absent. -/
def normalizeOptionalPurchaseString (value : RawField) (name : String) :
    Except NormalizationError (Option String) :=
  match value with
  | .absent => .ok none
  | .text value => .ok (if trim value = "" then none else some (trim value))
  | _ => .error (.notAnOptionalString name)

def requiredString (value : RawField) (name : String) : Except NormalizationError String :=
  match value with
  | .text value => if trim value = "" then .error (.blank name) else .ok (trim value)
  | _ => .error (.notAString name)

/-- An amount, and the check on it. -/
def amountOf (value : RawField) (name : String) : Except NormalizationError Number := do
  let parsed ← (parseMoney value.moneyValue).mapError NormalizationError.money
  ensure (parsed.less 0 = false) (NormalizationError.negative name)
  return parsed

def requiredNumber (value : RawField) (name : String) : Except NormalizationError Number :=
  match value with
  | .text _ | .number _ => amountOf value name
  | _ => .error (.notANumber name)

def optionalNumber (value : RawField) (name : String) :
    Except NormalizationError (Option Number) :=
  match value with
  | .absent => .ok none
  | _ => some <$> amountOf value name

/-- What is read is at least one. -/
def positive (parsed : Number) (name : String) : Except NormalizationError Number := do
  ensure (parsed.atMost 0 = false) (NormalizationError.notPositive name)
  return parsed

def requiredQuantity (value : RawField) (name : String) : Except NormalizationError Number :=
  match value with
  | .text _ | .number _ => do positive (← parseQuantity value.moneyValue) name
  | _ => .error (.notANumber name)

def optionalPositiveInteger (value : RawField) (name : String) :
    Except NormalizationError (Option Number) :=
  match value with
  | .absent => .ok none
  | _ => do return some (← positive (← parsePositiveInteger value.moneyValue) name)

def optionalDateField (value : RawField) (name : String) :
    Except NormalizationError (Option String) :=
  (optionalDate value.dateValue name).mapError .date

/-! ### The document -/

structure NormalizedSourceItem where
  sourceDescription : String
  quantity : Number
  originalGrossUnitCost : Number
  originalGrossLineTotal : Number
  sourceLineNumber : Option Number
  productListingId : Option Number
  externalProductId : Option String
  sourceSetNumber : Option String
  deriving DecidableEq

/-- A normalised document, its numbers as the source computes them. -/
structure NormalizedSource where
  importHash : String
  sourceOrderReference : String
  originalGrossMerchandiseTotal : Number
  shippingTotal : Number
  discountTotal : Number
  finalTotalPaid : Number
  items : List NormalizedSourceItem
  sourceOrderDate : Option String
  sourceDocumentDate : Option String
  merchantName : Option String
  sourceInvoiceReference : Option String
  deriving DecidableEq

def normalizePurchaseItem (it : RawPurchaseItem) (idx : Nat) :
    Except NormalizationError NormalizedSourceItem := do
  let sourceDescription ← requiredString it.sourceDescription s!"items[{idx}].sourceDescription"
  let quantity ← requiredQuantity it.quantity s!"items[{idx}].quantity"
  let originalGrossUnitCost ←
    requiredNumber it.originalGrossUnitCost s!"items[{idx}].originalGrossUnitCost"
  let originalGrossLineTotal ←
    requiredNumber it.originalGrossLineTotal s!"items[{idx}].originalGrossLineTotal"
  let sourceLineNumber ←
    optionalPositiveInteger it.sourceLineNumber s!"items[{idx}].sourceLineNumber"
  let productListingId ←
    optionalPositiveInteger it.productListingId s!"items[{idx}].productListingId"
  let externalProductId ←
    normalizeOptionalPurchaseString it.externalProductId s!"items[{idx}].externalProductId"
  let sourceSetNumber ←
    normalizeOptionalPurchaseString it.sourceSetNumber s!"items[{idx}].sourceSetNumber"
  return {
    sourceDescription, quantity, originalGrossUnitCost, originalGrossLineTotal, sourceLineNumber,
    productListingId, externalProductId, sourceSetNumber }

def normalizePurchaseDocument (src : RawPurchaseDocument) :
    Except NormalizationError NormalizedSource := do
  let importHash ← requiredString src.importHash "importHash"
  let sourceOrderReference ← requiredString src.sourceOrderReference "sourceOrderReference"
  let finalTotalPaid ← requiredNumber src.finalTotalPaid "finalTotalPaid"
  let originalGrossMerchandiseTotal ←
    requiredNumber src.originalGrossMerchandiseTotal "originalGrossMerchandiseTotal"
  let shippingTotal ← optionalNumber src.shippingTotal "shippingTotal"
  let discountTotal ← optionalNumber src.discountTotal "discountTotal"
  let sourceOrderDate ← optionalDateField src.sourceOrderDate "sourceOrderDate"
  let sourceDocumentDate ← optionalDateField src.sourceDocumentDate "sourceDocumentDate"
  let merchantName ← normalizeOptionalPurchaseString src.merchantName "merchantName"
  let sourceInvoiceReference ←
    normalizeOptionalPurchaseString src.sourceInvoiceReference "sourceInvoiceReference"
  let items ← orThrow (src.items.filter (decide <| · ≠ [])) NormalizationError.noItems
  let items ← items.zipIdx.mapM fun e => normalizePurchaseItem e.1 e.2
  return {
    importHash, sourceOrderReference, originalGrossMerchandiseTotal
    shippingTotal := shippingTotal.getD 0
    discountTotal := discountTotal.getD 0
    finalTotalPaid, items, sourceOrderDate, sourceDocumentDate, merchantName
    sourceInvoiceReference }

/-! ### What fields say -/

/-- The text that a number is read from. -/
def RawField.chars : RawField → Option (List Char)
  | .text value => some (trim value).toList
  | .number shown => some shown.toList
  | _ => none

/-- A safe number of pennies. -/
def IsAmount (x : Number) : Prop :=
  ∃ pennies : Nat, (pennies : Int) ≤ maxSafeInteger ∧ x = .finite pennies

/-- A safe integer from one on. -/
def IsCount (x : Number) : Prop :=
  ∃ n : Nat, 0 < n ∧ (n : Int) ≤ maxSafeInteger ∧ x = .finite n

/-- A text that is neither blank nor surrounded by white space. -/
def IsTidy (s : String) : Prop := trim s = s ∧ s ≠ ""

/-- A date of the years 100 to 9999 as `YYYY-MM-DD`. -/
def IsPlainDate (s : String) : Prop :=
  ∃ date : Date, 100 ≤ date.year ∧ date.year ≤ 9999 ∧ s = isoText date

namespace RawField

/-- The field writes an amount. -/
def SaysAmount (value : RawField) (x : Number) : Prop :=
  ∃ str, ∃ pennies : Nat, value.chars = some str ∧ WritesMoney str pennies ∧
    (pennies : Int) ≤ maxSafeInteger ∧ x = .finite pennies

/-- The field writes a whole number from one on. -/
def SaysCount (value : RawField) (x : Number) : Prop :=
  ∃ digits, value.chars = some digits ∧ digits ≠ [] ∧ (∀ c ∈ digits, c.isDigit = true) ∧
    0 < Number.decimal digits ∧ (Number.decimal digits : Int) ≤ maxSafeInteger ∧
    x = .finite (Number.decimal digits)

/-- The field is a text that trims to `s`, which is not blank. -/
def SaysText (value : RawField) (s : String) : Prop :=
  ∃ text, value = .text text ∧ s = trim text ∧ s ≠ ""

/-- The field is a text that is read as the date `s`. -/
def SaysDate (value : RawField) (s : String) : Prop :=
  ∃ text, value = .text text ∧ parseDate text = some s

/-- The field is missing and so is the result, or it says what the result is. -/
def SaysOptional {α : Type} (value : RawField) (Says : RawField → α → Prop) (o : Option α) :
    Prop :=
  match o with
  | none => value = .absent
  | some a => Says value a

/-- A blank text counts as missing. -/
def SaysOptionalText (value : RawField) (o : Option String) : Prop :=
  match o with
  | none => value = .absent ∨ ∃ text, value = .text text ∧ trim text = ""
  | some s => value.SaysText s

end RawField

section Fields

variable {value : RawField} {name : String} {x : Number} {str digits : List Char} {text : String}

/-- Numbers are only read from texts and numbers. -/
theorem parseMoney_eq_ok : parseMoney value.moneyValue = .ok x ↔ value.SaysAmount x := by
  have read : ∀ {text str}, value.chars = some str →
      (parseMoneyText text str = .ok x ↔ value.SaysAmount x) := by
    intro text str shown
    rw [parseMoneyText_eq_ok, RawField.SaysAmount, shown]
    simp
  cases value with
  | absent | other _ =>
      refine ⟨fun parsed => (by cases parsed), ?_⟩
      rintro ⟨_, _, ⟨⟩, -⟩
  | text text => exact read rfl
  | number shown => exact read rfl

theorem spells_wholeRe {found : Regex.Position} (matched : firstMatch wholeRe str = some found) :
    str ≠ [] ∧ ∀ c ∈ str, c.isDigit = true := by
  obtain ⟨digits, _, whole, ⟨⟩, rfl⟩ := spells_of_firstMatch matched
  rw [List.append_nil]
  exact whole.plus

/-- The digits are matched to the end. -/
theorem firstMatch_wholeRe (nonempty : digits ≠ []) (all : ∀ c ∈ digits, c.isDigit = true) :
    firstMatch wholeRe digits = some ⟨digits.reverse ++ [], [], []⟩ :=
  firstMatch_of_leads
    (Leads.cons (leads_plus_all nonempty all) (Leads.cons leads_stop leads_concat_nil))

/-- Digits are read exactly or beyond the safe integers. -/
theorem isSafeInteger_ofRat {n : Nat} :
    Number.isSafeInteger (.ofRat n) = true ↔ (n : Int) ≤ maxSafeInteger := by
  rcases lt_or_ge n (2 ^ 53) with small | large
  · rw [Number.ofRat_natCast small.le]
    exact iff_of_true (Number.isSafeInteger_natCast small)
      (Int.ofNat_le.mpr (Nat.le_of_lt_succ small))
  · have beyond : (2 ^ 53 : ℚ) ≤ n := by exact_mod_cast large
    rw [(Number.large_ofRat beyond).not_safe]
    exact iff_of_false Bool.false_ne_true fun safe =>
      absurd (Int.ofNat_le.mp safe) (not_le.mpr large)

theorem parseWholeText_eq_ok : parseWholeText text str = .ok x ↔
    str ≠ [] ∧ (∀ c ∈ str, c.isDigit = true) ∧
      (Number.decimal str : Int) ≤ maxSafeInteger ∧ x = .finite (Number.decimal str) := by
  have computed : str ≠ [] → (∀ c ∈ str, c.isDigit = true) → parseWholeText text str =
      if (Number.decimal str : Int) ≤ maxSafeInteger then .ok (.ofRat (Number.decimal str))
      else .error (.outOfRange text) := by
    intro nonempty all
    simp only [parseWholeText, if_neg nonempty, firstMatch_wholeRe nonempty all, upTo_end,
      Number.parseInt_digits nonempty all, isSafeInteger_ofRat]
  have exact_ : (Number.decimal str : Int) ≤ maxSafeInteger →
      Number.ofRat (Number.decimal str) = .finite (Number.decimal str) := fun safe =>
    Number.ofRat_natCast ((Int.ofNat_le.mp safe).trans (by decide))
  constructor
  · intro parsed
    cases matched : firstMatch wholeRe str with
    | none =>
        rw [parseWholeText, matched] at parsed
        by_cases empty : str = []
        · rw [if_pos empty] at parsed
          cases parsed
        · rw [if_neg empty] at parsed
          cases parsed
    | some found =>
        obtain ⟨nonempty, all⟩ := spells_wholeRe matched
        rw [computed nonempty all] at parsed
        by_cases safe : (Number.decimal str : Int) ≤ maxSafeInteger
        · rw [if_pos safe, exact_ safe] at parsed
          cases parsed
          exact ⟨nonempty, all, safe, rfl⟩
        · rw [if_neg safe] at parsed
          cases parsed
  · rintro ⟨nonempty, all, safe, rfl⟩
    rw [computed nonempty all, if_pos safe, exact_ safe]

theorem parseWhole_eq_ok : parseWhole value.moneyValue = .ok x ↔
    ∃ digits, value.chars = some digits ∧ digits ≠ [] ∧ (∀ c ∈ digits, c.isDigit = true) ∧
      (Number.decimal digits : Int) ≤ maxSafeInteger ∧ x = .finite (Number.decimal digits) := by
  have read : ∀ {text str}, value.chars = some str → (parseWholeText text str = .ok x ↔
      ∃ digits, value.chars = some digits ∧ digits ≠ [] ∧ (∀ c ∈ digits, c.isDigit = true) ∧
        (Number.decimal digits : Int) ≤ maxSafeInteger ∧
        x = .finite (Number.decimal digits)) := by
    intro text str shown
    rw [parseWholeText_eq_ok, shown]
    simp
  cases value with
  | absent | other _ =>
      refine ⟨fun parsed => (by cases parsed), ?_⟩
      rintro ⟨_, ⟨⟩, -⟩
  | text text => exact read rfl
  | number shown => exact read rfl

theorem zero_eq : (0 : Number) = .finite (0 : Nat) := Number.ofRat_natCast (by norm_num)

theorem not_less_zero (n : Nat) : Number.less (.finite n) 0 = false := by
  rw [zero_eq]
  exact decide_eq_false (by rw [Nat.cast_zero, not_lt]; exact n.cast_nonneg)

theorem atMost_zero (n : Nat) : Number.atMost (.finite n) 0 = false ↔ 0 < n := by
  rw [zero_eq]
  exact decide_eq_false_iff_not.trans (by rw [Nat.cast_zero, not_le, Nat.cast_pos])

/-- An amount is never refused as negative. -/
theorem amountOf_eq_ok : amountOf value name = .ok x ↔ value.SaysAmount x := by
  simp only [amountOf, bind_eq_ok, mapError_eq_ok, parseMoney_eq_ok, ensure_eq_ok, pure_eq_ok]
  constructor
  · rintro ⟨_, amount, _, -, rfl⟩
    exact amount
  · intro amount
    obtain ⟨_, pennies, -, -, -, rfl⟩ := id amount
    exact ⟨_, amount, ⟨⟩, not_less_zero pennies, rfl⟩

theorem positive_parsed {parsed : Except NormalizationError Number}
    (read : ∀ y, parsed = .ok y ↔ parseWhole value.moneyValue = .ok y) :
    (do positive (← parsed) name) = .ok x ↔ value.SaysCount x := by
  simp only [bind_eq_ok, read, parseWhole_eq_ok, positive, ensure_eq_ok, pure_eq_ok]
  constructor
  · rintro ⟨_, ⟨digits, shown, nonempty, all, safe, rfl⟩, _, pos, rfl⟩
    exact ⟨digits, shown, nonempty, all, (atMost_zero _).mp pos, safe, rfl⟩
  · rintro ⟨digits, shown, nonempty, all, pos, safe, rfl⟩
    exact ⟨_, ⟨digits, shown, nonempty, all, safe, rfl⟩, ⟨⟩, (atMost_zero _).mpr pos, rfl⟩

theorem requiredNumber_eq_ok : requiredNumber value name = .ok x ↔ value.SaysAmount x := by
  cases value with
  | text _ | number _ => exact amountOf_eq_ok
  | absent | other _ =>
      refine ⟨fun read => (by cases read), ?_⟩
      rintro ⟨_, _, ⟨⟩, -⟩

theorem requiredQuantity_eq_ok : requiredQuantity value name = .ok x ↔ value.SaysCount x := by
  cases value with
  | text _ | number _ => exact positive_parsed fun _ => mapError_eq_ok
  | absent | other _ =>
      refine ⟨fun read => (by cases read), ?_⟩
      rintro ⟨_, ⟨⟩, -⟩

theorem optionalNumber_eq_ok {o : Option Number} : optionalNumber value name = .ok o ↔
    value.SaysOptional RawField.SaysAmount o := by
  have read : ∀ {v : RawField}, v ≠ .absent → ((some <$> amountOf v name : Except _ _) = .ok o ↔
      v.SaysOptional RawField.SaysAmount o) := by
    intro v given_
    refine map_eq_ok.trans ?_
    cases o with
    | none => simp [RawField.SaysOptional, given_]
    | some x => simp [RawField.SaysOptional, amountOf_eq_ok]
  cases value with
  | absent =>
      cases o with
      | none => exact iff_of_true rfl rfl
      | some x =>
          refine ⟨fun read => (by cases read), ?_⟩
          rintro ⟨_, _, ⟨⟩, -⟩
  | text _ | number _ | other _ => exact read fun none_ => by cases none_

theorem optionalPositiveInteger_eq_ok {o : Option Number} :
    optionalPositiveInteger value name = .ok o ↔ value.SaysOptional RawField.SaysCount o := by
  have read : ∀ {v : RawField}, v ≠ .absent →
      ((do return some (← positive (← parsePositiveInteger v.moneyValue) name) :
        Except NormalizationError (Option Number)) = .ok o ↔
        v.SaysOptional RawField.SaysCount o) := by
    intro v given_
    have counted : ∀ y, (do positive (← parsePositiveInteger v.moneyValue) name) = .ok y ↔
        v.SaysCount y := fun y => positive_parsed fun _ => mapError_eq_ok
    simp only [bind_eq_ok] at counted ⊢
    cases o with
    | none =>
        refine ⟨?_, fun absent_ => absurd absent_ given_⟩
        rintro ⟨_, -, _, -, none_⟩
        cases none_
    | some x =>
        refine Iff.trans ?_ (counted x)
        constructor
        · rintro ⟨y, parsed, _, found, same⟩
          cases same
          exact ⟨y, parsed, found⟩
        · rintro ⟨y, parsed, found⟩
          exact ⟨y, parsed, x, found, rfl⟩
  cases value with
  | absent =>
      cases o with
      | none => exact iff_of_true rfl rfl
      | some x =>
          refine ⟨fun read => (by cases read), ?_⟩
          rintro ⟨_, ⟨⟩, -⟩
  | text _ | number _ | other _ => exact read fun none_ => by cases none_

theorem requiredString_eq_ok : requiredString value name = .ok text ↔ value.SaysText text := by
  cases value with
  | text own =>
      by_cases blank : trim own = ""
      · have refused : requiredString (.text own) name = .error (.blank name) := if_pos blank
        rw [refused]
        refine ⟨fun read => (by cases read), ?_⟩
        rintro ⟨_, ⟨⟩, rfl, given_⟩
        exact absurd blank given_
      · have trimmed : requiredString (.text own) name = .ok (trim own) := if_neg blank
        rw [trimmed]
        constructor
        · rintro ⟨⟩
          exact ⟨own, rfl, rfl, blank⟩
        · rintro ⟨_, ⟨⟩, rfl, -⟩
          rfl
  | absent | number _ | other _ =>
      refine ⟨fun read => (by cases read), ?_⟩
      rintro ⟨_, ⟨⟩, -⟩

theorem normalizeOptionalPurchaseString_eq_ok {o : Option String} :
    normalizeOptionalPurchaseString value name = .ok o ↔ value.SaysOptionalText o := by
  cases value with
  | absent =>
      cases o with
      | none => exact iff_of_true rfl (.inl rfl)
      | some s =>
          refine ⟨fun read => (by cases read), ?_⟩
          rintro ⟨_, ⟨⟩, -⟩
  | text own =>
      by_cases blank : trim own = ""
      · have absent_ : normalizeOptionalPurchaseString (.text own) name = .ok none :=
          congrArg _ (if_pos blank)
        rw [absent_]
        cases o with
        | none => exact iff_of_true rfl (.inr ⟨own, rfl, blank⟩)
        | some s =>
            refine ⟨fun read => (by cases read), ?_⟩
            rintro ⟨_, ⟨⟩, rfl, given_⟩
            exact absurd blank given_
      · have trimmed : normalizeOptionalPurchaseString (.text own) name = .ok (some (trim own)) :=
          congrArg _ (if_neg blank)
        rw [trimmed]
        cases o with
        | none =>
            refine ⟨fun read => (by cases read), ?_⟩
            rintro (absent_ | ⟨_, ⟨⟩, empty⟩)
            · cases absent_
            · exact absurd empty blank
        | some s =>
            constructor
            · rintro ⟨⟩
              exact ⟨own, rfl, rfl, blank⟩
            · rintro ⟨_, ⟨⟩, rfl, -⟩
              rfl
  | number _ | other _ =>
      refine ⟨fun read => (by cases read), ?_⟩
      cases o with
      | none =>
          rintro (absent_ | ⟨_, other_, -⟩)
          · cases absent_
          · cases other_
      | some s => rintro ⟨_, ⟨⟩, -⟩

theorem optionalDateField_eq_ok {o : Option String} : optionalDateField value name = .ok o ↔
    value.SaysOptional RawField.SaysDate o := by
  rw [optionalDateField, mapError_eq_ok]
  cases value with
  | absent =>
      cases o with
      | none => exact iff_of_true rfl rfl
      | some s =>
          refine ⟨fun read => (by cases read), ?_⟩
          rintro ⟨_, ⟨⟩, -⟩
  | text own =>
      simp only [RawField.dateValue, optionalDate_text]
      cases parsed : parseDate own with
      | none =>
          refine ⟨fun read => (by cases read), ?_⟩
          cases o with
          | none => rintro ⟨⟩
          | some s =>
              rintro ⟨_, ⟨⟩, found⟩
              rw [parsed] at found
              cases found
      | some result =>
          cases o with
          | none => exact iff_of_false (fun read => by cases read) (fun absent_ => by cases absent_)
          | some s =>
              constructor
              · rintro ⟨⟩
                exact ⟨own, rfl, parsed⟩
              · rintro ⟨_, ⟨⟩, found⟩
                rw [parsed] at found
                cases found
                rfl
  | number _ | other _ =>
      refine ⟨fun read => (by cases read), ?_⟩
      cases o with
      | none => rintro ⟨⟩
      | some s => rintro ⟨_, ⟨⟩, -⟩

end Fields

/-! ### Documents -/

/-- The fields of a line say what it is normalised to. -/
structure RawPurchaseItem.Says (it : RawPurchaseItem) (n : NormalizedSourceItem) : Prop where
  sourceDescription : it.sourceDescription.SaysText n.sourceDescription
  quantity : it.quantity.SaysCount n.quantity
  originalGrossUnitCost : it.originalGrossUnitCost.SaysAmount n.originalGrossUnitCost
  originalGrossLineTotal : it.originalGrossLineTotal.SaysAmount n.originalGrossLineTotal
  sourceLineNumber : it.sourceLineNumber.SaysOptional RawField.SaysCount n.sourceLineNumber
  productListingId : it.productListingId.SaysOptional RawField.SaysCount n.productListingId
  externalProductId : it.externalProductId.SaysOptionalText n.externalProductId
  sourceSetNumber : it.sourceSetNumber.SaysOptionalText n.sourceSetNumber

/-- The field says an amount, or is missing where the amount is zero. -/
def RawField.SaysAmountOrZero (value : RawField) (x : Number) : Prop :=
  ∃ o, value.SaysOptional RawField.SaysAmount o ∧ o.getD 0 = x

structure RawPurchaseDocument.Says (src : RawPurchaseDocument) (doc : NormalizedSource) :
    Prop where
  importHash : src.importHash.SaysText doc.importHash
  sourceOrderReference : src.sourceOrderReference.SaysText doc.sourceOrderReference
  finalTotalPaid : src.finalTotalPaid.SaysAmount doc.finalTotalPaid
  originalGrossMerchandiseTotal :
    src.originalGrossMerchandiseTotal.SaysAmount doc.originalGrossMerchandiseTotal
  shippingTotal : src.shippingTotal.SaysAmountOrZero doc.shippingTotal
  discountTotal : src.discountTotal.SaysAmountOrZero doc.discountTotal
  sourceOrderDate : src.sourceOrderDate.SaysOptional RawField.SaysDate doc.sourceOrderDate
  sourceDocumentDate :
    src.sourceDocumentDate.SaysOptional RawField.SaysDate doc.sourceDocumentDate
  merchantName : src.merchantName.SaysOptionalText doc.merchantName
  sourceInvoiceReference : src.sourceInvoiceReference.SaysOptionalText doc.sourceInvoiceReference
  items : ∃ items, src.items = some items ∧ items ≠ [] ∧
    List.Forall₂ RawPurchaseItem.Says items doc.items

section Documents

variable {it : RawPurchaseItem} {n : NormalizedSourceItem} {idx : Nat}
  {src : RawPurchaseDocument} {doc : NormalizedSource}

theorem normalizePurchaseItem_eq_ok : normalizePurchaseItem it idx = .ok n ↔ it.Says n := by
  simp only [normalizePurchaseItem, bind_eq_ok, pure_eq_ok, requiredString_eq_ok,
    requiredQuantity_eq_ok, requiredNumber_eq_ok, optionalPositiveInteger_eq_ok,
    normalizeOptionalPurchaseString_eq_ok]
  constructor
  · rintro ⟨_, description, _, quantity, _, unitCost, _, lineTotal, _, lineNumber, _, listing, _,
      product, _, set_, rfl⟩
    exact ⟨description, quantity, unitCost, lineTotal, lineNumber, listing, product, set_⟩
  · intro h
    exact ⟨_, h.sourceDescription, _, h.quantity, _, h.originalGrossUnitCost, _,
      h.originalGrossLineTotal, _, h.sourceLineNumber, _, h.productListingId, _,
      h.externalProductId, _, h.sourceSetNumber, rfl⟩

theorem normalizedItems_eq_ok {items : List RawPurchaseItem} {ns : List NormalizedSourceItem} :
    items.zipIdx.mapM (fun e => normalizePurchaseItem e.1 e.2) = .ok ns ↔
      List.Forall₂ RawPurchaseItem.Says items ns := by
  simp only [mapM_eq_ok, normalizePurchaseItem_eq_ok]
  have same := List.forall₂_map_left_iff (R := RawPurchaseItem.Says) (f := Prod.fst)
    (l := items.zipIdx) (u := ns)
  rw [List.zipIdx_map_fst] at same
  exact same.symm

/-- A document is accepted exactly when each field says what it becomes. -/
theorem normalizePurchaseDocument_eq_ok : normalizePurchaseDocument src = .ok doc ↔
    src.Says doc := by
  simp only [normalizePurchaseDocument, bind_eq_ok, pure_eq_ok, requiredString_eq_ok,
    requiredNumber_eq_ok, optionalNumber_eq_ok, optionalDateField_eq_ok,
    normalizeOptionalPurchaseString_eq_ok, orThrow_eq_ok, Option.filter_eq_some_iff,
    decide_eq_true_eq, normalizedItems_eq_ok]
  constructor
  · rintro ⟨_, hash, _, reference, _, paid, _, merchandise, _, shipping, _, discount, _, ordered, _,
      documented, _, merchant, _, invoice, _, ⟨items, some_⟩, _, normalized, rfl⟩
    exact ⟨hash, reference, paid, merchandise, ⟨_, shipping, rfl⟩, ⟨_, discount, rfl⟩, ordered,
      documented, merchant, invoice, _, items, some_, normalized⟩
  · intro h
    obtain ⟨_, shipping, shipping_⟩ := h.shippingTotal
    obtain ⟨_, discount, discount_⟩ := h.discountTotal
    obtain ⟨_, items, some_, normalized⟩ := h.items
    refine ⟨_, h.importHash, _, h.sourceOrderReference, _, h.finalTotalPaid, _,
      h.originalGrossMerchandiseTotal, _, shipping, _, discount, _, h.sourceOrderDate, _,
      h.sourceDocumentDate, _, h.merchantName, _, h.sourceInvoiceReference, _, ⟨items, some_⟩, _,
      normalized, ?_⟩
    rw [shipping_, discount_]

end Documents

/-! ### Normalised documents -/

structure NormalizedSourceItem.WellFormed (n : NormalizedSourceItem) : Prop where
  sourceDescription : IsTidy n.sourceDescription
  quantity : IsCount n.quantity
  originalGrossUnitCost : IsAmount n.originalGrossUnitCost
  originalGrossLineTotal : IsAmount n.originalGrossLineTotal
  sourceLineNumber : ∀ x ∈ n.sourceLineNumber, IsCount x
  productListingId : ∀ x ∈ n.productListingId, IsCount x
  externalProductId : ∀ s ∈ n.externalProductId, IsTidy s
  sourceSetNumber : ∀ s ∈ n.sourceSetNumber, IsTidy s

/-- What a normalised document is known to satisfy. -/
structure NormalizedSource.WellFormed (doc : NormalizedSource) : Prop where
  importHash : IsTidy doc.importHash
  sourceOrderReference : IsTidy doc.sourceOrderReference
  finalTotalPaid : IsAmount doc.finalTotalPaid
  originalGrossMerchandiseTotal : IsAmount doc.originalGrossMerchandiseTotal
  shippingTotal : IsAmount doc.shippingTotal
  discountTotal : IsAmount doc.discountTotal
  sourceOrderDate : ∀ s ∈ doc.sourceOrderDate, IsPlainDate s
  sourceDocumentDate : ∀ s ∈ doc.sourceDocumentDate, IsPlainDate s
  merchantName : ∀ s ∈ doc.merchantName, IsTidy s
  sourceInvoiceReference : ∀ s ∈ doc.sourceInvoiceReference, IsTidy s
  nonempty : doc.items ≠ []
  items : ∀ n ∈ doc.items, n.WellFormed

/-- The integer of a number. -/
def integer : Number → Int
  | .finite x => ⌊x⌋
  | _ => 0

def amountField (x : Number) : RawField := .text (penniesToDecimal (integer x))

def countField (x : Number) : RawField := .number (String.ofList (Number.wholeText x))

def optionField {α : Type} (field : α → RawField) : Option α → RawField
  | none => .absent
  | some a => field a

/-- A line written back: amounts as decimals, counts as numbers. -/
def NormalizedSourceItem.raw (n : NormalizedSourceItem) : RawPurchaseItem where
  sourceLineNumber := optionField countField n.sourceLineNumber
  externalProductId := optionField .text n.externalProductId
  sourceDescription := .text n.sourceDescription
  sourceSetNumber := optionField .text n.sourceSetNumber
  productListingId := optionField countField n.productListingId
  quantity := countField n.quantity
  originalGrossUnitCost := amountField n.originalGrossUnitCost
  originalGrossLineTotal := amountField n.originalGrossLineTotal

def NormalizedSource.raw (doc : NormalizedSource) : RawPurchaseDocument where
  importHash := .text doc.importHash
  sourceOrderReference := .text doc.sourceOrderReference
  sourceOrderDate := optionField .text doc.sourceOrderDate
  merchantName := optionField .text doc.merchantName
  sourceInvoiceReference := optionField .text doc.sourceInvoiceReference
  sourceDocumentDate := optionField .text doc.sourceDocumentDate
  originalGrossMerchandiseTotal := amountField doc.originalGrossMerchandiseTotal
  shippingTotal := amountField doc.shippingTotal
  discountTotal := amountField doc.discountTotal
  finalTotalPaid := amountField doc.finalTotalPaid
  items := some (doc.items.map NormalizedSourceItem.raw)

/-- The line as the cost engine takes it. -/
def NormalizedSourceItem.item (n : NormalizedSourceItem) : NormalizedPurchaseItem where
  sourceLineNumber := n.sourceLineNumber.map integer
  externalProductId := n.externalProductId
  sourceDescription := n.sourceDescription
  sourceSetNumber := n.sourceSetNumber
  productListingId := n.productListingId.map fun x => (integer x).toNat
  quantity := integer n.quantity
  originalGrossUnitCost := integer n.originalGrossUnitCost
  originalGrossLineTotal := integer n.originalGrossLineTotal

/-- The document as the cost engine takes it, its dates as they are stored. -/
def NormalizedSource.document (doc : NormalizedSource) : NormalizedPurchaseDocument where
  importHash := doc.importHash
  sourceOrderReference := doc.sourceOrderReference
  sourceOrderDate := doc.sourceOrderDate.map newDate
  merchantName := doc.merchantName
  sourceInvoiceReference := doc.sourceInvoiceReference
  sourceDocumentDate := doc.sourceDocumentDate.map newDate
  originalGrossMerchandiseTotal := integer doc.originalGrossMerchandiseTotal
  shippingTotal := integer doc.shippingTotal
  discountTotal := integer doc.discountTotal
  finalTotalPaid := integer doc.finalTotalPaid
  items := doc.items.map NormalizedSourceItem.item

section WellFormed

variable {value : RawField} {x : Number} {s text : String} {doc : NormalizedSource}
  {src : RawPurchaseDocument}

theorem RawField.SaysAmount.isAmount (amount : value.SaysAmount x) : IsAmount x := by
  obtain ⟨_, pennies, -, -, safe, rfl⟩ := amount
  exact ⟨pennies, safe, rfl⟩

theorem RawField.SaysCount.isCount (count : value.SaysCount x) : IsCount x := by
  obtain ⟨_, -, -, -, pos, safe, rfl⟩ := count
  exact ⟨_, pos, safe, rfl⟩

theorem RawField.SaysText.isTidy (tidy : value.SaysText s) : IsTidy s := by
  obtain ⟨text, -, rfl, given_⟩ := tidy
  exact ⟨trim_trim text, given_⟩

theorem integer_natCast (n : Nat) : integer (.finite n) = n := Int.floor_natCast n

theorem saysAmount_amountField : (amountField x).SaysAmount x ↔ IsAmount x := by
  refine ⟨RawField.SaysAmount.isAmount, ?_⟩
  rintro ⟨pennies, safe, rfl⟩
  have writes := writesPounds_penniesToDecimal ((Int.ofNat_le.mp safe).trans (by decide))
  refine ⟨_, pennies, rfl, ?_, safe, rfl⟩
  rw [integer_natCast, toList_trim, trimChars_solid writes.solid]
  exact .inl writes

theorem saysCount_countField : (countField x).SaysCount x ↔ IsCount x := by
  refine ⟨RawField.SaysCount.isCount, ?_⟩
  rintro ⟨n, pos, safe, rfl⟩
  have digits := Number.wholeText_natCast (Nat.lt_succ_of_le (Int.ofNat_le.mp safe))
  have shown : (countField (.finite n)).chars = some (Nat.toDigits 10 n) := by
    rw [countField, RawField.chars, String.toList_ofList, digits]
  refine ⟨_, shown, Nat.toDigits_ne_nil, fun c mem =>
    Nat.isDigit_of_mem_toDigits (by decide) (by decide) mem, ?_⟩
  rw [Number.decimal_toDigits]
  exact ⟨pos, safe, rfl⟩

theorem saysText_text : (RawField.text s).SaysText s ↔ IsTidy s := by
  refine ⟨RawField.SaysText.isTidy, ?_⟩
  rintro ⟨trimmed, given_⟩
  exact ⟨s, rfl, trimmed.symm, given_⟩

theorem space_notMem_toIsoString (date : Date) : ' ' ∉ toIsoString date := by
  have digits : ∀ places n, ' ' ∉ Number.padded places n := fun places n own =>
    absurd (Number.isDigit_of_mem_padded own) (by decide)
  intro blank
  rw [toIsoString, intercalate_three] at blank
  split at blank
  · simp [digits] at blank
  · split at blank
    all_goals simp [digits] at blank

theorem parseDate_self : parseDate s = some s ↔ IsPlainDate s := by
  constructor
  · intro parsed
    by_cases shape : List.Forall₂ (fun accepts c => accepts c = true) isoClasses (trim s).toList
    · obtain ⟨date, -, low, high, same⟩ := (parseDate_iso shape).mp parsed
      exact ⟨date, low, high, same⟩
    · obtain ⟨_, _, date, reads, same⟩ := (parseDate_text shape).mp parsed
      have blank := reads.blank
      rw [toList_trim, trimChars] at blank
      have own := (List.dropWhile_suffix _).subset ((List.rdropWhile_prefix _ _).subset blank)
      rw [same, String.toList_ofList] at own
      exact absurd (List.mem_of_mem_take own) (space_notMem_toIsoString date)
  · rintro ⟨date, low, high, rfl⟩
    exact parseDate_isoText low high

theorem saysDate_text : (RawField.text s).SaysDate s ↔ IsPlainDate s := by
  rw [← parseDate_self]
  constructor
  · rintro ⟨_, ⟨⟩, parsed⟩
    exact parsed
  · intro parsed
    exact ⟨s, rfl, parsed⟩

theorem saysOptional_optionField {α : Type} {field : α → RawField} {Says : RawField → α → Prop}
    {P : α → Prop} (each : ∀ a, Says (field a) a ↔ P a) (o : Option α) :
    (optionField field o).SaysOptional Says o ↔ ∀ a ∈ o, P a := by
  cases o with
  | none => exact iff_of_true rfl fun a none_ => by cases none_
  | some a => exact (each a).trans (by simp)

theorem saysOptionalText_optionField (o : Option String) :
    (optionField .text o).SaysOptionalText o ↔ ∀ s ∈ o, IsTidy s := by
  cases o with
  | none => exact iff_of_true (.inl rfl) fun a none_ => by cases none_
  | some s => exact saysText_text.trans (by simp)

theorem says_raw_item (n : NormalizedSourceItem) : n.raw.Says n ↔ n.WellFormed := by
  have counts := saysOptional_optionField fun x => saysCount_countField (x := x)
  constructor
  · intro h
    exact ⟨saysText_text.mp h.sourceDescription, saysCount_countField.mp h.quantity,
      saysAmount_amountField.mp h.originalGrossUnitCost,
      saysAmount_amountField.mp h.originalGrossLineTotal, (counts _).mp h.sourceLineNumber,
      (counts _).mp h.productListingId, (saysOptionalText_optionField _).mp h.externalProductId,
      (saysOptionalText_optionField _).mp h.sourceSetNumber⟩
  · intro h
    exact ⟨saysText_text.mpr h.sourceDescription, saysCount_countField.mpr h.quantity,
      saysAmount_amountField.mpr h.originalGrossUnitCost,
      saysAmount_amountField.mpr h.originalGrossLineTotal, (counts _).mpr h.sourceLineNumber,
      (counts _).mpr h.productListingId, (saysOptionalText_optionField _).mpr h.externalProductId,
      (saysOptionalText_optionField _).mpr h.sourceSetNumber⟩

/-- The well-formed documents are those that survive writing and reading. -/
theorem says_raw (doc : NormalizedSource) : doc.raw.Says doc ↔ doc.WellFormed := by
  have dates := saysOptional_optionField fun s => saysDate_text (s := s)
  have amounts : ∀ {x}, (amountField x).SaysAmountOrZero x ↔ IsAmount x := by
    intro x
    rw [← saysAmount_amountField]
    constructor
    · rintro ⟨_ | y, amount, same⟩
      · cases amount
      · cases same
        exact amount
    · intro amount
      exact ⟨some x, amount, rfl⟩
  constructor
  · intro h
    obtain ⟨_, given_, nonempty, items⟩ := h.items
    cases given_
    rw [List.forall₂_map_left_iff, List.forall₂_same] at items
    exact ⟨saysText_text.mp h.importHash, saysText_text.mp h.sourceOrderReference,
      saysAmount_amountField.mp h.finalTotalPaid,
      saysAmount_amountField.mp h.originalGrossMerchandiseTotal, amounts.mp h.shippingTotal,
      amounts.mp h.discountTotal, (dates _).mp h.sourceOrderDate, (dates _).mp h.sourceDocumentDate,
      (saysOptionalText_optionField _).mp h.merchantName,
      (saysOptionalText_optionField _).mp h.sourceInvoiceReference,
      fun empty => nonempty (List.map_eq_nil_iff.mpr empty),
      fun n mem => (says_raw_item n).mp (items n mem)⟩
  · intro h
    refine ⟨saysText_text.mpr h.importHash, saysText_text.mpr h.sourceOrderReference,
      saysAmount_amountField.mpr h.finalTotalPaid,
      saysAmount_amountField.mpr h.originalGrossMerchandiseTotal, amounts.mpr h.shippingTotal,
      amounts.mpr h.discountTotal, (dates _).mpr h.sourceOrderDate,
      (dates _).mpr h.sourceDocumentDate, (saysOptionalText_optionField _).mpr h.merchantName,
      (saysOptionalText_optionField _).mpr h.sourceInvoiceReference, _, rfl,
      fun empty => h.nonempty (List.map_eq_nil_iff.mp empty), ?_⟩
    rw [List.forall₂_map_left_iff, List.forall₂_same]
    exact fun n mem => (says_raw_item n).mpr (h.items n mem)

theorem RawPurchaseItem.Says.wellFormed {it : RawPurchaseItem} {n : NormalizedSourceItem}
    (h : it.Says n) : n.WellFormed := by
  have counts : ∀ {value : RawField} {o}, value.SaysOptional RawField.SaysCount o →
      ∀ x ∈ o, IsCount x := by
    rintro value _ count x rfl
    exact RawField.SaysCount.isCount count
  have texts : ∀ {value : RawField} {o}, value.SaysOptionalText o → ∀ s ∈ o, IsTidy s := by
    rintro value _ tidy s rfl
    exact RawField.SaysText.isTidy tidy
  exact ⟨h.sourceDescription.isTidy, h.quantity.isCount, h.originalGrossUnitCost.isAmount,
    h.originalGrossLineTotal.isAmount, counts h.sourceLineNumber, counts h.productListingId,
    texts h.externalProductId, texts h.sourceSetNumber⟩

/-- The texts that a date is read from. -/
def RawPurchaseDocument.dateTexts (src : RawPurchaseDocument) : List String :=
  [src.sourceOrderDate, src.sourceDocumentDate].filterMap fun field =>
    match field with
    | .text text => some text
    | _ => none

/-- A date that is not loose comes out plain. -/
theorem isPlainDate_of_parseDate (parsed : parseDate text = some s) (strict : ¬LooseDate text) :
    IsPlainDate s := by
  by_cases shape : List.Forall₂ (fun accepts c => accepts c = true) isoClasses (trim text).toList
  · obtain ⟨date, -, low, high, same⟩ := (parseDate_iso shape).mp parsed
    exact ⟨date, low, high, same⟩
  · obtain ⟨_, _, date, reads, rfl⟩ := (parseDate_text shape).mp parsed
    have digits := not_not.mp fun loose => strict ⟨_, _, date, reads, loose⟩
    obtain ⟨-, low, high⟩ := reads.writes digits.1 digits.2
    exact ⟨date, low, high, take_toIsoString low high⟩

theorem RawPurchaseDocument.Says.wellFormed (h : src.Says doc)
    (strict : ∀ text ∈ src.dateTexts, ¬LooseDate text) : doc.WellFormed := by
  have amounts : ∀ {value : RawField} {x}, value.SaysAmountOrZero x → IsAmount x := by
    rintro value x ⟨_ | y, amount, rfl⟩
    · exact ⟨0, by decide, zero_eq⟩
    · exact RawField.SaysAmount.isAmount amount
  have dates : ∀ {value : RawField} {o}, value.SaysOptional RawField.SaysDate o →
      (∀ text, value = .text text → ¬LooseDate text) → ∀ s ∈ o, IsPlainDate s := by
    rintro value _ date strict s rfl
    obtain ⟨text, own, parsed⟩ := date
    exact isPlainDate_of_parseDate parsed (strict text own)
  have texts : ∀ {value : RawField} {o}, value.SaysOptionalText o → ∀ s ∈ o, IsTidy s := by
    rintro value _ tidy s rfl
    exact RawField.SaysText.isTidy tidy
  obtain ⟨items, -, nonempty, each⟩ := h.items
  refine ⟨h.importHash.isTidy, h.sourceOrderReference.isTidy, h.finalTotalPaid.isAmount,
    h.originalGrossMerchandiseTotal.isAmount, amounts h.shippingTotal, amounts h.discountTotal,
    dates h.sourceOrderDate fun text own => strict text ?_,
    dates h.sourceDocumentDate fun text own => strict text ?_, texts h.merchantName,
    texts h.sourceInvoiceReference, ?_, ?_⟩
  · simp [RawPurchaseDocument.dateTexts, own]
  · simp [RawPurchaseDocument.dateTexts, own]
  · intro empty
    rw [empty] at each
    exact nonempty (List.forall₂_nil_right_iff.mp each)
  · have both : List.Forall₂ (fun n it => n.WellFormed ∧ RawPurchaseItem.Says it n)
        doc.items items := each.flip.imp fun n it own => ⟨own.wellFormed, own⟩
    exact (List.forall₂_and_left _ _).mp both |>.1

/-- No check of a single field fails on a normalised document. -/
theorem NormalizedSource.WellFormed.validate (h : doc.WellFormed) :
    validatePurchaseDocument doc.document = .ok ⟨⟩ ↔
      (lineTotals doc.document.items).sum = doc.document.originalGrossMerchandiseTotal ∧
      0 ≤ doc.document.originalGrossMerchandiseTotal + doc.document.shippingTotal -
        doc.document.discountTotal := by
  have amounts : ∀ {x}, IsAmount x → isSafeAmount (integer x) := by
    rintro _ ⟨pennies, safe, rfl⟩
    rw [integer_natCast]
    exact ⟨Int.natCast_nonneg pennies, safe⟩
  have given_ : ∀ {s}, IsTidy s → trim s ≠ "" := fun tidy => tidy.1.symm ▸ tidy.2
  have items : ∀ e ∈ doc.document.items.zipIdx, validatePurchaseItem e.1 e.2 = .ok ⟨⟩ := by
    intro e mem
    obtain ⟨n, own, same⟩ := List.mem_map.mp (List.fst_mem_of_mem_zipIdx mem)
    have line := h.items n own
    have pos : 0 < integer n.quantity := by
      obtain ⟨count, pos, -, whole⟩ := line.quantity
      rw [whole, integer_natCast]
      exact Int.natCast_pos.mpr pos
    simp only [validatePurchaseItem, bind_eq_ok, ensure_eq_ok, ← same]
    exact ⟨⟨⟩, given_ line.sourceDescription, ⟨⟩, pos, ⟨⟩, amounts line.originalGrossUnitCost,
      amounts line.originalGrossLineTotal⟩
  simp only [validatePurchaseDocument, bind_eq_ok, ensure_eq_ok, forM_eq_ok]
  constructor
  · rintro ⟨-, -, -, -, -, -, -, -, -, -, -, -, -, -, -, -, -, sum, nonneg⟩
    exact ⟨sum, nonneg⟩
  · rintro ⟨sum, nonneg⟩
    exact ⟨⟨⟩, given_ h.importHash, ⟨⟩, given_ h.sourceOrderReference, ⟨⟩,
      fun empty => h.nonempty (List.map_eq_nil_iff.mp empty), ⟨⟩, items, ⟨⟩,
      amounts h.originalGrossMerchandiseTotal, ⟨⟩, amounts h.shippingTotal, ⟨⟩,
      amounts h.discountTotal, ⟨⟩, amounts h.finalTotalPaid, ⟨⟩, sum, nonneg⟩

/-- Without a loose date, every accepted document is well formed. The well-formed ones
are those that are written back and read again unchanged, and the cost engine only
looks at their sums. -/
theorem purchase_normalization :
    (∀ src doc, normalizePurchaseDocument src = .ok doc →
      (∀ text ∈ src.dateTexts, ¬LooseDate text) → doc.WellFormed) ∧
    (∀ doc : NormalizedSource, normalizePurchaseDocument doc.raw = .ok doc ↔ doc.WellFormed) ∧
    ∀ doc : NormalizedSource, doc.WellFormed →
      (validatePurchaseDocument doc.document = .ok ⟨⟩ ↔
        (lineTotals doc.document.items).sum = doc.document.originalGrossMerchandiseTotal ∧
        0 ≤ doc.document.originalGrossMerchandiseTotal + doc.document.shippingTotal -
          doc.document.discountTotal) :=
  ⟨fun _ _ read => (normalizePurchaseDocument_eq_ok.mp read).wellFormed,
    fun doc => normalizePurchaseDocument_eq_ok.trans (says_raw doc), fun _ h => h.validate⟩

/-- A source with pound signs, white space and a missing discount. -/
def sampleSource : RawPurchaseDocument where
  importHash := .text " 3f9a "
  sourceOrderReference := .text "202-5520114-1180337"
  sourceOrderDate := .text "17 Aug 2026"
  merchantName := .text " "
  sourceInvoiceReference := .absent
  sourceDocumentDate := .absent
  originalGrossMerchandiseTotal := .text " £37.0 "
  shippingTotal := .number "4.99"
  discountTotal := .absent
  finalTotalPaid := .text "41.99"
  items := some [{
    sourceLineNumber := .absent
    externalProductId := .text "B0CV7SZ8TQ"
    sourceDescription := .text "Set of bricks "
    sourceSetNumber := .absent
    productListingId := .number "12"
    quantity := .text "2"
    originalGrossUnitCost := .text "£18.50"
    originalGrossLineTotal := .number "37" }]

def sampleNormalized : NormalizedSource where
  importHash := "3f9a"
  sourceOrderReference := "202-5520114-1180337"
  originalGrossMerchandiseTotal := .finite 3700
  shippingTotal := .finite 499
  discountTotal := .finite 0
  finalTotalPaid := .finite 4199
  items := [{
    sourceDescription := "Set of bricks"
    quantity := .finite 2
    originalGrossUnitCost := .finite 1850
    originalGrossLineTotal := .finite 3700
    sourceLineNumber := none
    productListingId := some (.finite 12)
    externalProductId := some "B0CV7SZ8TQ"
    sourceSetNumber := none }]
  sourceOrderDate := some "2026-08-17"
  sourceDocumentDate := none
  merchantName := none
  sourceInvoiceReference := none

theorem purchase_normalization_sample :
    normalizePurchaseDocument sampleSource = .ok sampleNormalized ∧
      sampleNormalized.WellFormed ∧
      normalizePurchaseDocument sampleNormalized.raw = .ok sampleNormalized ∧
      validatePurchaseDocument sampleNormalized.document = .ok ⟨⟩ := by
  have read : normalizePurchaseDocument sampleSource = .ok sampleNormalized := by decide +kernel
  have strict : ∀ text ∈ sampleSource.dateTexts, ¬LooseDate text := by
    rintro text mem ⟨dayStr, yearStr, date, reads, loose⟩
    obtain rfl : text = "17 Aug 2026" := List.mem_singleton.mp mem
    have parts := reads.parts
    have split : (trim "17 Aug 2026").toList.splitOn ' ' =
        ["17".toList, "Aug".toList, "2026".toList] := by decide +kernel
    rw [split] at parts
    obtain ⟨rfl, -, rfl⟩ : "17".toList = dayStr ∧ "Aug".toList = monthName date.month ∧
      "2026".toList = yearStr := by simpa using parts
    exact loose ⟨.inr ⟨rfl, List.all_eq_true.mp rfl⟩, rfl, List.all_eq_true.mp rfl⟩
  obtain ⟨wellFormed, roundTrip, validated⟩ := purchase_normalization
  have own := wellFormed _ _ read strict
  exact ⟨read, own, (roundTrip _).mpr own, (validated _ own).mpr (by decide +kernel)⟩

end WellFormed

end ColorfulLife.PurchaseNormalizer
