/-
Importing an invoice from its PDF (`domain/purchases/pdfTextExtractor.ts`,
`importAmazonPurchaseInvoice` in `purchaseImportService.ts`).

The bytes are extracted, parsed, normalised, calculated and persisted. On a printed
invoice the whole chain of texts is the import of the printed pence
(`importAmazonPurchaseInvoice_iff`), so what is stored is what is printed.
-/

import ColorfulLife.Purchases.Import
import ColorfulLife.Purchases.InvoiceRoundTrip
import ColorfulLife.Purchases.Normalizer
import Mathlib.Algebra.BigOperators.Ring.Finset

namespace ColorfulLife

open Binary64 PurchaseNormalizer Regex Relational

/-! ### Extraction -/

/-- `PdfTextExtractionError`: no data, a text that is not one string for each page, or
what the library threw. -/
inductive PdfTextExtractionError where
  | empty
  | unexpectedFormat
  | failed (cause : String)
  deriving DecidableEq, Repr

/-- What the PDF library makes of the bytes: the number of pages and, when it is an
array, the texts of the pages. -/
abbrev Unpdf := List UInt8 → Except String (Nat × Option (List String))

def extractPdfText (unpdf : Unpdf) (pdfBytes : List UInt8) :
    Except PdfTextExtractionError ExtractedPdfText := do
  ensure (pdfBytes ≠ []) PdfTextExtractionError.empty
  let (totalPages, text) ← (unpdf pdfBytes).mapError PdfTextExtractionError.failed
  let text ← orThrow (text.filter fun text => decide (text.length = totalPages))
    PdfTextExtractionError.unexpectedFormat
  let pages := text.mapIdx fun idx txt => (⟨idx + 1, txt⟩ : PageText)
  return {
    pageCount := totalPages
    pages
    fullText := some ("\n".intercalate (pages.map PageText.text)) }

/-! ### The source contract -/

/-- An item of the parser, as the normaliser sees it. -/
def SourcePurchaseItem.raw (it : SourcePurchaseItem) : RawPurchaseItem where
  sourceLineNumber := countField (.finite it.sourceLineNumber)
  externalProductId := .text it.externalProductId
  sourceDescription := .text it.sourceDescription
  sourceSetNumber := optionField .text it.sourceSetNumber
  productListingId := .absent
  quantity := countField it.quantity
  originalGrossUnitCost := .text it.originalGrossUnitCost
  originalGrossLineTotal := .text it.originalGrossLineTotal

def SourcePurchaseDocument.raw (source : SourcePurchaseDocument) : RawPurchaseDocument where
  importHash := .text source.importHash
  sourceOrderReference := .text source.sourceOrderReference
  sourceOrderDate := optionField .text source.sourceOrderDate
  merchantName := optionField .text source.merchantName
  sourceInvoiceReference := optionField .text source.sourceInvoiceReference
  sourceDocumentDate := optionField .text source.sourceDocumentDate
  originalGrossMerchandiseTotal := .text source.originalGrossMerchandiseTotal
  shippingTotal := optionField .text source.shippingTotal
  discountTotal := optionField .text source.discountTotal
  finalTotalPaid := .text source.finalTotalPaid
  items := some (source.items.map SourcePurchaseItem.raw)

/-! ### The import -/

inductive ImportError where
  | extraction (e : PdfTextExtractionError)
  | parse (e : InvoiceParseError)
  | normalization (e : NormalizationError)
  | domain (e : DomainError)
  deriving DecidableEq

def importAmazonPurchaseInvoice (unpdf : Unpdf) (pdfBytes : List UInt8) (importHash : String)
    (userId : Nat) (db : Db) : Except ImportError Db := do
  let extractedPdf ← (extractPdfText unpdf pdfBytes).mapError ImportError.extraction
  let source ← (parseAmazonPurchaseInvoice extractedPdf importHash).mapError ImportError.parse
  let normalised ← (normalizePurchaseDocument source.raw).mapError ImportError.normalization
  (importPurchaseInvoice userId normalised.document db).mapError ImportError.domain

/-! ### What is printed -/

/-- What `new Date` makes of a printed date, if that is one. -/
def DateText.stored (d : DateText) : Option JsDate :=
  (parseDate (String.ofList (abbreviateMonth d.text))).map newDate

/-- The printed item with index `i`, in pence. -/
def ItemBlock.purchaseItem (i : Nat) (b : ItemBlock) : NormalizedPurchaseItem where
  sourceLineNumber := some (i + 1 : Nat)
  externalProductId := some (String.ofList b.asin.text)
  sourceDescription := String.ofList ([' '].intercalate b.description)
  sourceSetNumber := trimmedOrNone
    ((extractLegoSetNumber ([' '].intercalate b.description) none).map String.ofList)
  productListingId := none
  quantity := b.row.quantity.value
  originalGrossUnitCost := b.row.unitPrice.pence
  originalGrossLineTotal := b.row.lineTotal.pence

namespace Invoice

def shippingPence (inv : Invoice) : Nat := inv.shippingCharges.elim 0 fun row => row.1.gross.pence

def promotionPence (inv : Invoice) : Nat := inv.promotions.elim 0 fun row => row.gross.pence

/-- The printed invoice, in pence. -/
def purchase (inv : Invoice) (importHash : String) : NormalizedPurchaseDocument where
  importHash := trim importHash
  sourceOrderReference := String.ofList inv.orderReference.text
  sourceOrderDate := inv.orderDate.bind DateText.stored
  merchantName := inv.merchant.map fun name => String.ofList name.text
  sourceInvoiceReference := inv.invoiceReference.map fun reference => String.ofList reference.text
  sourceDocumentDate := inv.invoiceDate.bind DateText.stored
  originalGrossMerchandiseTotal := inv.totalPence
  shippingTotal := inv.shippingPence
  discountTotal := inv.promotionPence
  finalTotalPaid := inv.invoiceTotal.pence
  items := inv.items.mapIdx ItemBlock.purchaseItem

/-- Every printed date is one. -/
def Dated (inv : Invoice) : Prop :=
  ∀ date ∈ inv.orderDate.toList ++ inv.invoiceDate.toList,
    (parseDate (String.ofList (abbreviateMonth date.text))).isSome

instance (inv : Invoice) : Decidable inv.Dated := by unfold Dated; infer_instance

end Invoice

/-! ### Amounts -/

section Amounts

variable {str : List Char} {p q : Nat} {x : Number}

/-- What an amount is can be seen from its text. -/
theorem writesPounds_eq (writes : WritesPounds str p) :
    p = Number.decimal (str.takeWhile Char.isDigit) * 100 +
      10 ^ (2 - (str.dropWhile Char.isDigit).tail.length) *
        Number.decimal (str.dropWhile Char.isDigit).tail := by
  cases writes with
  | whole nonempty all =>
      obtain ⟨digits, rest⟩ := Number.takeWhile_digits [] all (by rintro c ⟨⟩)
      rw [List.append_nil] at digits rest
      rw [digits, rest]
      exact (Nat.add_zero _).symm
  | @point digits decimals nonempty all few =>
      have ends : ∀ c ∈ ('.' :: decimals).head?, c.isDigit = false := by
        rintro c ⟨⟩
        rfl
      obtain ⟨front, rest⟩ := Number.takeWhile_digits _ all ends
      rw [front, rest, List.tail_cons]

theorem not_writesPounds_pound : ¬WritesPounds ('£' :: str) p := fun writes => by
  have digit := writes.head_digit
  cases digit

theorem Amount.writesPounds (a : Amount) : WritesPounds a.text a.pence := by
  have value : a.pence = Number.decimal a.pounds.text * 100 +
      10 ^ (2 - a.decimals.length) * Number.decimal a.decimals := by
    rw [Amount.pence, Digits.value, Nat.mul_comm 100, Nat.mul_comm (Number.decimal a.decimals)]
  rw [Amount.text]
  by_cases whole : a.decimals = []
  · have zero : Number.decimal ([] : List Char) = 0 := rfl
    rw [whole, zero, Nat.mul_zero, Nat.add_zero] at value
    rw [if_pos whole, List.append_nil, value]
    exact .whole a.pounds.nonempty a.pounds.isDigit
  · have all := List.all_eq_true.mp a.digits
    have length : a.decimals.length = 1 ∨ a.decimals.length = 2 := by
      have pos := List.length_pos_iff.mpr whole
      have few := a.atMostTwo
      omega
    rw [if_neg whole, value]
    exact .point a.pounds.nonempty a.pounds.isDigit
      (length.imp (fun one => ⟨one, all⟩) fun two => ⟨two, all⟩)

/-- A text that starts with a digit says the amount that it writes. -/
theorem saysAmount_text (writes : WritesPounds str p) :
    (RawField.text (String.ofList str)).SaysAmount x ↔
      (p : Int) ≤ maxSafeInteger ∧ x = .finite p := by
  have chars : (RawField.text (String.ofList str)).chars = some str := by
    rw [RawField.chars, toList_trim, String.toList_ofList, trimChars_solid writes.solid]
  constructor
  · rintro ⟨_, q, shown, said, safe, rfl⟩
    obtain rfl := Option.some.inj (chars.symm.trans shown)
    rcases said with own | ⟨pounds, rfl, -⟩
    · rw [writesPounds_eq writes, ← writesPounds_eq own]
      exact ⟨safe, rfl⟩
    · exact absurd writes not_writesPounds_pound
  · rintro ⟨safe, rfl⟩
    exact ⟨str, p, chars, .inl writes, safe, rfl⟩

theorem Amount.says (a : Amount) : (RawField.text (String.ofList a.text)).SaysAmount x ↔
    (a.pence : Int) ≤ maxSafeInteger ∧ x = .finite a.pence :=
  saysAmount_text a.writesPounds

/-- `toFixed(2)` writes pence as pounds. -/
theorem writesPounds_fixedText (n : Nat) : WritesPounds (Number.fixedText 2 n) n := by
  have all : ∀ c ∈ Number.padStart 3 (Nat.toDigits 10 n), c.isDigit = true :=
    Number.isDigit_padStart 3 fun c mem =>
      Nat.isDigit_of_mem_toDigits (by decide) (by decide) mem
  have long : 3 ≤ (Number.padStart 3 (Nat.toDigits 10 n)).length := by
    rw [Number.padStart, List.length_append, List.length_replicate]
    omega
  have value : Number.decimal (Number.padStart 3 (Nat.toDigits 10 n)) = n := by
    rw [Number.decimal_padStart, Number.decimal_toDigits]
  have fixed : Number.fixedText 2 n =
      (Number.padStart 3 (Nat.toDigits 10 n)).take
          ((Number.padStart 3 (Nat.toDigits 10 n)).length - 2) ++
        '.' :: (Number.padStart 3 (Nat.toDigits 10 n)).drop
          ((Number.padStart 3 (Nat.toDigits 10 n)).length - 2) := rfl
  rw [fixed]
  generalize Number.padStart 3 (Nat.toDigits 10 n) = digits at all long value
  have two : (digits.drop (digits.length - 2)).length = 2 := by
    rw [List.length_drop]
    omega
  have nonempty : digits.take (digits.length - 2) ≠ [] := by
    rw [Ne, List.take_eq_nil_iff]
    rintro (none_ | rfl)
    · omega
    · simp at long
  have written := WritesPounds.point nonempty
    (fun c mem => all c (List.mem_of_mem_take mem))
    (.inr ⟨two, fun c mem => all c (List.mem_of_mem_drop mem)⟩)
  have sum : Number.decimal digits = Number.decimal (digits.take (digits.length - 2)) * 100 +
      10 ^ (2 - (digits.drop (digits.length - 2)).length) *
        Number.decimal (digits.drop (digits.length - 2)) := by
    have split := Nat.ofDigitChars_append (b := 10) (l := digits.take (digits.length - 2))
      (m := digits.drop (digits.length - 2)) 0
    have low := @Nat.ofDigitChars_eq_ofDigitChars_zero (digits.drop (digits.length - 2))
      (Nat.ofDigitChars 10 (digits.take (digits.length - 2)) 0)
    rw [two] at low
    rw [List.take_append_drop, low] at split
    rw [two, Nat.sub_self, pow_zero, Nat.one_mul, Nat.mul_comm _ 100]
    exact split
  rwa [← sum, value] at written

end Amounts

/-! ### Pages -/

section Printed

variable {inv : Invoice} {sheets : List Sheet} {extractedPdf : ExtractedPdfText}

/-- Every line of a description is trimmed, as the pages show it. -/
theorem trimmed_description (laid : inv.LaidOut sheets)
    (printed : List.Forall₂ PrintedOn (sheets.map Sheet.lines) extractedPdf.pages) :
    ∀ b ∈ inv.items, ∀ line ∈ b.description, trimChars line = line ∧ line ≠ [] := by
  rw [List.forall₂_map_left_iff] at printed
  have shown : ∀ s ∈ sheets, ∀ line ∈ s.lines, trimChars line = line ∧ line ≠ [] :=
    ((List.forall₂_and_left _ _).mp (printed.imp fun _ _ on => ⟨on.trimmed, on⟩)).1
  intro b hb line described
  have listed : line ∈ sheets.flatMap Sheet.tableRows := by
    rw [laid.rows]
    exact List.mem_flatMap.mpr ⟨b, hb, List.mem_append_left _ described⟩
  obtain ⟨s, hs, row⟩ := List.mem_flatMap.mp listed
  exact shown s hs line (s.mem_lines_of_tableRows row)

/-- A printed invoice is read, whatever its total comes to. -/
theorem parse_of_printed (importHash : String) (laid : inv.LaidOut sheets)
    (printed : List.Forall₂ PrintedOn (sheets.map Sheet.lines) extractedPdf.pages)
    (quantities : ∀ b ∈ inv.items, b.row.quantity.value ≤ 2 ^ 53) :
    parseAmazonPurchaseInvoice extractedPdf importHash =
      .ok { inv.document importHash with
        originalGrossMerchandiseTotal := merchandiseTotal inv.sourceItems } := by
  have trimmed := trimmed_description laid printed
  have isRow : ∀ line ∈ sheets.flatMap Sheet.tableRows, IsRow line := by
    rw [laid.rows]
    intro line listed
    obtain ⟨b, -, own⟩ := List.mem_flatMap.mp listed
    exact b.isRow_lines line own
  have read : (sheets.flatMap Sheet.tableRows).foldlM readRow ⟨[], none⟩ =
      .ok ⟨[] ++ inv.items.mapIdx fun i b => b.item (0 + i + 1), none⟩ := by
    rw [laid.rows]
    exact foldlM_readRow_blocks [] quantities trimmed
  simp only [List.nil_append, zero_add] at read
  have fields : (sheets.flatMap Sheet.markers).foldl Collected.mark (fun _ => none) = inv.said :=
    funext fun f => collected_said laid.markers rfl
  rw [List.forall₂_map_left_iff] at printed
  have processed := foldlM_processPage ⟨fun _ => none, ⟨[], none⟩⟩ printed isRow laid.summary
    laid.last read rfl
  rw [InvoiceState.mark, fields] at processed
  have items : inv.items.mapIdx (fun i b => b.item (i + 1)) ≠ [] := fun empty =>
    inv.nonempty (List.mapIdx_eq_nil_iff.mp empty)
  rw [parseAmazonPurchaseInvoice, processed]
  simp only [bind, Except.bind, Option.isSome_none, Bool.false_eq_true, if_false, Invoice.said,
    givenChars_some inv.orderReference.nonempty, givenChars_some inv.invoiceTotal.text_ne_nil,
    if_neg items, Invoice.document, Option.map_map]
  rfl

end Printed

/-! ### Texts of the parser -/

section Texts

variable {s t : String} {o o' : Option String} {x : Number} {q : Nat}

theorem isTidy_ofList {text : List Char} (trimmed : trimChars text = text) (nonempty : text ≠ []) :
    IsTidy (String.ofList text) := by
  refine ⟨String.toList_injective ?_, fun empty => nonempty ?_⟩
  · rw [toList_trim, String.toList_ofList, trimmed]
  · rw [← String.toList_ofList (l := text), empty]
    rfl

theorem FieldText.isTidy (t : FieldText) : IsTidy (String.ofList t.text) :=
  isTidy_ofList t.trimmed t.nonempty

theorem Token.isTidy (t : Token) : IsTidy (String.ofList t.text) :=
  isTidy_ofList (trimChars_solid t.isSpace) t.nonempty

theorem saysText_tidy (tidy : IsTidy s) : (RawField.text s).SaysText t ↔ t = s := by
  constructor
  · rintro ⟨_, ⟨⟩, same, -⟩
    rwa [tidy.1] at same
  · rintro rfl
    exact ⟨t, rfl, tidy.1.symm, tidy.2⟩

theorem saysOptionalText_optional :
    (optionField .text o).SaysOptionalText o' ↔ o' = trimmedOrNone o := by
  have read : normalizeOptionalPurchaseString (optionField .text o) "" = .ok o' ↔ _ :=
    normalizeOptionalPurchaseString_eq_ok
  rw [← read]
  cases o with
  | none => exact ⟨fun read => (Except.ok.inj read).symm, fun same => congrArg _ same.symm⟩
  | some s => exact ⟨fun read => (Except.ok.inj read).symm, fun same => congrArg _ same.symm⟩

theorem trimmedOrNone_tidy (tidy : IsTidy s) : trimmedOrNone (some s) = some s := by
  have given_ : ¬trim s = "" := by
    rw [tidy.1]
    exact tidy.2
  have trimmed : trimmedOrNone (some s) = some (trim s) := if_neg given_
  rw [trimmed, tidy.1]

/-- A field that is there says something. -/
theorem saysOptional_present {α : Type} {value : RawField} {Says : RawField → α → Prop}
    {o : Option α} (present : value ≠ .absent) :
    value.SaysOptional Says o ↔ ∃ a, o = some a ∧ Says value a := by
  cases o with
  | none => exact iff_of_false present fun ⟨_, none_, _⟩ => by cases none_
  | some a =>
      constructor
      · intro said
        exact ⟨a, rfl, said⟩
      · rintro ⟨_, ⟨⟩, said⟩
        exact said

theorem saysCount_absent {o : Option Number} :
    RawField.absent.SaysOptional RawField.SaysCount o ↔ o = none := by
  cases o with
  | none => exact iff_of_true rfl rfl
  | some x =>
      refine iff_of_false ?_ (Option.some_ne_none x)
      rintro ⟨_, ⟨⟩, -⟩

theorem saysCount_safe (pos : 0 < q) (small : q < 2 ^ 53) :
    (countField (.finite q)).SaysCount x ↔ x = .finite q := by
  have said : (countField (.finite q)).SaysCount (.finite q) :=
    saysCount_countField.mpr ⟨q, pos, Int.ofNat_le.mpr (Nat.le_of_lt_succ small), rfl⟩
  constructor
  · rintro ⟨digits, chars, -, -, -, -, rfl⟩
    obtain ⟨digits', chars', -, -, -, -, same⟩ := said
    obtain rfl := Option.some.inj (chars.symm.trans chars')
    exact same.symm
  · rintro rfl
    exact said

end Texts

/-! ### Lines -/

section Lines

variable {b : ItemBlock} {n : NormalizedSourceItem} {i : Nat}

/-- The printed line, as it is normalised. -/
def ItemBlock.normalized (i : Nat) (b : ItemBlock) : NormalizedSourceItem where
  sourceDescription := String.ofList ([' '].intercalate b.description)
  quantity := .finite b.row.quantity.value
  originalGrossUnitCost := .finite b.row.unitPrice.pence
  originalGrossLineTotal := .finite b.row.lineTotal.pence
  sourceLineNumber := some (.finite (i + 1 : Nat))
  productListingId := none
  externalProductId := some (String.ofList b.asin.text)
  sourceSetNumber := trimmedOrNone
    ((extractLegoSetNumber ([' '].intercalate b.description) none).map String.ofList)

theorem ItemBlock.item_normalized : (b.normalized i).item = b.purchaseItem i := by
  simp only [normalized, NormalizedSourceItem.item, purchaseItem, integer_natCast, Option.map_none,
    Option.map_some]

theorem says_item (trimmed : ∀ line ∈ b.description, trimChars line = line ∧ line ≠ [])
    (quantity : b.row.quantity.value < 2 ^ 53) (few : i + 1 < 2 ^ 53) :
    (b.item (i + 1)).raw.Says n ↔ ((b.row.unitPrice.pence : Int) ≤ maxSafeInteger ∧
      (b.row.lineTotal.pence : Int) ≤ maxSafeInteger) ∧ n = b.normalized i := by
  have description : IsTidy (String.ofList ([' '].intercalate b.description)) := by
    refine isTidy_ofList (trimChars_intercalate trimmed) ?_
    obtain ⟨line, lines, described⟩ := List.exists_cons_of_ne_nil b.described
    rw [described] at trimmed ⊢
    cases lines with
    | nil =>
        rw [List.intercalate_singleton]
        exact (trimmed line List.mem_cons_self).2
    | cons next lines => simp [List.intercalate_cons_cons]
  constructor
  · intro h
    obtain ⟨unitSafe, unitCost⟩ := b.row.unitPrice.says.mp h.originalGrossUnitCost
    obtain ⟨lineSafe, lineTotal⟩ := b.row.lineTotal.says.mp h.originalGrossLineTotal
    have described := (saysText_tidy description).mp h.sourceDescription
    have counted := (saysCount_safe b.row.positive quantity).mp h.quantity
    obtain ⟨_, number, numbered⟩ :=
      (saysOptional_present fun none_ => by cases none_).mp h.sourceLineNumber
    have sameNumber := (saysCount_safe (Nat.succ_pos i) few).mp numbered
    have unlisted := saysCount_absent.mp h.productListingId
    have product := (saysOptionalText_optional (o := some _).mp h.externalProductId).trans
      (trimmedOrNone_tidy b.asin.isTidy)
    have setNumber := saysOptionalText_optional.mp h.sourceSetNumber
    refine ⟨⟨unitSafe, lineSafe⟩, ?_⟩
    rw [sameNumber] at number
    cases n
    simp only at described counted unitCost lineTotal number unlisted product setNumber
    subst described counted unitCost lineTotal number unlisted product setNumber
    rfl
  · rintro ⟨⟨unitSafe, lineSafe⟩, rfl⟩
    exact {
      sourceDescription := (saysText_tidy description).mpr rfl
      quantity := (saysCount_safe b.row.positive quantity).mpr rfl
      originalGrossUnitCost := b.row.unitPrice.says.mpr ⟨unitSafe, rfl⟩
      originalGrossLineTotal := b.row.lineTotal.says.mpr ⟨lineSafe, rfl⟩
      sourceLineNumber := (saysCount_safe (Nat.succ_pos i) few).mpr rfl
      productListingId := rfl
      externalProductId := (saysText_tidy b.asin.isTidy).mpr rfl
      sourceSetNumber := saysOptionalText_optional.mpr rfl }

/-- The amounts of a line are safe integers. -/
def ItemBlock.Safe (b : ItemBlock) : Prop :=
  (b.row.unitPrice.pence : Int) ≤ maxSafeInteger ∧ (b.row.lineTotal.pence : Int) ≤ maxSafeInteger

theorem says_items {blocks : List ItemBlock} {ns : List NormalizedSourceItem}
    (trimmed : ∀ b ∈ blocks, ∀ line ∈ b.description, trimChars line = line ∧ line ≠ [])
    (quantities : ∀ b ∈ blocks, b.row.quantity.value < 2 ^ 53) (few : blocks.length < 2 ^ 53) :
    List.Forall₂ RawPurchaseItem.Says
        ((blocks.mapIdx fun i b => b.item (i + 1)).map SourcePurchaseItem.raw) ns ↔
      (∀ b ∈ blocks, b.Safe) ∧ ns = blocks.mapIdx ItemBlock.normalized := by
  have each : ∀ (i : Nat) (h : i < blocks.length) n, (blocks[i].item (i + 1)).raw.Says n ↔
      blocks[i].Safe ∧ n = blocks[i].normalized i := fun i h n =>
    says_item (trimmed _ (List.getElem_mem h)) (quantities _ (List.getElem_mem h)) (by omega)
  rw [List.forall₂_iff_get]
  simp only [List.length_map, List.length_mapIdx, List.get_eq_getElem, List.getElem_map,
    List.getElem_mapIdx]
  constructor
  · rintro ⟨length, said⟩
    refine ⟨fun b hb => ?_, ?_⟩
    · obtain ⟨i, hi, rfl⟩ := List.getElem_of_mem hb
      exact ((each i hi _).mp (said i hi (by omega))).1
    · refine List.ext_getElem (by rw [List.length_mapIdx, length]) fun i own h => ?_
      rw [List.length_mapIdx] at h
      rw [List.getElem_mapIdx]
      exact ((each i h _).mp (said i h own)).2
  · rintro ⟨safe, rfl⟩
    refine ⟨List.length_mapIdx.symm, fun i h own => ?_⟩
    rw [List.getElem_mapIdx]
    exact (each i h _).mpr ⟨safe _ (List.getElem_mem h), rfl⟩

theorem normalized_items {blocks : List ItemBlock} :
    (blocks.mapIdx ItemBlock.normalized).map NormalizedSourceItem.item =
      blocks.mapIdx ItemBlock.purchaseItem := by
  refine List.ext_getElem (by simp) fun i h h' => ?_
  simp only [List.getElem_map, List.getElem_mapIdx, ItemBlock.item_normalized]

end Lines

/-! ### Documents -/

section Documents

variable {inv : Invoice} {sheets : List Sheet} {extractedPdf : ExtractedPdfText}
  {importHash : String} {userId : Nat} {db db' : Db}
  {normalised : NormalizedPurchaseDocument}

/-- What is imported has passed the checks on its fields and fits its columns. -/
theorem importPurchaseInvoice_bounds (h : importPurchaseInvoice userId normalised db = .ok db') :
    validatePurchaseDocument normalised = .ok ⟨⟩ ∧
      normalised.originalGrossMerchandiseTotal < 1000000000000 := by
  simp only [importPurchaseInvoice, bind_eq_ok] at h
  obtain ⟨calculated, costs, stored⟩ := h
  obtain ⟨header, -⟩ := calculatePurchaseCosts_ok costs
  simp only [persistCalculatedPurchaseDocument, bind_eq_ok, ensure_eq_ok] at stored
  obtain ⟨-, -, -, -, -, fits, -⟩ := stored
  have own : normalised.originalGrossMerchandiseTotal =
      calculated.originalGrossMerchandiseTotal :=
    congrArg PurchaseHeader.originalGrossMerchandiseTotal header.symm
  simp only [calculatePurchaseCosts, bind_eq_ok] at costs
  obtain ⟨_, valid, -⟩ := costs
  rw [own]
  exact ⟨valid, fits.1.2⟩

/-- The amount of a row that may be missing. -/
theorem saysAmountOrZero_optional {o : Option Amount} {x : Number} :
    (optionField .text (o.map fun a => String.ofList a.text)).SaysAmountOrZero x ↔
      (((o.elim 0 Amount.pence : Nat) : Int) ≤ maxSafeInteger ∧
        x = .finite (o.elim 0 Amount.pence : Nat)) := by
  cases o with
  | none =>
      constructor
      · rintro ⟨_ | y, said, rfl⟩
        · exact ⟨by decide, zero_eq⟩
        · obtain ⟨_, _, none_, -⟩ := said
          cases none_
      · rintro ⟨-, rfl⟩
        exact ⟨none, rfl, zero_eq⟩
  | some a =>
      constructor
      · rintro ⟨_ | y, said, rfl⟩
        · cases said
        · exact a.says.mp said
      · intro said
        exact ⟨some x, a.says.mpr said, rfl⟩

/-- A date that may be missing. -/
theorem saysDate_optional {date : Option DateText} {o : Option String} :
    (optionField .text (date.map fun d => String.ofList (abbreviateMonth d.text))).SaysOptional
        RawField.SaysDate o ↔
      (∀ d ∈ date, (parseDate (String.ofList (abbreviateMonth d.text))).isSome) ∧
        o = date.bind fun d => parseDate (String.ofList (abbreviateMonth d.text)) := by
  cases date with
  | none =>
      cases o with
      | none => exact iff_of_true rfl ⟨fun _ none_ => (by cases none_), rfl⟩
      | some s =>
          refine iff_of_false ?_ fun said => by cases said.2
          rintro ⟨_, none_, -⟩
          cases none_
  | some d =>
      refine (saysOptional_present fun none_ => by cases none_).trans ?_
      constructor
      · rintro ⟨_, rfl, _, ⟨⟩, parsed⟩
        rw [Option.bind_some, parsed]
        refine ⟨fun _ own => ?_, rfl⟩
        cases own
        rw [parsed, Option.isSome_some]
      · rintro ⟨known, rfl⟩
        obtain ⟨s, parsed⟩ := Option.isSome_iff_exists.mp (known d rfl)
        rw [Option.bind_some, parsed]
        exact ⟨s, rfl, _, rfl, parsed⟩

/-- The printed invoice, as it is normalised with a merchandise total. -/
def Invoice.normalized (inv : Invoice) (importHash : String) (total : Number) :
    NormalizedSource where
  importHash := trim importHash
  sourceOrderReference := String.ofList inv.orderReference.text
  originalGrossMerchandiseTotal := total
  shippingTotal := .finite inv.shippingPence
  discountTotal := .finite inv.promotionPence
  finalTotalPaid := .finite inv.invoiceTotal.pence
  items := inv.items.mapIdx ItemBlock.normalized
  sourceOrderDate := inv.orderDate.bind fun d => parseDate (String.ofList (abbreviateMonth d.text))
  sourceDocumentDate :=
    inv.invoiceDate.bind fun d => parseDate (String.ofList (abbreviateMonth d.text))
  merchantName := inv.merchant.map fun name => String.ofList name.text
  sourceInvoiceReference := inv.invoiceReference.map fun reference => String.ofList reference.text

theorem Invoice.document_normalized (total : Number) :
    (inv.normalized importHash total).document =
      { inv.purchase importHash with originalGrossMerchandiseTotal := integer total } := by
  have dates : ∀ o : Option DateText, (o.bind fun d =>
      parseDate (String.ofList (abbreviateMonth d.text))).map newDate = o.bind DateText.stored :=
    fun o => Option.map_bind
  simp only [normalized, NormalizedSource.document, purchase, integer_natCast, normalized_items,
    dates]

/-- The amounts and dates of an invoice are in range. -/
structure Invoice.Readable (inv : Invoice) (importHash : String) : Prop where
  importHash : trim importHash ≠ ""
  dated : inv.Dated
  lines : ∀ b ∈ inv.items, b.Safe
  shipping : (inv.shippingPence : Int) ≤ maxSafeInteger
  promotions : (inv.promotionPence : Int) ≤ maxSafeInteger
  paid : (inv.invoiceTotal.pence : Int) ≤ maxSafeInteger

theorem trimmedOrNone_field {t : Option FieldText} :
    trimmedOrNone (t.map fun name => String.ofList name.text) =
      t.map fun name => String.ofList name.text := by
  cases t with
  | none => rfl
  | some t => exact trimmedOrNone_tidy t.isTidy

/-- A readable invoice is normalised as it is printed, apart from its merchandise total. -/
theorem says_document (total importHash : String) (doc : NormalizedSource)
    (trimmed : ∀ b ∈ inv.items, ∀ line ∈ b.description, trimChars line = line ∧ line ≠ [])
    (quantities : ∀ b ∈ inv.items, b.row.quantity.value < 2 ^ 53)
    (few : inv.items.length < 2 ^ 53) :
    { inv.document importHash with originalGrossMerchandiseTotal := total }.raw.Says doc ↔
      inv.Readable importHash ∧
        ∃ x, (RawField.text total).SaysAmount x ∧ doc = inv.normalized importHash x := by
  have shipping : ∀ {x}, (optionField .text
      (inv.shippingCharges.map fun row => String.ofList row.1.gross.text)).SaysAmountOrZero x ↔
        (inv.shippingPence : Int) ≤ maxSafeInteger ∧ x = .finite inv.shippingPence := by
    intro x
    have own := saysAmountOrZero_optional (o := inv.shippingCharges.map (·.1.gross)) (x := x)
    rw [Option.map_map, Option.elim_map] at own
    exact own
  have promotions : ∀ {x}, (optionField .text
      (inv.promotions.map fun row => String.ofList row.gross.text)).SaysAmountOrZero x ↔
        (inv.promotionPence : Int) ≤ maxSafeInteger ∧ x = .finite inv.promotionPence := by
    intro x
    have own := saysAmountOrZero_optional (o := inv.promotions.map (·.gross)) (x := x)
    rw [Option.map_map, Option.elim_map] at own
    exact own
  constructor
  · intro h
    obtain ⟨_, ⟨⟩, hash, given_⟩ := h.importHash
    have reference := (saysText_tidy inv.orderReference.isTidy).mp h.sourceOrderReference
    obtain ⟨paidSafe, paid⟩ := inv.invoiceTotal.says.mp h.finalTotalPaid
    obtain ⟨shippingSafe, shipped⟩ := shipping.mp h.shippingTotal
    obtain ⟨promotionSafe, promoted⟩ := promotions.mp h.discountTotal
    obtain ⟨ordered, orderDate⟩ := saysDate_optional.mp h.sourceOrderDate
    obtain ⟨invoiced, invoiceDate⟩ := saysDate_optional.mp h.sourceDocumentDate
    have merchant := (saysOptionalText_optional.mp h.merchantName).trans trimmedOrNone_field
    have invoice := (saysOptionalText_optional.mp h.sourceInvoiceReference).trans trimmedOrNone_field
    obtain ⟨_, ⟨⟩, -, said⟩ := h.items
    obtain ⟨lines, items⟩ := (says_items trimmed quantities few).mp said
    refine ⟨⟨hash ▸ given_, ?_, lines, shippingSafe, promotionSafe, paidSafe⟩, _,
      h.originalGrossMerchandiseTotal, ?_⟩
    · intro date mem
      rcases List.mem_append.mp mem with own | own
      · exact ordered date (Option.mem_toList.mp own)
      · exact invoiced date (Option.mem_toList.mp own)
    · cases doc
      simp only at hash reference paid shipped promoted orderDate invoiceDate merchant invoice items
      subst hash reference paid shipped promoted orderDate invoiceDate merchant invoice items
      rfl
  · rintro ⟨readable, x, merchandise, rfl⟩
    have dated : ∀ {o : Option DateText}, (∀ d ∈ o, d ∈ inv.orderDate.toList ++
        inv.invoiceDate.toList) → ∀ d ∈ o,
          (parseDate (String.ofList (abbreviateMonth d.text))).isSome :=
      fun own d mem => readable.dated d (own d mem)
    exact {
      importHash := ⟨_, rfl, rfl, readable.importHash⟩
      sourceOrderReference := (saysText_tidy inv.orderReference.isTidy).mpr rfl
      finalTotalPaid := inv.invoiceTotal.says.mpr ⟨readable.paid, rfl⟩
      originalGrossMerchandiseTotal := merchandise
      shippingTotal := shipping.mpr ⟨readable.shipping, rfl⟩
      discountTotal := promotions.mpr ⟨readable.promotions, rfl⟩
      sourceOrderDate := saysDate_optional.mpr
        ⟨dated fun d own => List.mem_append_left _ (Option.mem_toList.mpr own), rfl⟩
      sourceDocumentDate := saysDate_optional.mpr
        ⟨dated fun d own => List.mem_append_right _ (Option.mem_toList.mpr own), rfl⟩
      merchantName := saysOptionalText_optional.mpr trimmedOrNone_field.symm
      sourceInvoiceReference := saysOptionalText_optional.mpr trimmedOrNone_field.symm
      items := ⟨_, rfl, fun empty => inv.nonempty (by
        simpa [Invoice.document, Invoice.sourceItems] using empty),
        (says_items trimmed quantities few).mpr ⟨readable.lines, rfl⟩⟩ }

theorem sum_lineTotals_blocks (blocks : List ItemBlock) :
    (lineTotals (blocks.mapIdx ItemBlock.purchaseItem)).sum =
      ((blocks.map fun b => b.row.lineTotal.pence).sum : Nat) := by
  have totals : lineTotals (blocks.mapIdx ItemBlock.purchaseItem) =
      (blocks.map fun b => b.row.lineTotal.pence).map Nat.cast := by
    refine List.ext_getElem (by simp [lineTotals]) fun i h h' => ?_
    simp only [lineTotals, List.getElem_map, List.getElem_mapIdx]
    rfl
  rw [totals, ← Nat.cast_list_sum]

/-- What passes the checks of the cost engine is readable. -/
theorem readable_of_validate (dated : inv.Dated)
    (valid : validatePurchaseDocument (inv.purchase importHash) = .ok ⟨⟩) :
    inv.Readable importHash := by
  simp only [validatePurchaseDocument, bind_eq_ok, ensure_eq_ok, forM_eq_ok] at valid
  obtain ⟨-, hash, -, -, -, -, -, items, -, -, -, shipping, -, promotions, -, paid, -⟩ := valid
  refine ⟨fun empty => hash ?_, dated, fun b hb => ?_, shipping.2, promotions.2, paid.2⟩
  · rw [Invoice.purchase, empty]
    rfl
  · obtain ⟨i, at_⟩ := List.getElem?_of_mem hb
    have checked := items (b.purchaseItem i, i) (List.mem_zipIdx_iff_getElem?.mpr (by
      rw [Invoice.purchase, List.getElem?_mapIdx, at_, Option.map_some]))
    simp only [validatePurchaseItem, bind_eq_ok, ensure_eq_ok] at checked
    obtain ⟨-, -, -, -, -, unit, line⟩ := checked
    exact ⟨unit.2, line.2⟩

variable {unpdf : Unpdf} {pdfBytes : List UInt8}

/-- Importing a printed invoice is importing its printed pence, if its dates are
dates. -/
theorem importAmazonPurchaseInvoice_eq_ok (importHash : String) (userId : Nat) (db db' : Db)
    (extracted : extractPdfText unpdf pdfBytes = .ok extractedPdf) (laid : inv.LaidOut sheets)
    (printed : List.Forall₂ PrintedOn (sheets.map Sheet.lines) extractedPdf.pages)
    (quantities : ∀ b ∈ inv.items, b.row.quantity.value < 2 ^ 53)
    (few : inv.items.length < 2 ^ 53) :
    importAmazonPurchaseInvoice unpdf pdfBytes importHash userId db = .ok db' ↔
      inv.Dated ∧ importPurchaseInvoice userId (inv.purchase importHash) db = .ok db' := by
  have parsed := parse_of_printed importHash laid printed fun b hb => (quantities b hb).le
  have said := fun doc => says_document (merchandiseTotal inv.sourceItems) importHash doc
    (trimmed_description laid printed) quantities few
  simp only [importAmazonPurchaseInvoice, bind_eq_ok, mapError_eq_ok, extracted, parsed,
    Except.ok.injEq, exists_eq_left', normalizePurchaseDocument_eq_ok, said]
  constructor
  · rintro ⟨_, ⟨readable, x, -, rfl⟩, stored⟩
    rw [Invoice.document_normalized] at stored
    obtain ⟨valid, -⟩ := importPurchaseInvoice_bounds stored
    simp only [validatePurchaseDocument, bind_eq_ok, ensure_eq_ok] at valid
    obtain ⟨-, -, -, -, -, -, -, -, -, -, -, -, -, -, -, -, -, sum, -⟩ := valid
    have total := (sum_lineTotals_blocks inv.items).symm.trans sum
    rw [← total] at stored
    exact ⟨readable.dated, stored⟩
  · rintro ⟨dated, stored⟩
    obtain ⟨valid, fits⟩ := importPurchaseInvoice_bounds stored
    have fits : (inv.totalPence : Int) < 1000000000000 := fits
    have small : inv.totalPence < 100 * 2 ^ 45 := by omega
    have safe : (inv.totalPence : Int) ≤ maxSafeInteger := fits.le.trans (by decide)
    have total : (RawField.text (merchandiseTotal inv.sourceItems)).SaysAmount
        (.finite inv.totalPence) := by
      rw [merchandiseTotal_sourceItems small]
      exact (saysAmount_text (writesPounds_fixedText inv.totalPence)).mpr ⟨safe, rfl⟩
    refine ⟨_, ⟨readable_of_validate dated valid, _, total, rfl⟩, ?_⟩
    rw [Invoice.document_normalized, integer_natCast]
    exact stored

end Documents

/-! ### What is stored -/

/-- A printed date is stored as it is read, a documented one as its midnight. -/
structure StoresDate (printed : Option DateText) (stored : Option Int) : Prop where
  read : printed.bind DateText.stored = stored.map some
  midnight : ∀ d ∈ printed, ∀ date : Calendar.Date,
    WritesIso (trim (String.ofList (abbreviateMonth d.text))).toList date ∨
      WritesText (trim (String.ofList (abbreviateMonth d.text))).toList date →
    100 ≤ date.year → date.year ≤ 9999 → stored = some (date.toDay * msPerDay)

/-- The stored line is the printed one with index `i`, with its share of the costs. -/
structure ItemBlock.StoredAs (b : ItemBlock) (i : Nat) (row : PurchaseItem) : Prop where
  sourceLineNumber : row.sourceLineNumber = some (i + 1 : Nat)
  sourceSetNumber : row.sourceSetNumber = trimmedOrNone
    ((extractLegoSetNumber ([' '].intercalate b.description) none).map String.ofList)
  externalProductId : row.externalProductId = some (String.ofList b.asin.text)
  sourceDescription : row.sourceDescription = String.ofList ([' '].intercalate b.description)
  quantity : row.quantity = b.row.quantity.value
  originalGrossUnitCost : row.originalGrossUnitCost = b.row.unitPrice.pence
  originalGrossLineTotal : row.originalGrossLineTotal = b.row.lineTotal.pence
  finalLineCost : 0 ≤ row.finalLineCost ∧ row.finalLineCost =
    b.row.lineTotal.pence + row.allocatedShipping - row.allocatedDiscount

/-- The purchase of the printed order reference, in which an order that is new has the
printed date and merchant, and one that is known keeps its own. -/
structure Invoice.StoredUnder (inv : Invoice) (purchaseId : Nat) (purchase : Purchase)
    (db db' : Db) : Prop where
  stored : db'.purchases.get? purchaseId = some purchase
  reference : purchase.sourceOrderReference = String.ofList inv.orderReference.text
  known : ∀ p, db.purchases.get? purchaseId = some p → purchase = p
  new : db.purchases.get? purchaseId = none →
    StoresDate inv.orderDate purchase.sourceOrderDate ∧
      purchase.merchantName = inv.merchant.map fun name => String.ofList name.text
  others : ∀ k p, db.purchases.get? k = some p → db'.purchases.get? k = some p

/-- One document more, with the printed references, date and amounts, and its lines. -/
structure Invoice.StoredBy (inv : Invoice) (importHash : String) (userId : Nat) (db db' : Db) :
    Prop where
  document : ∃ purchaseId purchase partNumber documentDate,
    inv.StoredUnder purchaseId purchase db db' ∧ StoresDate inv.invoiceDate documentDate ∧
      db'.purchaseDocuments = db.purchaseDocuments.insert
        ⟨purchaseId, partNumber,
          inv.invoiceReference.map fun reference => String.ofList reference.text, trim importHash,
          documentDate, userId, inv.totalPence, inv.shippingPence, inv.promotionPence,
          inv.invoiceTotal.pence⟩
  lines : ∃ rows, db'.purchaseItems = rows.foldl Table.insert db.purchaseItems ∧
    List.Forall₂ (fun e row => e.1.StoredAs e.2 row) inv.items.zipIdx rows ∧
    (∀ row ∈ rows, row.purchaseDocumentId = db.purchaseDocuments.nextId) ∧
    (rows.map PurchaseItem.allocatedShipping).sum = inv.shippingPence ∧
    (rows.map PurchaseItem.allocatedDiscount).sum = inv.promotionPence ∧
    (rows.map PurchaseItem.finalLineCost).sum = inv.invoiceTotal.pence

section Stored

variable {inv : Invoice} {importHash : String} {userId : Nat} {db db' : Db}
  {normalised : NormalizedPurchaseDocument}

theorem storesDate {printed : Option DateText} {stored : Option Int}
    (read : printed.bind DateText.stored = stored.map some) : StoresDate printed stored where
  read := read
  midnight := by
    rintro d rfl date writes low high
    have parsed := parseDate_documented writes low high
    rw [Option.bind_some, DateText.stored, parsed, Option.map_some, newDate_isoText low high] at read
    obtain ⟨time, rfl, same⟩ := Option.map_eq_some_iff.mp read.symm
    exact same

theorem stored_of_import (h : importPurchaseInvoice userId (inv.purchase importHash) db = .ok db') :
    inv.StoredBy importHash userId db db' := by
  obtain ⟨calculated, costs, stored⟩ := importPurchaseInvoice_ok h
  obtain ⟨header, items, -, reconciled⟩ := calculatePurchaseCosts_ok costs
  obtain ⟨ordered, dated⟩ := persistCalculatedPurchaseDocument_dated stored
  obtain ⟨purchases, purchaseId, partNumber, ⟨purchase, parent, reference, filed⟩, kept, -, rfl⟩ :=
    persistCalculatedPurchaseDocument_ok stored
  rw [header] at ordered dated reference filed
  refine ⟨⟨purchaseId, purchase, partNumber, _, ⟨parent, reference, ?_, ?_, kept⟩,
    storesDate dated.symm, ?_⟩, _, rfl, ?_, ?_, ?_, ?_, ?_⟩
  · intro p found
    rcases filed with own | ⟨new, -⟩
    · exact Option.some.inj (own.symm.trans found)
    · cases new.symm.trans found
  · intro new
    rcases filed with own | ⟨-, rfl⟩
    · cases new.symm.trans own
    · exact ⟨storesDate ordered.symm, rfl⟩
  · rw [header]
    rfl
  · have same : List.Forall₂ Eq (inv.items.zipIdx.map fun e => e.1.purchaseItem e.2)
        (calculated.items.map CalculatedPurchaseItem.toNormalizedPurchaseItem) := by
      rw [List.forall₂_eq_eq_eq, items]
      exact List.mapIdx_eq_zipIdx_map.symm
    rw [List.forall₂_map_left_iff, List.forall₂_map_right_iff, List.forall₂_iff_zip] at same
    rw [List.forall₂_map_right_iff, List.forall₂_iff_zip]
    refine ⟨same.1, fun {b c} mem => ?_⟩
    obtain ⟨nonneg, cost⟩ := reconciled.costs c (List.of_mem_zip mem).2
    have own := (same.2 mem).symm
    have lineTotal : c.originalGrossLineTotal = b.1.row.lineTotal.pence :=
      congrArg NormalizedPurchaseItem.originalGrossLineTotal own
    rw [lineTotal] at cost
    exact ⟨congrArg NormalizedPurchaseItem.sourceLineNumber own,
      congrArg NormalizedPurchaseItem.sourceSetNumber own,
      congrArg NormalizedPurchaseItem.externalProductId own,
      congrArg NormalizedPurchaseItem.sourceDescription own,
      congrArg NormalizedPurchaseItem.quantity own,
      congrArg NormalizedPurchaseItem.originalGrossUnitCost own, lineTotal, nonneg, cost⟩
  · intro row mem
    obtain ⟨item, -, rfl⟩ := List.mem_map.mp mem
    rfl
  · rw [List.map_map]
    exact reconciled.shipping
  · rw [List.map_map]
    exact reconciled.discount
  · rw [List.map_map]
    exact reconciled.paid

/-- The next document clashes with a stored one of its hash. -/
theorem clashes_of_hash {documents : Table PurchaseDocument} {d : Nat}
    {document : PurchaseDocument} (other : PurchaseDocument)
    (found : documents.get? d = some document) (same : other.importHash = document.importHash) :
    documents.clashes PurchaseDocument.clash documents.nextId other = true := by
  by_contra free
  have own := Table.clashes_eq_false.mp (Bool.eq_false_of_not_eq_true free) d document found
    (decide_eq_true (.inl same))
  exact absurd (Table.lt_nextId found) (by omega)

theorem hash_stored (h : importPurchaseInvoice userId normalised db = .ok db') :
    ∃ d document, db'.purchaseDocuments.get? d = some document ∧
      document.importHash = normalised.importHash := by
  obtain ⟨calculated, costs, stored⟩ := importPurchaseInvoice_ok h
  obtain ⟨header, -⟩ := calculatePurchaseCosts_ok costs
  obtain ⟨_, _, _, -, -, -, rfl⟩ := persistCalculatedPurchaseDocument_ok stored
  exact ⟨_, _, Table.get?_insert_self _ _, congrArg PurchaseHeader.importHash header⟩

/-- A stored document refuses every other one with its hash. -/
theorem importPurchaseInvoice_refused {d : Nat} {document : PurchaseDocument}
    (found : db.purchaseDocuments.get? d = some document)
    (same : normalised.importHash = document.importHash) :
    importPurchaseInvoice userId normalised db ≠ .ok db' := by
  intro again
  obtain ⟨calculated, costs, stored⟩ := importPurchaseInvoice_ok again
  obtain ⟨header, -⟩ := calculatePurchaseCosts_ok costs
  simp only [persistCalculatedPurchaseDocument, bind_eq_ok, ensure_eq_ok] at stored
  obtain ⟨-, -, -, -, -, -, -, free, -⟩ := stored
  have hash := (congrArg PurchaseHeader.importHash header).trans same
  rw [clashes_of_hash _ found hash] at free
  cases free

/-- The same document once more is reported as a duplicate. -/
theorem importPurchaseInvoice_duplicate {userId' : Nat}
    (h : importPurchaseInvoice userId normalised db = .ok db') :
    importPurchaseInvoice userId' normalised db' =
      .error (.duplicateImport normalised.importHash) := by
  obtain ⟨d, document, found, hash⟩ := hash_stored h
  obtain ⟨calculated, costs, stored⟩ := importPurchaseInvoice_ok h
  obtain ⟨header, -⟩ := calculatePurchaseCosts_ok costs
  simp only [persistCalculatedPurchaseDocument, bind_eq_ok, ensure_eq_ok] at stored
  obtain ⟨-, valid, -, short, -, fits, -⟩ := stored
  have thrown : calculated.importHash = normalised.importHash :=
    congrArg PurchaseHeader.importHash header
  simp only [importPurchaseInvoice, costs, ok_bind, persistCalculatedPurchaseDocument,
    bind_eq_error, ensure_eq_ok, ensure_eq_error]
  refine .inr ⟨⟨⟩, valid, .inr ⟨⟨⟩, short, .inr ⟨⟨⟩, fits, .inl ⟨?_, congrArg _ thrown⟩⟩⟩⟩
  rw [clashes_of_hash _ found (thrown.trans hash.symm)]
  exact Bool.noConfusion

theorem parseAmazonPurchaseInvoice_importHash {extractedPdf : ExtractedPdfText}
    {source : SourcePurchaseDocument}
    (h : parseAmazonPurchaseInvoice extractedPdf importHash = .ok source) :
    source.importHash = importHash := by
  simp only [parseAmazonPurchaseInvoice, bind_eq_ok] at h
  obtain ⟨st, -, h⟩ := h
  split at h
  · cases h
  cases reference : givenChars (st.collected .sourceOrderReference) with
  | none =>
      rw [reference] at h
      cases h
  | some _ =>
      rw [reference] at h
      cases paid : givenChars (st.collected .finalTotalPaid) with
      | none =>
          rw [paid] at h
          cases h
      | some _ =>
          rw [paid] at h
          simp only at h
          split at h
          · cases h
          · cases h
            rfl

/-- Whatever the bytes hold, an import is one of a document with the trimmed hash. -/
theorem importAmazonPurchaseInvoice_ok {unpdf : Unpdf} {pdfBytes : List UInt8}
    (h : importAmazonPurchaseInvoice unpdf pdfBytes importHash userId db = .ok db') :
    ∃ doc : NormalizedSource, doc.importHash = trim importHash ∧
      importPurchaseInvoice userId doc.document db = .ok db' ∧
      ∀ userId db, importAmazonPurchaseInvoice unpdf pdfBytes importHash userId db =
        (importPurchaseInvoice userId doc.document db).mapError ImportError.domain := by
  simp only [importAmazonPurchaseInvoice, bind_eq_ok, mapError_eq_ok] at h
  obtain ⟨extractedPdf, extracted, source, parsed, doc, normalised, stored⟩ := h
  obtain ⟨text, own, hash, -⟩ := (normalizePurchaseDocument_eq_ok.mp normalised).importHash
  cases own
  rw [parseAmazonPurchaseInvoice_importHash parsed] at hash
  refine ⟨doc, hash, stored, fun userId db => ?_⟩
  rw [importAmazonPurchaseInvoice, extracted]
  change (do
    let source ← (parseAmazonPurchaseInvoice extractedPdf importHash).mapError ImportError.parse
    _) = _
  rw [parsed]
  change (do
    let normalised ← (normalizePurchaseDocument source.raw).mapError ImportError.normalization
    _) = _
  rw [normalised]
  rfl

end Stored

section Pipeline

variable {inv : Invoice} {sheets : List Sheet} {extractedPdf : ExtractedPdfText}
  {unpdf : Unpdf} {pdfBytes : List UInt8}

/-- The bytes of a printed invoice are imported exactly when its dates are dates and
its pence pass as a document; what is stored is what is printed, once: the same bytes
are then a duplicate, and no other bytes with the hash are stored. -/
theorem importAmazonPurchaseInvoice_printed (importHash : String) (userId : Nat) (db db' : Db)
    (extracted : extractPdfText unpdf pdfBytes = .ok extractedPdf) (laid : inv.LaidOut sheets)
    (printed : List.Forall₂ PrintedOn (sheets.map Sheet.lines) extractedPdf.pages)
    (quantities : ∀ b ∈ inv.items, b.row.quantity.value < 2 ^ 53)
    (few : inv.items.length < 2 ^ 53) :
    (importAmazonPurchaseInvoice unpdf pdfBytes importHash userId db = .ok db' ↔
      inv.Dated ∧ importPurchaseInvoice userId (inv.purchase importHash) db = .ok db') ∧
    (importAmazonPurchaseInvoice unpdf pdfBytes importHash userId db = .ok db' →
      inv.StoredBy importHash userId db db' ∧
      (∀ userId', importAmazonPurchaseInvoice unpdf pdfBytes importHash userId' db' =
        .error (.domain (.duplicateImport (trim importHash)))) ∧
      ∀ unpdf' pdfBytes' importHash' userId' db'', trim importHash' = trim importHash →
        importAmazonPurchaseInvoice unpdf' pdfBytes' importHash' userId' db' ≠ .ok db'') := by
  have accepted := importAmazonPurchaseInvoice_eq_ok importHash userId db db' extracted laid printed
    quantities few
  refine ⟨accepted, fun imported => ⟨stored_of_import (accepted.mp imported).2, ?_, ?_⟩⟩
  · intro userId'
    obtain ⟨doc, hash, stored, again⟩ := importAmazonPurchaseInvoice_ok imported
    rw [again, importPurchaseInvoice_duplicate stored, ← hash]
    rfl
  · intro unpdf' pdfBytes' importHash' userId' db'' same other
    obtain ⟨doc, hash, stored, -⟩ := importAmazonPurchaseInvoice_ok imported
    obtain ⟨doc', hash', stored', -⟩ := importAmazonPurchaseInvoice_ok other
    obtain ⟨d, document, found, hash''⟩ := hash_stored stored
    exact importPurchaseInvoice_refused found
      (hash'.trans (same.trans (hash.symm.trans hash''.symm))) stored'

end Pipeline

/-- A library that finds the sheets of the small invoice in any bytes. -/
def sampleUnpdf : Unpdf := fun _ =>
  .ok (2, some ((sampleSheets smallInvoice).map fun s =>
    String.ofList (['\n'].intercalate s.lines)))

def sampleExtracted : ExtractedPdfText where
  pageCount := 2
  pages := (sampleSheets smallInvoice).mapIdx fun idx s =>
    ⟨idx + 1, String.ofList (['\n'].intercalate s.lines)⟩
  fullText := some ("\n".intercalate ((sampleSheets smallInvoice).map fun s =>
    String.ofList (['\n'].intercalate s.lines)))

theorem sampleExtracted_printed : List.Forall₂ PrintedOn ((sampleSheets smallInvoice).map Sheet.lines)
    sampleExtracted.pages := by
  have plain : ∀ s ∈ sampleSheets smallInvoice, s.lines ≠ [] ∧ (∀ line ∈ s.lines, '\n' ∉ line) ∧
      ∀ line ∈ s.lines, trimChars line = line ∧ line ≠ [] := by decide +kernel
  have each : ∀ s ∈ sampleSheets smallInvoice, ∀ idx,
      PrintedOn s.lines ⟨idx, String.ofList (['\n'].intercalate s.lines)⟩ := by
    intro s hs idx
    obtain ⟨nonempty, whole, trimmed⟩ := plain s hs
    exact printedOn_plainPage nonempty whole trimmed
  exact .cons (each _ (by simp [sampleSheets]) 1) (.cons (each _ (by simp [sampleSheets]) 2) .nil)

theorem importAmazonPurchaseInvoice_printed_sample : ∃ db',
    importAmazonPurchaseInvoice sampleUnpdf [37] " 9c1 " 7 Db.empty = .ok db' ∧
      smallInvoice.StoredBy " 9c1 " 7 Db.empty db' ∧
      importAmazonPurchaseInvoice sampleUnpdf [37] " 9c1 " 8 db' =
        .error (.domain (.duplicateImport "9c1")) := by
  have extracted : extractPdfText sampleUnpdf [37] = .ok sampleExtracted := by decide +kernel
  have dated : smallInvoice.Dated := by decide +kernel
  have stored : ∃ db', importPurchaseInvoice 7 (smallInvoice.purchase " 9c1 ")
      Db.empty = .ok db' := by
    have accepted : (importPurchaseInvoice 7 (smallInvoice.purchase " 9c1 ")
        Db.empty).toOption.isSome := by decide +kernel
    cases tx : importPurchaseInvoice 7 (smallInvoice.purchase " 9c1 ") Db.empty with
    | error e =>
        rw [tx] at accepted
        cases accepted
    | ok db' => exact ⟨db', rfl⟩
  obtain ⟨db', stored⟩ := stored
  obtain ⟨accepted, kept⟩ := importAmazonPurchaseInvoice_printed " 9c1 " 7 Db.empty db' extracted
    (sampleInvoice_laidOut ..) sampleExtracted_printed (by decide +kernel) (by decide)
  have imported := accepted.mpr ⟨dated, stored⟩
  obtain ⟨own, again, -⟩ := kept imported
  have hash : trim " 9c1 " = "9c1" := by decide
  exact ⟨db', imported, own, hash ▸ again 8⟩

end ColorfulLife
