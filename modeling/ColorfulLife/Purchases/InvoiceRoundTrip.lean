/-
Parsing undoes printing: the parser reads a printed invoice back as the document
it stands for.

Every field is what its lines say (`collected_said`), the items are those of the
rows, and the merchandise total is exact as long as binary64 numbers are
(`merchandiseTotal_sourceItems`).
-/

import ColorfulLife.Purchases.InvoiceReading

namespace ColorfulLife

open Binary64 Regex

/-! ### Fields -/

section Fields

variable {collected : Collected} {m : Marker} {ms : List Marker} {f : InvoiceField}
  {inv : Invoice} {v : List Char}

theorem Collected.mark_other (other : f ≠ m.field) : collected.mark m f = collected f := by
  rw [mark, collect, m.read_line_other other, Option.none_or, ite_self]

theorem Collected.mark_fresh (fresh : collected m.field = none) :
    collected.mark m m.field = some m.value := by
  rw [mark, collect, fresh, m.read_line]
  rfl

theorem Collected.mark_known (known : collected f = some v) (nonempty : v ≠ []) :
    collected.mark m f = some v := by
  rw [mark, collect, known, givenChars_some nonempty]
  rfl

theorem foldl_mark_known (known : collected f = some v) (nonempty : v ≠ []) :
    ms.foldl Collected.mark collected f = some v := by
  induction ms generalizing collected with
  | nil => exact known
  | cons m ms ih => exact ih (Collected.mark_known known nonempty)

/-- A field is what the first of its lines says. -/
theorem foldl_mark_fresh (fresh : collected f = none) : ms.foldl Collected.mark collected f =
    (ms.find? fun m => decide (m.field = f)).map Marker.value := by
  induction ms generalizing collected with
  | nil => exact fresh
  | cons m ms ih =>
      rw [List.foldl_cons]
      by_cases own : m.field = f
      · subst own
        have found : (m :: ms).find? (fun m' => decide (m'.field = m.field)) = some m :=
          List.find?_cons_of_pos (by simp)
        rw [foldl_mark_known (Collected.mark_fresh fresh) m.value_ne_nil, found]
        rfl
      · rw [List.find?_cons_of_neg (by simpa using own)]
        exact ih ((Collected.mark_other (Ne.symm own)).trans fresh)

/-- What an invoice says about a field. -/
def Invoice.said (inv : Invoice) : InvoiceField → Option (List Char)
  | .sourceOrderReference => some inv.orderReference.text
  | .sourceOrderDate => inv.orderDate.map (abbreviateMonth ·.text)
  | .merchantName => inv.merchant.map (·.text)
  | .sourceInvoiceReference => inv.invoiceReference.map (·.text)
  | .sourceDocumentDate => inv.invoiceDate.map (abbreviateMonth ·.text)
  | .finalTotalPaid => some inv.invoiceTotal.text
  | .shippingTotal => inv.shippingCharges.map (·.1.gross.text)
  | .discountTotal => inv.promotions.map (·.gross.text)

theorem Invoice.mem_markers : m ∈ inv.markers ↔
    match m with
    | .orderReference reference => reference = inv.orderReference
    | .orderDate date => inv.orderDate = some date
    | .merchant name => inv.merchant = some name
    | .invoiceReference reference => inv.invoiceReference = some reference
    | .invoiceDate date => inv.invoiceDate = some date
    | .invoiceTotal total => total = inv.invoiceTotal
    | .shippingCharges row unsigned => inv.shippingCharges = some ⟨row, unsigned⟩
    | .promotions row => inv.promotions = some row := by
  cases m with
  | shippingCharges row unsigned =>
      simp [markers, unsigned]
  | _ => simp [markers]

/-- The markers of an invoice say what it says about each field. -/
theorem Invoice.said_iff : inv.said f = some v ↔ ∃ m ∈ inv.markers, m.field = f ∧ m.value = v := by
  constructor
  · intro said
    cases f with
    | sourceOrderReference =>
        exact ⟨.orderReference inv.orderReference, mem_markers.mpr rfl, rfl, Option.some.inj said⟩
    | finalTotalPaid =>
        exact ⟨.invoiceTotal inv.invoiceTotal, mem_markers.mpr rfl, rfl, Option.some.inj said⟩
    | sourceOrderDate =>
        obtain ⟨date, given, rfl⟩ := Option.map_eq_some_iff.mp said
        exact ⟨.orderDate date, mem_markers.mpr given, rfl, rfl⟩
    | merchantName =>
        obtain ⟨name, given, rfl⟩ := Option.map_eq_some_iff.mp said
        exact ⟨.merchant name, mem_markers.mpr given, rfl, rfl⟩
    | sourceInvoiceReference =>
        obtain ⟨reference, given, rfl⟩ := Option.map_eq_some_iff.mp said
        exact ⟨.invoiceReference reference, mem_markers.mpr given, rfl, rfl⟩
    | sourceDocumentDate =>
        obtain ⟨date, given, rfl⟩ := Option.map_eq_some_iff.mp said
        exact ⟨.invoiceDate date, mem_markers.mpr given, rfl, rfl⟩
    | shippingTotal =>
        obtain ⟨⟨row, unsigned⟩, given, rfl⟩ := Option.map_eq_some_iff.mp said
        exact ⟨.shippingCharges row unsigned, mem_markers.mpr given, rfl, rfl⟩
    | discountTotal =>
        obtain ⟨row, given, rfl⟩ := Option.map_eq_some_iff.mp said
        exact ⟨.promotions row, mem_markers.mpr given, rfl, rfl⟩
  · rintro ⟨m, listed, rfl, rfl⟩
    rw [mem_markers] at listed
    cases m <;> simp_all [said, Marker.field, Marker.value]

theorem collected_said (printed : ∀ m, m ∈ ms ↔ m ∈ inv.markers) (fresh : collected f = none) :
    ms.foldl Collected.mark collected f = inv.said f := by
  rw [foldl_mark_fresh fresh]
  cases found : ms.find? fun m => decide (m.field = f) with
  | some m =>
      have own : m.field = f := by simpa using List.find?_some found
      have listed := (printed m).mp (List.mem_of_find?_eq_some found)
      exact (Invoice.said_iff.mpr ⟨m, listed, own, rfl⟩).symm
  | none =>
      cases said : inv.said f with
      | none => rfl
      | some v =>
          obtain ⟨m, listed, own, -⟩ := Invoice.said_iff.mp said
          have other := List.find?_eq_none.mp found m ((printed m).mpr listed)
          simp [own] at other

end Fields

/-! ### Totals -/

section Totals

theorem Amount.parseFloat_text (a : Amount) :
    Number.parseFloat a.text = Number.ofRat (a.pence / 100) := by
  rw [text]
  split
  · rename_i whole
    have value : ((a.pence : Nat) : ℚ) / 100 = (Number.decimal a.pounds.text : Nat) := by
      rw [pence, whole, Digits.value]
      simp [Number.decimal]
    rw [List.append_nil, Number.parseFloat_whole a.pounds.nonempty a.pounds.isDigit, value]
  · rename_i shown
    have value : ((a.pence : Nat) : ℚ) / 100 = (Number.decimal a.pounds.text : Nat) +
        (Number.decimal a.decimals : Nat) / 10 ^ a.decimals.length := by
      have scale : (10 : ℚ) ^ (2 - a.decimals.length) * 10 ^ a.decimals.length = 100 := by
        rw [← pow_add, Nat.sub_add_cancel a.atMostTwo]
        norm_num
      have unit : (10 : ℚ) ^ a.decimals.length ≠ 0 := pow_ne_zero _ (by norm_num)
      rw [pence, Digits.value]
      push_cast
      field_simp
      calc (100 * (Number.decimal a.pounds.text : ℚ) +
            Number.decimal a.decimals * 10 ^ (2 - a.decimals.length)) * 10 ^ a.decimals.length
          = 100 * (Number.decimal a.pounds.text * 10 ^ a.decimals.length) +
            Number.decimal a.decimals * (10 ^ (2 - a.decimals.length) * 10 ^ a.decimals.length) := by
              ring
        _ = 100 * (Number.decimal a.pounds.text * 10 ^ a.decimals.length +
            Number.decimal a.decimals) := by
              rw [scale]
              ring
    rw [Number.parseFloat_fraction a.pounds.nonempty a.pounds.isDigit
      (List.all_eq_true.mp a.digits), value]

/-- Amounts of pence are added up exactly. -/
theorem foldl_pence {amounts : List Amount} {n : Nat}
    (small : n + (amounts.map Amount.pence).sum < 100 * 2 ^ 45) :
    amounts.foldl (fun acc a => acc + Number.mathRound (Number.parseFloat a.text * 100))
      (.finite n) = .finite (n + (amounts.map Amount.pence).sum : Nat) := by
  induction amounts generalizing n with
  | nil => rfl
  | cons a amounts ih =>
      rw [List.map_cons, List.sum_cons, ← add_assoc] at small
      have rounded : Number.mathRound (Number.parseFloat a.text * 100) = .finite a.pence := by
        rw [a.parseFloat_text]
        exact Number.mathRound_hundredths (by omega)
      rw [List.foldl_cons, rounded, Number.add_natCast (by omega), ih small, List.map_cons,
        List.sum_cons, add_assoc]

theorem merchandiseTotal_sourceItems {inv : Invoice} (small : inv.totalPence < 100 * 2 ^ 45) :
    merchandiseTotal inv.sourceItems = String.ofList (Number.fixedText 2 inv.totalPence) := by
  have totals : inv.sourceItems.map SourcePurchaseItem.originalGrossLineTotal =
      inv.items.map fun b => String.ofList b.row.lineTotal.text := by
    refine List.ext_getElem? fun i => ?_
    simp only [Invoice.sourceItems, List.getElem?_map, List.getElem?_mapIdx, Option.map_map]
    rfl
  have sum : (inv.items.map fun b => b.row.lineTotal).foldl
      (fun acc a => acc + Number.mathRound (Number.parseFloat a.text * 100))
      (.finite (0 : Nat)) = .finite (0 + inv.totalPence : Nat) := by
    have pence : ((inv.items.map fun b => b.row.lineTotal).map Amount.pence).sum =
        inv.totalPence := by
      rw [List.map_map]
      rfl
    rw [← pence]
    exact foldl_pence (by rwa [pence, zero_add])
  have sumPennies : inv.sourceItems.foldl (fun acc item => acc +
      Number.mathRound (Number.parseFloat item.originalGrossLineTotal.toList * 100)) 0 =
        .finite inv.totalPence := by
    have zero : (0 : Number) = .finite (0 : Nat) := Number.ofRat_natCast (by norm_num)
    rw [zero_add, List.foldl_map] at sum
    rw [← List.foldl_map (f := SourcePurchaseItem.originalGrossLineTotal)
      (g := fun acc text => acc + Number.mathRound (Number.parseFloat text.toList * 100)), totals,
      List.foldl_map, zero]
    simp only [String.toList_ofList]
    exact sum
  rw [merchandiseTotal, sumPennies, Number.toFixed_hundredths small]

end Totals

/-! ### Invoices -/

theorem PrintedOn.trimmed {lines : List (List Char)} {page : PageText}
    (printed : PrintedOn lines page) : ∀ line ∈ lines, trimChars line = line ∧ line ≠ [] := by
  obtain ⟨printed, -, -, -, rfl⟩ := printed
  intro line listed
  obtain ⟨listed, nonempty⟩ := List.mem_filter.mp listed
  obtain ⟨piece, -, rfl⟩ := List.mem_map.mp listed
  exact ⟨trimChars_trimChars piece, of_decide_eq_true nonempty⟩

theorem ItemBlock.isRow_lines (b : ItemBlock) : ∀ line ∈ b.lines, IsRow line := by
  intro line listed
  rw [lines, List.mem_append] at listed
  rcases listed with described | own
  · exact (IsRow.of_isPlain (b.plain line described)).1
  · have either : line = b.asinLine ∨ line = b.row.line := by
      split at own
      · simpa using own
      · simpa [or_comm] using own
    rcases either with rfl | rfl
    · exact b.isRow_asinLine
    · exact b.row.isRow_line

/-- What is printed is read back, over any pages. -/
theorem parseAmazonPurchaseInvoice_printed (inv : Invoice) (sheets : List Sheet)
    (extractedPdf : ExtractedPdfText) (importHash : String) (laid : inv.LaidOut sheets)
    (printed : List.Forall₂ PrintedOn (sheets.map Sheet.lines) extractedPdf.pages)
    (quantities : ∀ b ∈ inv.items, b.row.quantity.value ≤ 2 ^ 53)
    (total : inv.totalPence < 100 * 2 ^ 45) :
    parseAmazonPurchaseInvoice extractedPdf importHash = .ok (inv.document importHash) := by
  rw [List.forall₂_map_left_iff] at printed
  have shown : ∀ s ∈ sheets, ∀ line ∈ s.lines, trimChars line = line ∧ line ≠ [] :=
    ((List.forall₂_and_left _ _).mp (printed.imp fun _ _ on => ⟨on.trimmed, on⟩)).1
  have trimmed : ∀ b ∈ inv.items, ∀ line ∈ b.description, trimChars line = line ∧ line ≠ [] := by
    intro b hb line described
    have listed : line ∈ sheets.flatMap Sheet.tableRows := by
      rw [laid.rows]
      exact List.mem_flatMap.mpr ⟨b, hb, List.mem_append_left _ described⟩
    obtain ⟨s, hs, row⟩ := List.mem_flatMap.mp listed
    exact shown s hs line (s.mem_lines_of_tableRows row)
  have isRow : ∀ line ∈ sheets.flatMap Sheet.tableRows, IsRow line := by
    rw [laid.rows]
    intro line listed
    obtain ⟨b, -, own⟩ := List.mem_flatMap.mp listed
    exact b.isRow_lines line own
  have read : (sheets.flatMap Sheet.tableRows).foldlM readRow ⟨[], none⟩ =
      .ok ⟨inv.sourceItems, none⟩ := by
    rw [laid.rows, foldlM_readRow_blocks [] quantities trimmed]
    simp only [List.length_nil, zero_add, List.nil_append]
    rfl
  have fields : (sheets.flatMap Sheet.markers).foldl Collected.mark (fun _ => none) = inv.said :=
    funext fun f => collected_said laid.markers rfl
  have processed : extractedPdf.pages.foldlM processPage ⟨fun _ => none, ⟨[], none⟩⟩ =
      .ok ⟨inv.said, ⟨inv.sourceItems, none⟩⟩ := by
    rw [foldlM_processPage _ printed isRow laid.summary laid.last read rfl, InvoiceState.mark, fields]
  have items : inv.sourceItems ≠ [] := by
    rw [Invoice.sourceItems, Ne, List.mapIdx_eq_nil_iff]
    exact inv.nonempty
  have reference : givenChars (inv.said .sourceOrderReference) = some inv.orderReference.text :=
    givenChars_some inv.orderReference.nonempty
  have paid : givenChars (inv.said .finalTotalPaid) = some inv.invoiceTotal.text :=
    givenChars_some inv.invoiceTotal.text_ne_nil
  rw [parseAmazonPurchaseInvoice, processed]
  simp only [bind, Except.bind, Option.isSome_none, Bool.false_eq_true, if_false, reference, paid,
    if_neg items, merchandiseTotal_sourceItems total]
  simp only [Invoice.document, Invoice.said, Option.map_map]
  rfl

/-! ### A sample -/

/-- A page that shows trimmed lines as they are. -/
def plainPage (lines : List (List Char)) : PageText :=
  ⟨1, String.ofList (['\n'].intercalate lines)⟩

theorem printedOn_plainPage {lines : List (List Char)} (nonempty : lines ≠ [])
    (whole : ∀ line ∈ lines, '\n' ∉ line)
    (trimmed : ∀ line ∈ lines, trimChars line = line ∧ line ≠ []) :
    PrintedOn lines (plainPage lines) := by
  refine ⟨lines, nonempty, whole, String.toList_ofList, ?_⟩
  rw [List.map_congr_left fun line hl => (trimmed line hl).1, List.map_id']
  exact List.filter_eq_self.mpr fun line hl => decide_eq_true (trimmed line hl).2

theorem processPage_plainPage (invoice : InvoiceState) (lines : List (List Char)) :
    processPage invoice (plainPage lines) =
      ((pageLines (['\n'].intercalate lines)).foldlM processLine
        (TableState.outside, invoice)).map Prod.snd := by
  rw [processPage, plainPage, String.toList_ofList]

def sampleAmount : Amount :=
  ⟨⟨"8".toList, by decide, by decide⟩, "33".toList, by decide, by decide⟩

def sampleGap : Gap := ⟨[' '], by decide, by decide⟩

def sampleFiller : Filler := ⟨[' '], by decide, by decide, by decide⟩

def sampleBlock (quantity : Digits) (positive : 0 < quantity.value) (lineTotal : Amount) :
    ItemBlock where
  description := ["Botanical".toList, "orchid".toList]
  described := by decide
  plain := by decide +kernel
  asinGap := [' ']
  blank := by decide
  asin := ⟨"B09JWY8TQ3".toList, by decide, by decide⟩
  row :=
    ⟨quantity, positive, sampleGap, sampleAmount, sampleGap, ⟨"20".toList, by decide, by decide⟩,
      sampleGap, sampleAmount, sampleGap, lineTotal⟩
  asinFirst := true

def sampleInvoice (block : ItemBlock) (more : List ItemBlock) : Invoice where
  orderReference := ⟨"202-7".toList, by decide, by decide, by decide⟩
  orderDate := some ⟨⟨"17 January 2026".toList, by decide, by decide, by decide⟩, by decide⟩
  merchant := none
  invoiceReference := none
  invoiceDate := none
  items := block :: more
  nonempty := List.cons_ne_nil _ _
  shippingCharges := none
  promotions :=
    some ⟨sampleFiller, sampleAmount, sampleFiller, sampleAmount, sampleFiller, true, sampleAmount⟩
  invoiceTotal := sampleAmount

/-- Two sheets that break behind the first line of the first block. -/
def sampleSheets (inv : Invoice) : List Sheet :=
  let rows := inv.items.flatMap ItemBlock.lines
  [⟨inv.markers.take 2, some (rows.take 1), []⟩, ⟨[], some (rows.drop 1), inv.markers.drop 2⟩]

def samplePdf (inv : Invoice) : ExtractedPdfText where
  pageCount := 2
  pages := (sampleSheets inv).map fun s => plainPage s.lines
  fullText := none

theorem sampleInvoice_laidOut (block : ItemBlock) (more : List ItemBlock) :
    (sampleInvoice block more).LaidOut (sampleSheets (sampleInvoice block more)) where
  rows := by
    change List.take 1 (List.flatMap ItemBlock.lines _) ++
      (List.drop 1 (List.flatMap ItemBlock.lines _) ++ []) = _
    rw [List.append_nil, List.take_append_drop]
  markers m := by
    simp [sampleSheets, Sheet.markers]
  summary := by
    intro s hs m hm
    simp only [sampleSheets, List.mem_cons, List.not_mem_nil, or_false] at hs
    rcases hs with rfl | rfl
    · cases hm
    · revert m
      simp [sampleInvoice, Invoice.markers, Marker.isSummary]
  last := by
    simp [sampleSheets]

theorem samplePdf_printed (inv : Invoice)
    (plain : ∀ s ∈ sampleSheets inv, s.lines ≠ [] ∧ (∀ line ∈ s.lines, '\n' ∉ line) ∧
      ∀ line ∈ s.lines, trimChars line = line ∧ line ≠ []) :
    List.Forall₂ PrintedOn ((sampleSheets inv).map Sheet.lines) (samplePdf inv).pages := by
  rw [samplePdf, List.forall₂_map_left_iff, List.forall₂_map_right_iff, List.forall₂_same]
  intro s hs
  obtain ⟨nonempty, whole, trimmed⟩ := plain s hs
  exact printedOn_plainPage nonempty whole trimmed

/-- A set of two lines, and one of one line with its price row before its ASIN. -/
def smallInvoice : Invoice :=
  let one : Digits := ⟨"1".toList, by decide, by decide⟩
  let orchid : ItemBlock := sampleBlock one (by decide) sampleAmount
  let castle : ItemBlock := { orchid with
    description := ["LEGO 10305 Castle".toList]
    described := by decide
    plain := by decide +kernel
    asin := ⟨"B09RWPR37V".toList, by decide, by decide⟩
    asinFirst := false }
  sampleInvoice orchid [castle]

theorem parseAmazonPurchaseInvoice_printed_sample :
    parseAmazonPurchaseInvoice (samplePdf smallInvoice) "hash" =
      .ok (smallInvoice.document "hash") :=
  parseAmazonPurchaseInvoice_printed smallInvoice (sampleSheets smallInvoice)
    (samplePdf smallInvoice) "hash" (sampleInvoice_laidOut ..)
    (samplePdf_printed smallInvoice (by decide +kernel)) (by decide +kernel) (by decide +kernel)

/-- A quantity above `2 ^ 53` and a line total above £2⁴⁵. -/
def largeInvoice : Invoice :=
  sampleInvoice (sampleBlock ⟨"9007199254740993".toList, by decide, by decide⟩ (by decide)
    ⟨⟨"35184372088832".toList, by decide, by decide⟩, "02".toList, by decide, by decide⟩) []

/-- Months are abbreviated, an inherited property is taken for a month, and binary64
numbers are not exact without bounds. -/
theorem parseAmazonPurchaseInvoice_inexact :
    largeInvoice.LaidOut (sampleSheets largeInvoice) ∧
      List.Forall₂ PrintedOn ((sampleSheets largeInvoice).map Sheet.lines)
        (samplePdf largeInvoice).pages ∧
      ∃ doc, parseAmazonPurchaseInvoice (samplePdf largeInvoice) "hash" = .ok doc ∧
        doc.sourceOrderDate ≠
          largeInvoice.orderDate.map (fun date => String.ofList date.text) ∧
        doc.items.map SourcePurchaseItem.quantity ≠
          largeInvoice.items.map (fun b => .finite b.row.quantity.value) ∧
        doc.originalGrossMerchandiseTotal ≠
          String.ofList (Number.fixedText 2 largeInvoice.totalPence) ∧
        InvoiceField.sourceOrderDate.read "Order date 17 constructor 2026".toList ≠
          some "17 constructor 2026".toList := by
  refine ⟨sampleInvoice_laidOut .., samplePdf_printed largeInvoice (by decide +kernel), ?_⟩
  have read : (parseAmazonPurchaseInvoice (samplePdf largeInvoice) "hash").toOption.map
      (fun doc => (doc.sourceOrderDate, doc.items.map SourcePurchaseItem.quantity,
        doc.originalGrossMerchandiseTotal)) =
      some (some "17 Jan 2026", [.finite 9007199254740992], "35184372088832.03") := by
    rw [parseAmazonPurchaseInvoice, samplePdf, List.foldlM_map]
    simp only [processPage_plainPage]
    decide +kernel
  cases parsed : parseAmazonPurchaseInvoice (samplePdf largeInvoice) "hash" with
  | error e =>
      rw [parsed] at read
      cases read
  | ok doc =>
      rw [parsed] at read
      obtain ⟨date, read⟩ := Prod.mk.inj (Option.some.inj read)
      obtain ⟨quantities, total⟩ := Prod.mk.inj read
      refine ⟨doc, rfl, ?_, ?_, ?_, by decide +kernel⟩
      · rw [date]
        decide +kernel
      · rw [quantities]
        decide +kernel
      · rw [total]
        decide +kernel

end ColorfulLife
