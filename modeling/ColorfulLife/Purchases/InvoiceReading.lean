/-
How the parser reads a printed invoice, line by line and page by page.

The rows of a page only concern the item being read, and its other lines only the
fields, so the items depend on the rows of all sheets together, wherever the
pages break (`foldlM_processPage`). A block of rows appends its item and leaves
nothing pending (`foldlM_readRow_block`).
-/

import ColorfulLife.Purchases.InvoiceLines

namespace ColorfulLife

open Binary64 Regex

/-! ### Items -/

section Rows

variable {content : TableContent} {items : List SourcePurchaseItem} {line : List Char}
  {p : PendingItem} {b : ItemBlock}

theorem readRow_plain (plain : isPlain line = true) : readRow content line =
    .ok { content with
      pending := some
        { content.pending.getD .empty with
          descriptionLines := (content.pending.getD .empty).descriptionLines ++ [line] } } := by
  obtain ⟨-, asin, price⟩ := IsRow.of_isPlain plain
  simp only [readRow, asin, price, Option.bind_none]

/-- Lines of a description are added to the item being read. -/
theorem foldlM_readRow_plain {lines : List (List Char)} (plain : ∀ l ∈ lines, isPlain l = true) :
    lines.foldlM readRow ⟨items, some p⟩ =
      .ok ⟨items, some { p with descriptionLines := p.descriptionLines ++ lines }⟩ := by
  induction lines generalizing p with
  | nil =>
      rw [List.append_nil]
      rfl
  | cons line lines ih =>
      have first : readRow ⟨items, some p⟩ line = _ :=
        readRow_plain (plain line List.mem_cons_self)
      have later := ih (p := { p with descriptionLines := p.descriptionLines ++ [line] })
        fun l hl => plain l (List.mem_cons_of_mem _ hl)
      rw [List.append_assoc] at later
      rw [List.foldlM_cons, first]
      exact later

theorem readRow_asinLine : readRow content b.asinLine =
    let pending := { content.pending.getD .empty with asin := some b.asin.text }
    if pending.price.isSome then finalizeItem { content with pending := some pending }
    else .ok { content with pending := some pending } := by
  simp only [readRow, b.captured_asinLine, trimChars_solid b.asin.isSpace]

theorem readRow_priceRow (small : b.row.quantity.value ≤ 2 ^ 53) : readRow content b.row.line =
    let pending :=
      { content.pending.getD .empty with
        quantity := some (.finite b.row.quantity.value)
        unitPrice := some b.row.unitPrice.text
        lineTotal := some b.row.lineTotal.text }
    if (givenChars pending.asin).isSome then finalizeItem { content with pending := some pending }
    else .ok { content with pending := some pending } := by
  obtain ⟨found, first, quantity, unitPrice, lineTotal⟩ := b.row.firstMatch_line
  have parsed : Number.parseInt b.row.quantity.text = .finite b.row.quantity.value := by
    rw [Number.parseInt_digits b.row.quantity.nonempty b.row.quantity.isDigit]
    exact Number.ofRat_natCast small
  simp only [readRow, b.row.not_asin, first, Option.bind_none, quantity, unitPrice, lineTotal,
    Option.map_some, parsed, trimChars_solid (Amount.solid _)]

/-- What has been read of a block before its item is complete. -/
def ItemBlock.pending (b : ItemBlock) : PendingItem where
  descriptionLines := b.description
  asin := some b.asin.text
  quantity := some (.finite b.row.quantity.value)
  unitPrice := some b.row.unitPrice.text
  lineTotal := some b.row.lineTotal.text

theorem ItemBlock.pending_price (b : ItemBlock) : b.pending.price =
    some (.finite b.row.quantity.value, b.row.unitPrice.text, b.row.lineTotal.text) := by
  have truthy : Number.truthy (.finite b.row.quantity.value) = true := by
    rw [Number.truthy, decide_eq_true_eq]
    exact_mod_cast b.row.positive.ne'
  rw [PendingItem.price, ItemBlock.pending, Option.filter_some, if_pos truthy,
    givenChars_some (Amount.text_ne_nil _), givenChars_some (Amount.text_ne_nil _)]
  rfl

theorem finalizeItem_pending
    (trimmed : ∀ line ∈ b.description, trimChars line = line ∧ line ≠ []) :
    finalizeItem ⟨items, some b.pending⟩ = .ok ⟨items ++ [b.item (items.length + 1)], none⟩ := by
  have asin : givenChars b.pending.asin = some b.asin.text := givenChars_some b.asin.nonempty
  have joined : trimChars ([' '].intercalate b.pending.descriptionLines) =
      [' '].intercalate b.description := trimChars_intercalate trimmed
  simp only [finalizeItem, asin, b.pending_price, joined, ItemBlock.item]

/-- The rows of a block append its item and leave nothing pending. -/
theorem foldlM_readRow_block (small : b.row.quantity.value ≤ 2 ^ 53)
    (trimmed : ∀ line ∈ b.description, trimChars line = line ∧ line ≠ []) :
    b.lines.foldlM readRow ⟨items, none⟩ = .ok ⟨items ++ [b.item (items.length + 1)], none⟩ := by
  have described : b.description.foldlM readRow ⟨items, none⟩ =
      .ok ⟨items, some { PendingItem.empty with descriptionLines := b.description }⟩ := by
    obtain ⟨line, lines, shown⟩ := List.exists_cons_of_ne_nil b.described
    have plain := b.plain
    rw [shown] at plain ⊢
    rw [List.foldlM_cons, readRow_plain (plain line List.mem_cons_self)]
    exact foldlM_readRow_plain fun l hl => plain l (List.mem_cons_of_mem _ hl)
  rw [ItemBlock.lines, List.foldlM_append, described]
  cases order : b.asinFirst with
  | true =>
      have asin : readRow ⟨items, some { PendingItem.empty with descriptionLines := b.description }⟩
          b.asinLine = .ok ⟨items, some { PendingItem.empty with
            descriptionLines := b.description, asin := some b.asin.text }⟩ := by
        rw [readRow_asinLine]
        rfl
      have price : readRow ⟨items, some { PendingItem.empty with
          descriptionLines := b.description, asin := some b.asin.text }⟩ b.row.line =
          finalizeItem ⟨items, some b.pending⟩ := by
        have given : (givenChars b.pending.asin).isSome = true := by
          rw [ItemBlock.pending, givenChars_some b.asin.nonempty]
          rfl
        rw [readRow_priceRow small]
        exact if_pos given
      change [b.asinLine, b.row.line].foldlM readRow _ = _
      rw [List.foldlM_cons, asin]
      change [b.row.line].foldlM readRow _ = _
      rw [List.foldlM_cons, price, finalizeItem_pending trimmed]
      rfl
  | false =>
      have price : readRow ⟨items, some { PendingItem.empty with descriptionLines := b.description }⟩
          b.row.line = .ok ⟨items, some { b.pending with asin := none }⟩ := by
        rw [readRow_priceRow small]
        rfl
      have asin : readRow ⟨items, some { b.pending with asin := none }⟩ b.asinLine =
          finalizeItem ⟨items, some b.pending⟩ := by
        have complete : b.pending.price.isSome = true := by
          rw [b.pending_price]
          rfl
        rw [readRow_asinLine]
        exact if_pos complete
      change [b.row.line, b.asinLine].foldlM readRow _ = _
      rw [List.foldlM_cons, price]
      change [b.asinLine].foldlM readRow _ = _
      rw [List.foldlM_cons, asin, finalizeItem_pending trimmed]
      rfl

/-- The rows of a list of blocks append their items. -/
theorem foldlM_readRow_blocks {blocks : List ItemBlock} (items : List SourcePurchaseItem)
    (small : ∀ b ∈ blocks, b.row.quantity.value ≤ 2 ^ 53)
    (trimmed : ∀ b ∈ blocks, ∀ line ∈ b.description, trimChars line = line ∧ line ≠ []) :
    (blocks.flatMap ItemBlock.lines).foldlM readRow ⟨items, none⟩ =
      .ok ⟨items ++ blocks.mapIdx fun i b => b.item (items.length + i + 1), none⟩ := by
  induction blocks generalizing items with
  | nil =>
      rw [List.mapIdx_nil, List.append_nil]
      rfl
  | cons b blocks ih =>
      have first : b.lines.foldlM readRow ⟨items, none⟩ = _ :=
        foldlM_readRow_block (small b List.mem_cons_self) (trimmed b List.mem_cons_self)
      have later := ih (items ++ [b.item (items.length + 1)])
        (fun b hb => small b (List.mem_cons_of_mem _ hb))
        fun b hb => trimmed b (List.mem_cons_of_mem _ hb)
      have numbers : ∀ i, (items ++ [b.item (items.length + 1)]).length + i + 1 =
          items.length + (i + 1) + 1 := fun i => by
        rw [List.length_append, List.length_singleton]
        omega
      simp only [numbers, List.append_assoc, List.singleton_append] at later
      rw [List.flatMap_cons, List.foldlM_append, first, List.mapIdx_cons]
      exact later

end Rows

/-! ### Lines -/

section Lines

variable {st : InvoiceState} {line : List Char} {n : Nat} {m : Marker} {ms : List Marker}

theorem collect_silent {collected : Collected} (silent : Silent line) :
    collect collected line = collected := by
  funext f
  rw [collect, silent f, Option.none_or, ite_self]

/-- The fields after the line of a marker. -/
def Collected.mark (collected : Collected) (m : Marker) : Collected := collect collected m.line

/-- The state after the lines of markers. -/
def InvoiceState.mark (st : InvoiceState) (ms : List Marker) : InvoiceState :=
  { st with collected := ms.foldl Collected.mark st.collected }

theorem InvoiceState.mark_append (st : InvoiceState) (ms ms' : List Marker) :
    st.mark (ms ++ ms') = (st.mark ms).mark ms' := by
  rw [mark, List.foldl_append]
  rfl

/-- Markers outside the table only concern the fields. -/
theorem foldlM_processLine_markers (st : InvoiceState) (ms : List Marker) :
    (ms.map Marker.line).foldlM processLine (.outside, st) = .ok (.outside, st.mark ms) := by
  induction ms generalizing st with
  | nil => rfl
  | cons m ms ih =>
      have first : processLine (.outside, st) m.line = .ok (.outside, st.mark [m]) := by
        rw [processLine, if_neg (by rw [m.not_tableHeader]; decide)]
        rfl
      rw [List.map_cons, List.foldlM_cons, first]
      exact ih (st.mark [m])

theorem processLine_header (silent : Silent line) :
    processLine (.inside (n + 1), st) line = .ok (.inside n, st) := by
  rw [processLine, collect_silent silent]

/-- The table header opens the table. -/
theorem foldlM_processLine_tableHeader :
    tableHeader.foldlM processLine (.outside, st) = .ok (.inside 0, st) := by
  have opens : processLine (.outside, st) "Description Qty Unit price".toList =
      .ok (.inside 5, st) := by
    have header : test tableHeaderFirstLineRe "Description Qty Unit price".toList = true := by
      decide +kernel
    rw [processLine, if_pos header, collect_silent (silent_tableHeader _ (by decide))]
  have skips : ∀ (lines : List (List Char)), (∀ l ∈ lines, Silent l) →
      lines.foldlM processLine (.inside lines.length, st) = .ok (.inside 0, st) := by
    intro lines silent
    induction lines with
    | nil => rfl
    | cons line lines ih =>
        rw [List.length_cons, List.foldlM_cons, processLine_header (silent line List.mem_cons_self)]
        exact ih fun l hl => silent l (List.mem_cons_of_mem _ hl)
  rw [tableHeader, List.map_cons, List.foldlM_cons, opens]
  exact skips _ fun l hl => silent_tableHeader l (List.mem_cons_of_mem _ hl)

/-- Rows only concern the item that is being read. -/
theorem foldlM_processLine_rows (st : InvoiceState) {rows : List (List Char)}
    (isRow : ∀ l ∈ rows, IsRow l) :
    rows.foldlM processLine (.inside 0, st) =
      (rows.foldlM readRow st.content).map fun content =>
        (.inside 0, { st with content := content }) := by
  induction rows generalizing st with
  | nil => rfl
  | cons line rows ih =>
      have row := isRow line List.mem_cons_self
      have first : processLine (.inside 0, st) line = (readRow st.content line).map fun content =>
          (.inside 0, { st with content := content }) := by
        rw [processLine, collect_silent row.silent, row.within]
        rfl
      have later := fun st => ih st fun l hl => isRow l (List.mem_cons_of_mem _ hl)
      rw [List.foldlM_cons, List.foldlM_cons, first]
      cases readRow st.content line with
      | error e => rfl
      | ok content => exact later _

/-- The rows below the table end it, unless an item is incomplete. -/
theorem foldlM_processLine_bottom (st : InvoiceState) (summary : ∀ m ∈ ms, m.isSummary = true)
    (ended : ms ≠ [] → st.content.pending = none) :
    ∃ state, (ms.map Marker.line).foldlM processLine (.inside 0, st) = .ok (state, st.mark ms) := by
  cases ms with
  | nil => exact ⟨_, rfl⟩
  | cons m ms =>
      have ends : processLine (.inside 0, st) m.line = .ok (.outside, st.mark [m]) := by
        rw [processLine, Marker.footer (summary m List.mem_cons_self),
          ended (List.cons_ne_nil _ _)]
        rfl
      refine ⟨.outside, ?_⟩
      rw [List.map_cons, List.foldlM_cons, ends]
      exact foldlM_processLine_markers (st.mark [m]) ms

end Lines

/-! ### Pages -/

theorem Sheet.mem_lines_of_tableRows {line : List Char} (s : Sheet) (row : line ∈ s.tableRows) :
    line ∈ s.lines := by
  rw [tableRows] at row
  rw [lines]
  cases table : s.rows with
  | none =>
      rw [table] at row
      cases row
  | some rows =>
      rw [table] at row
      exact List.mem_append_left _ (List.mem_append_right _ (List.mem_append_right _ row))

section Pages

variable {st : InvoiceState} {content : TableContent} {s : Sheet} {sheets : List Sheet}
  {page : PageText} {pages : List PageText}

/-- What a sheet does: its markers are collected, its rows are read. -/
theorem foldlM_processLine_sheet (isRow : ∀ line ∈ s.tableRows, IsRow line)
    (summary : ∀ m ∈ s.bottom, m.isSummary = true)
    (read : s.tableRows.foldlM readRow st.content = .ok content)
    (ended : s.rows ≠ none → s.bottom ≠ [] → content.pending = none) :
    ∃ state, s.lines.foldlM processLine (.outside, st) =
      .ok (state, { st.mark s.markers with content := content }) := by
  rw [Sheet.lines, Sheet.markers, st.mark_append, List.foldlM_append, List.foldlM_append,
    foldlM_processLine_markers]
  cases table : s.rows with
  | none =>
      rw [Sheet.tableRows, table] at read
      have same : content = st.content := (Except.ok.inj read).symm
      rw [same]
      exact ⟨.outside, foldlM_processLine_markers (st.mark s.top) s.bottom⟩
  | some rows =>
      rw [Sheet.tableRows, table, Option.getD_some] at read isRow
      have below : (tableHeader ++ rows).foldlM processLine (.outside, st.mark s.top) =
          .ok (.inside 0, { st.mark s.top with content := content }) := by
        rw [List.foldlM_append, foldlM_processLine_tableHeader]
        refine (foldlM_processLine_rows _ isRow).trans ?_
        exact congrArg (Except.map _) read
      obtain ⟨state, closed⟩ := foldlM_processLine_bottom { st.mark s.top with content := content }
        summary (ended (by rw [table]; exact Option.some_ne_none rows))
      refine ⟨state, ?_⟩
      change ((tableHeader ++ rows).foldlM processLine (.outside, st.mark s.top)).bind _ = _
      rw [below]
      exact closed

theorem processPage_printed (printed : PrintedOn s.lines page)
    (isRow : ∀ line ∈ s.tableRows, IsRow line) (summary : ∀ m ∈ s.bottom, m.isSummary = true)
    (read : s.tableRows.foldlM readRow st.content = .ok content)
    (ended : s.rows ≠ none → s.bottom ≠ [] → content.pending = none) :
    processPage st page = .ok { st.mark s.markers with content := content } := by
  obtain ⟨printed, nonempty, whole, text, lines⟩ := printed
  obtain ⟨state, processed⟩ := foldlM_processLine_sheet isRow summary read ended
  rw [processPage, text, pageLines_printed nonempty whole, lines, processed]
  rfl

/-- What a document does: the markers of all sheets are collected, and the rows of
all sheets are read as those of one table. -/
theorem foldlM_processPage (st : InvoiceState)
    (printed : List.Forall₂ (fun s page => PrintedOn s.lines page) sheets pages)
    (isRow : ∀ line ∈ sheets.flatMap Sheet.tableRows, IsRow line)
    (summary : ∀ s ∈ sheets, ∀ m ∈ s.bottom, m.isSummary = true)
    (last : sheets.Pairwise fun s later => s.bottom ≠ [] → later.rows = none)
    (read : (sheets.flatMap Sheet.tableRows).foldlM readRow st.content = .ok content)
    (ended : content.pending = none) :
    pages.foldlM processPage st =
      .ok { st.mark (sheets.flatMap Sheet.markers) with content := content } := by
  induction printed generalizing st with
  | nil =>
      have same : st.content = content := Except.ok.inj read
      rw [← same]
      rfl
  | @cons s page sheets pages first others ih =>
      rw [List.flatMap_cons, List.foldlM_append] at read
      obtain ⟨between, readFirst, readOthers⟩ : ∃ between,
          s.tableRows.foldlM readRow st.content = .ok between ∧
          (sheets.flatMap Sheet.tableRows).foldlM readRow between = .ok content := by
        cases here : s.tableRows.foldlM readRow st.content with
        | error e =>
            rw [here] at read
            cases read
        | ok between =>
            rw [here] at read
            exact ⟨between, rfl, read⟩
      obtain ⟨lastFirst, lastOthers⟩ := List.pairwise_cons.mp last
      -- a table that ends on this sheet has no rows on a later one
      have closed : s.rows ≠ none → s.bottom ≠ [] → between.pending = none := by
        intro _ bottom
        have noRows : sheets.flatMap Sheet.tableRows = [] := by
          refine List.flatMap_eq_nil_iff.mpr fun later hlater => ?_
          rw [Sheet.tableRows, lastFirst later hlater bottom]
          rfl
        rw [noRows] at readOthers
        rw [Except.ok.inj readOthers]
        exact ended
      have rowsFirst : ∀ line ∈ s.tableRows, IsRow line := fun line hl =>
        isRow line (List.mem_append_left _ hl)
      have pageFirst := processPage_printed first rowsFirst (summary s List.mem_cons_self) readFirst
        closed
      have pagesOthers := ih { st.mark s.markers with content := between }
        (fun line hl => isRow line (List.mem_append_right _ hl))
        (fun s hs => summary s (List.mem_cons_of_mem _ hs)) lastOthers readOthers
      rw [List.foldlM_cons, pageFirst, List.flatMap_cons, st.mark_append]
      exact pagesOthers

end Pages

end ColorfulLife
