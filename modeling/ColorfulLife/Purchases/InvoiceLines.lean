/-
What the parser makes of the lines of a printed invoice.

A page shows its lines trimmed and without the blank ones. Every line of an
invoice starts with a text that no other pattern starts with, so a marker is read
for its own field only, a row of the table for none, and the title of a summary
row ends the table.
-/

import ColorfulLife.Purchases.PrintedInvoice

namespace ColorfulLife

open Binary64 Regex

/-! ### Trimming -/

theorem toList_trim (s : String) : (trim s).toList = trimChars s.toList := by
  rw [trim, String.toList_ofList, trimChars, List.rdropWhile]

theorem trimChars_trimChars (text : List Char) : trimChars (trimChars text) = trimChars text := by
  have again := congrArg String.toList (trim_trim (String.ofList text))
  rwa [toList_trim, toList_trim, String.toList_ofList] at again

/-- A text is trimmed when it neither starts nor ends with white space. -/
theorem trimChars_eq_self_iff {text : List Char} : trimChars text = text ↔
    (∀ c ∈ text.head?, isSpace c = false) ∧ (∀ c ∈ text.getLast?, isSpace c = false) := by
  have front : ∀ l : List Char, l.dropWhile isSpace = l ↔ ∀ c ∈ l.head?, isSpace c = false := by
    intro l
    cases l with
    | nil => simp
    | cons c l =>
        cases blank : isSpace c with
        | false => simp [blank]
        | true =>
            have shorter := (List.dropWhile_suffix (l := l) isSpace).length_le
            have differ : l.dropWhile isSpace ≠ c :: l := fun same => by
              rw [same, List.length_cons] at shorter
              omega
            simp [blank, differ]
  have back : ∀ l : List Char, l.rdropWhile isSpace = l ↔ ∀ c ∈ l.getLast?, isSpace c = false := by
    intro l
    rw [List.rdropWhile, List.reverse_eq_iff, front, List.head?_reverse]
  rw [← front, ← back]
  constructor
  · intro trimmed
    have prefix_ := List.rdropWhile_prefix isSpace (text.dropWhile isSpace)
    have suffix_ := List.dropWhile_suffix (l := text) isSpace
    have long : text.length ≤ (text.dropWhile isSpace).length := by
      have shorter := prefix_.length_le
      rwa [← trimChars, trimmed] at shorter
    have kept : text.dropWhile isSpace = text := suffix_.eq_of_length_le long
    refine ⟨kept, ?_⟩
    rwa [trimChars, kept] at trimmed
  · rintro ⟨front, back⟩
    rw [trimChars, front, back]

theorem trimChars_solid {text : List Char} (solid : ∀ c ∈ text, isSpace c = false) :
    trimChars text = text :=
  trimChars_eq_self_iff.mpr
    ⟨fun c hc => solid c (List.mem_of_mem_head? hc), fun c hc => solid c (List.mem_of_getLast? hc)⟩

/-- White space around a text is what trimming takes away. -/
theorem trimChars_surrounded {before text after : List Char} (nonempty : text ≠ [])
    (trimmed : trimChars text = text) (blank : ∀ c ∈ before ++ after, isSpace c = true) :
    trimChars (before ++ text ++ after) = text := by
  obtain ⟨c, rest, rfl⟩ := List.exists_cons_of_ne_nil nonempty
  have solid := Bool.eq_false_iff.mp ((trimChars_eq_self_iff.mp trimmed).1 c rfl)
  have first : (before ++ c :: rest ++ after).dropWhile isSpace = c :: rest ++ after := by
    rw [List.append_assoc,
      List.dropWhile_append_of_pos fun d mem => blank d (List.mem_append_left after mem)]
    exact List.dropWhile_cons_of_neg solid
  have last : (c :: rest ++ after).rdropWhile isSpace = (c :: rest).rdropWhile isSpace := by
    rw [List.rdropWhile, List.rdropWhile, List.reverse_append,
      List.dropWhile_append_of_pos fun d mem =>
        blank d (List.mem_append_right before (List.mem_reverse.mp mem))]
  rw [trimChars, List.dropWhile_cons_of_neg solid] at trimmed
  rw [trimChars, first, last, trimmed]

/-- Trimmed lines joined by spaces are trimmed. -/
theorem trimChars_intercalate {lines : List (List Char)}
    (trimmed : ∀ line ∈ lines, trimChars line = line ∧ line ≠ []) :
    trimChars ([' '].intercalate lines) = [' '].intercalate lines := by
  induction lines with
  | nil => rfl
  | cons line lines ih =>
      obtain ⟨own, nonempty⟩ := trimmed line List.mem_cons_self
      cases lines with
      | nil => rwa [List.intercalate_singleton]
      | cons next lines =>
          have others := ih fun l hl => trimmed l (List.mem_cons_of_mem _ hl)
          have shown : [' '].intercalate (next :: lines) ≠ [] := by
            have given := (trimmed next (by simp)).2
            cases lines <;> simp [given]
          rw [List.intercalate_cons_cons, trimChars_eq_self_iff]
          rw [trimChars_eq_self_iff] at own others
          constructor
          · rw [List.append_assoc, List.head?_append_of_ne_nil _ nonempty]
            exact own.1
          · rw [List.getLast?_append_of_ne_nil _ shown]
            exact others.2

/-! ### The lines of a page -/

theorem trimChars_withoutCarriage (piece : List Char) :
    trimChars (withoutCarriage piece) = trimChars piece := by
  rw [withoutCarriage]
  split
  · rename_i carriage
    obtain ⟨text, rfl⟩ := List.getLast?_eq_some_iff.mp carriage
    have blank : isSpace '\r' = true := by decide
    rw [List.dropLast_concat, trimChars, trimChars, List.dropWhile_append]
    cases front : text.dropWhile isSpace with
    | nil => simp [blank]
    | cons c rest => exact (List.rdropWhile_concat_pos _ _ _ blank).symm
  · rfl

theorem pageLines_printed {printed : List (List Char)} (nonempty : printed ≠ [])
    (whole : ∀ line ∈ printed, '\n' ∉ line) :
    pageLines (['\n'].intercalate printed) =
      (printed.map trimChars).filter (decide <| · ≠ []) := by
  have pieces : (['\n'].intercalate printed).splitOn '\n' = printed :=
    List.splitOn_intercalate '\n' whole nonempty
  have kept : printed.dropLast ++ printed.getLast?.toList = printed := by
    rw [List.getLast?_eq_some_getLast nonempty]
    exact List.dropLast_append_getLast nonempty
  have trimmed : (splitLines (['\n'].intercalate printed)).map trimChars =
      printed.map trimChars := by
    rw [splitLines, pieces, List.map_append, List.map_map,
      show trimChars ∘ withoutCarriage = trimChars from funext trimChars_withoutCarriage,
      ← List.map_append, kept]
  rw [pageLines, trimmed]

/-! ### Characters -/

theorem mem_digits {c : Char} (digit : c.isDigit = true) : c ∈ "0123456789".toList := by
  have all : ∀ n < 58, 48 ≤ n → Char.ofNat n ∈ "0123456789".toList := by decide
  obtain ⟨low, high⟩ := Char.isDigit_iff_toNat.mp digit
  rw [← Char.ofNat_toNat c]
  exact all c.toNat (Nat.lt_succ_of_le high) low

/-- What holds of the ten digits. -/
theorem forall_digit {p : Char → Bool} (all : "0123456789".toList.all p = true) {c : Char}
    (digit : c.isDigit = true) : p c = true :=
  List.all_eq_true.mp all c (mem_digits digit)

theorem isSpace_digit {c : Char} (digit : c.isDigit = true) : isSpace c = false := by
  have solid := forall_digit (p := fun d => !isSpace d) (by decide) digit
  rwa [Bool.not_eq_true'] at solid

theorem canonicalize_digit {c : Char} (digit : c.isDigit = true) : canonicalize c = c :=
  of_decide_eq_true (forall_digit (p := fun d => decide (canonicalize d = d)) (by decide) digit)

theorem canonicalize_pound {c : Char} : canonicalize c = canonicalize '£' ↔ c = '£' := by
  refine ⟨fun same => ?_, fun same => congrArg canonicalize same⟩
  change c.toUpper = '£' at same
  unfold Char.toUpper at same
  split at same
  · have value := congrArg Char.val same
    grind
  · exact same

theorem moneyChar_digit {c : Char} (digit : c.isDigit = true) : moneyChar c = true := by
  rw [moneyChar, digit, Bool.true_or]

theorem isSpace_moneyChar {c : Char} (money : moneyChar c = true) : isSpace c = false := by
  rw [moneyChar, Bool.or_eq_true, decide_eq_true_eq] at money
  rcases money with digit | rfl
  · exact isSpace_digit digit
  · decide

theorem canonicalize_moneyChar {c : Char} (money : moneyChar c = true) :
    canonicalize c ≠ canonicalize '-' := by
  rw [moneyChar, Bool.or_eq_true, decide_eq_true_eq] at money
  rcases money with digit | rfl
  · rw [canonicalize_digit digit]
    rintro rfl
    cases digit
  · decide

/-- White space ends an amount. -/
theorem moneyChar_space {c : Char} (blank : isSpace c = true) : moneyChar c = false := by
  by_contra money
  rw [isSpace_moneyChar (Bool.eq_true_of_not_eq_false money)] at blank
  cases blank

theorem isDigit_space {c : Char} (blank : isSpace c = true) : c.isDigit = false := by
  by_contra digit
  rw [isSpace_digit (Bool.eq_true_of_not_eq_false digit)] at blank
  cases blank

/-! ### Values -/

theorem givenChars_some {text : List Char} (nonempty : text ≠ []) :
    givenChars (some text) = some text := by
  rw [givenChars, Option.filter_some, if_pos (decide_eq_true nonempty)]

theorem Digits.isDigit (d : Digits) : ∀ c ∈ d.text, c.isDigit = true :=
  List.all_eq_true.mp d.digits

theorem Digits.head_digit (d : Digits) (rest : List Char) :
    ∀ c ∈ (d.text ++ rest).head?, c.isDigit = true := by
  rw [List.head?_append_of_ne_nil _ d.nonempty]
  exact fun c hc => d.isDigit c (List.mem_of_mem_head? hc)

theorem Gap.isSpace (gap : Gap) : ∀ c ∈ gap.text, isSpace c = true :=
  List.all_eq_true.mp gap.blank

theorem Gap.head_blank (gap : Gap) (rest : List Char) :
    ∀ c ∈ (gap.text ++ rest).head?, ColorfulLife.isSpace c = true := by
  rw [List.head?_append_of_ne_nil _ gap.nonempty]
  exact fun c hc => gap.isSpace c (List.mem_of_mem_head? hc)

theorem Token.isSpace (t : Token) : ∀ c ∈ t.text, isSpace c = false := fun c hc => by
  have solid := List.all_eq_true.mp t.solid c hc
  rwa [Bool.not_eq_true'] at solid

namespace Amount

variable (a : Amount)

theorem moneyChar_text : ∀ c ∈ a.text, moneyChar c = true := by
  intro c hc
  rcases List.mem_append.mp hc with pound | decimal
  · exact moneyChar_digit (a.pounds.isDigit c pound)
  · split at decimal
    · cases decimal
    · rcases List.mem_cons.mp decimal with rfl | decimal
      · rfl
      · exact moneyChar_digit (List.all_eq_true.mp a.digits c decimal)

theorem solid : ∀ c ∈ a.text, isSpace c = false := fun c hc =>
  isSpace_moneyChar (a.moneyChar_text c hc)

theorem text_ne_nil : a.text ≠ [] := by
  rw [text]
  exact List.append_ne_nil_of_left_ne_nil a.pounds.nonempty _

theorem pound_notMem : '£' ∉ a.text := fun pound => by
  have money := a.moneyChar_text '£' pound
  exact absurd money (by decide)

end Amount

theorem FieldText.dot_text (t : FieldText) : ∀ c ∈ t.text, dot c = true :=
  List.all_eq_true.mp t.oneLine

/-- The date of a field is read with its month abbreviated. -/
theorem DateText.normalizeMonthName_text (t : DateText) :
    normalizeMonthName t.text = abbreviateMonth t.text := by
  have whole : [' '].intercalate (t.text.splitOn ' ') = t.text := List.intercalate_splitOn ' '
  have own := t.ownMonth
  rw [middleWord] at own
  rw [normalizeMonthName, abbreviateMonth, t.trimmed]
  generalize t.text.splitOn ' ' = parts at whole own ⊢
  rcases parts with _ | ⟨day, _ | ⟨month, _ | ⟨year, _ | ⟨_, _⟩⟩⟩⟩
  case cons.cons.cons.nil =>
    have inherited : objectPrototype.lookup month = none := by
      refine List.lookup_eq_none_iff.mpr fun e he => ?_
      have other : month ≠ e.1 := fun same =>
        own month rfl (List.mem_map.mpr ⟨e, he, same.symm⟩)
      simpa using other
    have own_ : (monthMap ++ objectPrototype).lookup month = monthMap.lookup month := by
      rw [List.lookup_append, inherited, Option.or_none]
    dsimp only
    rw [own_]
    cases monthMap.lookup month with
    | none => exact whole.symm
    | some abbreviation => simp [List.intercalate_cons_cons]
  all_goals rfl

theorem FieldText.abbreviateMonth_ne_nil (t : FieldText) : abbreviateMonth t.text ≠ [] := by
  rw [abbreviateMonth]
  split
  · simp [List.intercalate_cons_cons]
  · exact t.nonempty

/-! ### Titles -/

namespace InvoiceField

theorem pattern_eq (f : InvoiceField) : ∃ rs, f.pattern = concat (.start :: text f.title :: rs) := by
  cases f <;> exact ⟨_, rfl⟩

/-- No two titles start alike. -/
theorem title_clash {f g : InvoiceField} (differ : f ≠ g) : clash f.title g.title = true := by
  revert differ
  cases f <;> cases g <;> decide

/-- A line that starts otherwise says nothing about the field. -/
theorem read_clash {f : InvoiceField} {start rest : List Char}
    (differ : clash f.title start = true) : f.read (start ++ rest) = none := by
  obtain ⟨rs, same⟩ := f.pattern_eq
  rw [read, same, firstMatch_clash differ]
  rfl

/-- A field that is the rest of its line. -/
theorem read_rest {f : InvoiceField} {accepts : Char → Bool} {rest : List Char}
    (pattern : f.pattern = concat [.start, text f.title, .group 1 (plus accepts), .stop])
    (group : f.group = 1) (nonempty : rest ≠ []) (all : ∀ c ∈ rest, accepts c = true) :
    f.read (f.title ++ rest) = some (f.value rest) := by
  have captured : Leads (concat [.group 1 (plus accepts), .stop]) ⟨f.title.reverse, rest, []⟩
      ⟨rest.reverse ++ f.title.reverse, [], [(1, rest)]⟩ :=
    Leads.cons (Leads.group_all (leads_plus_all nonempty all))
      (Leads.cons leads_stop leads_concat_nil)
  rw [read, pattern, group, firstMatch_text captured]
  rfl

end InvoiceField

/-! ### Summary rows -/

theorem countP_pound {xs : List Char} (free : '£' ∉ xs) :
    (xs.countP fun d => decide (canonicalize d = canonicalize '£')) = 0 := by
  refine List.countP_eq_zero.mpr fun d hd same => ?_
  rw [canonicalize_pound.mp (of_decide_eq_true same)] at hd
  exact free hd

namespace Filler

variable (f : Filler)

theorem dot_text : ∀ d ∈ f.text ++ ['£'], dot d = true := by
  intro d hd
  rcases List.mem_append.mp hd with inside | sign
  · exact List.all_eq_true.mp f.oneLine d inside
  · rw [List.mem_singleton.mp sign]
    rfl

theorem pound_absent : ∀ d ∈ f.text, canonicalize d ≠ canonicalize '£' := fun d hd same => by
  rw [canonicalize_pound.mp same] at hd
  exact f.noPound hd

theorem ends_amount (rest : List Char) :
    ∀ c ∈ (f.text ++ '£' :: rest).head?, moneyChar c = false := by
  intro c hc
  cases shown : f.text with
  | nil =>
      rw [shown] at hc
      cases hc
      decide
  | cons d ds =>
      rw [shown] at hc
      have apart := f.apart
      rw [shown] at apart
      cases hc
      simpa using apart

end Filler

/-- The last amount of a row is the one behind its last sign. -/
theorem SummaryRow.captured_gross (row : SummaryRow) (title : String) (last : Expr)
    (sign : List Char) (signed : (if row.signed then ['-'] else []) = sign) (noPound : '£' ∉ sign)
    (leads : ∀ b g, Leads last ⟨b, sign ++ row.gross.text, g⟩
      ⟨(sign ++ row.gross.text).reverse ++ b, [], g⟩) :
    (firstMatch (summaryRow title last) (title.toList ++ row.text)).bind (·.group? 3) =
      some (sign ++ row.gross.text) := by
  have freeLast : '£' ∉ sign ++ row.gross.text := fun pound =>
    (List.mem_append.mp pound).elim noPound row.gross.pound_notMem
  have amounts : ∀ (a : Amount) (f : Filler) (i : Nat) b rest g,
      Leads (.group i (plus moneyChar)) ⟨b, a.text ++ (f.text ++ '£' :: rest), g⟩
        ⟨a.text.reverse ++ b, f.text ++ '£' :: rest, (i, a.text) :: g⟩ := fun a f i b rest g =>
    Leads.group (leads_plus a.text_ne_nil a.moneyChar_text (f.ends_amount rest))
  have lead : ∃ b, Leads (concat
      [star dot, letter '£', .group 1 (plus moneyChar), star dot, letter '£',
        .group 2 (plus moneyChar), star dot, letter '£', .group 3 last])
      ⟨title.toList.reverse, row.text, []⟩
      ⟨b, [], [(3, sign ++ row.gross.text), (2, row.tax.text), (1, row.net.text)]⟩ := by
    rw [SummaryRow.text, signed]
    -- the signs still to come are as many as the rest of the pattern needs
    constructor
    refine leads_star_letter row.beforeNet.dot_text row.beforeNet.pound_absent
      (spends_zero.seq (spends_zero.seq (spends_letter.seq (spends_zero.seq (spends_zero.seq
        (spends_letter.seq spends_zero)))))) ?_ (Leads.cons (amounts _ _ _ _ _ _) ?_)
    · simp [countP_pound, noPound, Amount.pound_notMem, Filler.noPound]
    refine leads_star_letter row.beforeTax.dot_text row.beforeTax.pound_absent
      (spends_zero.seq (spends_zero.seq (spends_letter.seq spends_zero))) ?_
      (Leads.cons (amounts _ _ _ _ _ _) ?_)
    · simp [countP_pound, noPound, Amount.pound_notMem, Filler.noPound]
    exact leads_star_letter row.beforeGross.dot_text row.beforeGross.pound_absent spends_zero
      (countP_pound freeLast).le (Leads.cons (Leads.group_all (leads _ _)) leads_concat_nil)
  obtain ⟨b, lead⟩ := lead
  rw [summaryRow, firstMatch_text lead]
  rfl

theorem SummaryRow.captured_discount (row : SummaryRow) :
    (firstMatch promotionsRe ("Promotions".toList ++ row.text)).bind (·.group? 3) =
      some ((if row.signed then ['-'] else []) ++ row.gross.text) := by
  have amount : ∀ b g, Leads (plus moneyChar) ⟨b, row.gross.text, g⟩
      ⟨row.gross.text.reverse ++ b, [], g⟩ := fun b g =>
    leads_plus_all row.gross.text_ne_nil row.gross.moneyChar_text
  refine row.captured_gross "Promotions" (.seq (.many (some 1) (letter '-')) (plus moneyChar)) _
    rfl ?_ fun b g => ?_
  · cases row.signed <;> decide
  · cases row.signed with
    | true =>
        rw [if_pos rfl, List.reverse_append, List.append_assoc]
        exact Leads.seq leads_optional (amount ('-' :: b) g)
    | false =>
        obtain ⟨d, rest, shown⟩ := List.exists_cons_of_ne_nil row.gross.text_ne_nil
        have money := row.gross.moneyChar_text d (by rw [shown]; exact List.mem_cons_self)
        rw [if_neg (by decide), List.nil_append]
        refine Leads.seq ?_ (amount b g)
        rw [shown]
        exact leads_optional_skip (canonicalize_moneyChar money)

/-- A discount is read without its sign. -/
theorem InvoiceField.value_discount (signed : Bool) (a : Amount) :
    InvoiceField.value .discountTotal ((if signed then ['-'] else []) ++ a.text) = a.text := by
  cases signed with
  | true =>
      have solid : trimChars ('-' :: a.text) = '-' :: a.text :=
        trimChars_solid fun c hc =>
          (List.mem_cons.mp hc).elim (fun same => by rw [same]; decide) (a.solid c)
      rw [if_pos rfl, List.singleton_append, value, solid]
      rfl
  | false =>
      obtain ⟨d, rest, shown⟩ := List.exists_cons_of_ne_nil a.text_ne_nil
      have money := a.moneyChar_text d (by rw [shown]; exact List.mem_cons_self)
      have unsigned : d ≠ '-' := fun same => canonicalize_moneyChar money (by rw [same])
      rw [if_neg (by decide), List.nil_append, value, trimChars_solid a.solid, shown]
      split
      · rename_i same
        exact absurd (List.cons.inj same).1 unsigned
      · rfl

/-! ### Markers -/

namespace Marker

variable (m : Marker)

theorem value_ne_nil : m.value ≠ [] := by
  cases m with
  | orderReference reference | merchant reference | invoiceReference reference =>
      exact reference.nonempty
  | orderDate date | invoiceDate date => exact date.abbreviateMonth_ne_nil
  | invoiceTotal total => exact total.text_ne_nil
  | shippingCharges row _ | promotions row => exact row.gross.text_ne_nil

/-- A line is read for its own field. -/
theorem read_line : m.field.read m.line = some m.value := by
  cases m with
  | orderReference reference | merchant reference | invoiceReference reference =>
      refine (InvoiceField.read_rest rfl rfl reference.nonempty reference.dot_text).trans ?_
      exact congrArg some reference.trimmed
  | orderDate date | invoiceDate date =>
      refine (InvoiceField.read_rest rfl rfl date.nonempty date.dot_text).trans (congrArg some ?_)
      change normalizeMonthName (trimChars date.text) = _
      rw [date.trimmed, date.normalizeMonthName_text]
      rfl
  | invoiceTotal total =>
      refine (InvoiceField.read_rest rfl rfl total.text_ne_nil total.moneyChar_text).trans ?_
      exact congrArg some (trimChars_solid total.solid)
  | shippingCharges row unsigned =>
      have captured := row.captured_gross "Shipping Charges" (plus moneyChar) []
        (by rw [unsigned]; rfl) nofun fun b g =>
          leads_plus_all row.gross.text_ne_nil row.gross.moneyChar_text
      refine (congrArg (Option.map _) captured).trans ?_
      exact congrArg some (trimChars_solid row.gross.solid)
  | promotions row =>
      refine (congrArg (Option.map _) row.captured_discount).trans ?_
      exact congrArg some (InvoiceField.value_discount row.signed row.gross)

/-- It is read for no other. -/
theorem read_line_other {f : InvoiceField} (other : f ≠ m.field) : f.read m.line = none :=
  InvoiceField.read_clash (InvoiceField.title_clash other)

theorem not_tableHeader : test tableHeaderFirstLineRe m.line = false := by
  have differ : ∀ f : InvoiceField, clash "Description".toList f.title = true := by
    intro f
    cases f <;> decide
  rw [test, line, tableHeaderFirstLineRe, firstMatch_clash (differ m.field)]
  rfl

end Marker

/-! ### Footers -/

def footerTitles : List (List Char) :=
  ["Shipping Charges", "Promotions", "Invoice total", "VAT included", "Thank you",
    "Total for your order"].map String.toList

theorem footerRe_eq : footerRe = concat [.start, .group 1 (oneOf (footerTitles.map text))] := rfl

theorem footer_title {after : List (List Char)} {rest : List Char} (before : List (List Char))
    (title : List Char) (listed : footerTitles = before ++ title :: after)
    (differ : ∀ t ∈ before, clash t title = true) : test footerRe (title ++ rest) = true := by
  have refused : ∀ r ∈ before.map text, run r ⟨[], title ++ rest, []⟩ = [] := by
    intro r hr
    obtain ⟨t, ht, rfl⟩ := List.mem_map.mp hr
    exact run_text_clash (differ t ht)
  have titled : Leads (oneOf (footerTitles.map text)) ⟨[], title ++ rest, []⟩
      ⟨title.reverse ++ [], rest, []⟩ := by
    rw [listed, List.map_append, List.map_cons]
    exact leads_oneOf refused leads_text
  rw [test, footerRe_eq, firstMatch_of_leads (Leads.cons (Leads.group titled) leads_concat_nil)]
  rfl

theorem footer_clash {start rest : List Char}
    (differ : ∀ title ∈ footerTitles, clash title start = true) :
    test footerRe (start ++ rest) = false := by
  have refused : run (concat [.group 1 (oneOf (footerTitles.map text))])
      ⟨[], start ++ rest, []⟩ = [] := by
    rw [concat, run, run, run_oneOf_texts_clash differ]
    rfl
  rw [test, footerRe_eq, firstMatch_anchored, refused]
  rfl

/-- A summary row ends the table. -/
theorem Marker.footer {m : Marker} (summary : m.isSummary = true) :
    test footerRe m.line = true := by
  cases m with
  | orderReference _ | orderDate _ | merchant _ | invoiceReference _ | invoiceDate _ =>
      cases summary
  | invoiceTotal total =>
      have listed : footerTitles = ["Shipping Charges".toList, "Promotions".toList] ++ _ := rfl
      have split : (invoiceTotal total).line =
          "Invoice total".toList ++ (" £".toList ++ total.text) := rfl
      rw [split]
      exact footer_title _ _ listed (by decide)
  | shippingCharges row _ => exact footer_title [] "Shipping Charges".toList rfl nofun
  | promotions row =>
      exact footer_title ["Shipping Charges".toList] "Promotions".toList rfl (by decide)

/-! ### Rows of the table -/

/-- The line says nothing about any field. -/
def Silent (line : List Char) : Prop := ∀ f : InvoiceField, f.read line = none

theorem silent_tableHeader : ∀ line ∈ tableHeader, Silent line := by
  intro line listed f
  have differ : ∀ line ∈ tableHeader, ∀ f ∈ InvoiceField.all, clash f.title line = true := by
    decide +kernel
  have every : f ∈ InvoiceField.all := by cases f <;> decide
  have silent : f.read (line ++ []) = none :=
    InvoiceField.read_clash (differ line listed f every)
  rwa [List.append_nil] at silent

/-- A line below the table header that does not end the table. -/
structure IsRow (line : List Char) : Prop where
  silent : Silent line
  within : test footerRe line = false

/-- A line that starts differently from every field and every footer. -/
theorem IsRow.of_clash {start rest : List Char}
    (field : ∀ f : InvoiceField, clash f.title start = true)
    (footer : ∀ title ∈ footerTitles, clash title start = true) : IsRow (start ++ rest) :=
  ⟨fun f => InvoiceField.read_clash (field f), footer_clash footer⟩

/-- A line that matches no pattern is a row, and neither an ASIN nor a price row. -/
theorem IsRow.of_isPlain {line : List Char} (plain : isPlain line = true) :
    IsRow line ∧ firstMatch asinRe line = none ∧ firstMatch priceRowRe line = none := by
  have unmatched : ∀ pattern ∈ InvoiceField.all.map InvoiceField.pattern ++
      [footerRe, asinRe, priceRowRe], test pattern line = false := by
    intro pattern listed
    have refused := List.all_eq_true.mp plain pattern listed
    rwa [Bool.not_eq_true'] at refused
  have refused : ∀ {pattern : Expr}, test pattern line = false → firstMatch pattern line = none :=
    fun none_ => Option.isSome_eq_false_iff.mp none_ |> Option.isNone_iff_eq_none.mp
  refine ⟨⟨fun f => ?_, unmatched footerRe (by simp)⟩, refused (unmatched asinRe (by simp)),
    refused (unmatched priceRowRe (by simp))⟩
  have every : f ∈ InvoiceField.all := by cases f <;> decide
  have own := unmatched f.pattern
    (List.mem_append_left _ (List.mem_map_of_mem every))
  rw [InvoiceField.read, refused own]
  rfl

namespace ItemBlock

variable (b : ItemBlock)

theorem isRow_asinLine : IsRow b.asinLine :=
  IsRow.of_clash (fun f => by cases f <;> decide) (by decide)

theorem captured_asinLine :
    (firstMatch asinRe b.asinLine).bind (·.group? 1) = some b.asin.text := by
  have ends : ∀ c ∈ b.asin.text.head?, isSpace c = false := fun c hc =>
    b.asin.isSpace c (List.mem_of_mem_head? hc)
  have solid : ∀ c ∈ b.asin.text, (!isSpace c) = true := fun c hc => by
    rw [b.asin.isSpace c hc]
    rfl
  have lead : ∃ passed, Leads (concat [star isSpace, .group 1 (plus fun c => !isSpace c)])
      ⟨"ASIN:".toList.reverse, b.asinGap ++ b.asin.text, []⟩ ⟨passed, [], [(1, b.asin.text)]⟩ :=
    ⟨_, Leads.cons (leads_star (List.all_eq_true.mp b.blank) ends)
      (Leads.cons (Leads.group_all (leads_plus_all b.asin.nonempty solid)) leads_concat_nil)⟩
  obtain ⟨passed, lead⟩ := lead
  rw [asinLine, asinRe, firstMatch_text lead]
  rfl

end ItemBlock

namespace PriceRow

variable (r : PriceRow)

/-- A price row starts with a digit. -/
theorem line_eq : ∃ d rest, r.line = [d] ++ rest ∧ d.isDigit = true := by
  obtain ⟨d, rest, shown⟩ := List.exists_cons_of_ne_nil r.quantity.nonempty
  have digit := r.quantity.isDigit d (by rw [shown]; exact List.mem_cons_self)
  exact ⟨d, _, by rw [line, shown]; rfl, digit⟩

theorem isRow_line : IsRow r.line := by
  obtain ⟨d, rest, shown, digit⟩ := r.line_eq
  have field := forall_digit (p := fun d => InvoiceField.all.all fun f => clash f.title [d])
    (by decide) digit
  have footer := forall_digit (p := fun d => footerTitles.all fun title => clash title [d])
    (by decide) digit
  rw [shown]
  exact IsRow.of_clash (fun f => List.all_eq_true.mp field f (by cases f <;> decide))
    (List.all_eq_true.mp footer)

theorem not_asin : firstMatch asinRe r.line = none := by
  obtain ⟨d, rest, shown, digit⟩ := r.line_eq
  have differ := forall_digit (p := fun d => clash "ASIN:".toList [d]) (by decide) digit
  rw [shown]
  exact firstMatch_clash differ

/-- A price row is read for its quantity, its price and its line total. -/
theorem firstMatch_line : ∃ found, firstMatch priceRowRe r.line = some found ∧
    found.group? 1 = some r.quantity.text ∧ found.group? 4 = some r.unitPrice.text ∧
    found.group? 5 = some r.lineTotal.text := by
  have pound : ∀ rest, ∀ c ∈ ('£' :: rest).head?, isSpace c = false := by
    rintro rest c ⟨⟩
    decide
  have digit : ∀ (d : Digits) rest, ∀ c ∈ (d.text ++ rest).head?, isSpace c = false :=
    fun d rest c hc => isSpace_digit (d.head_digit rest c hc)
  have toPound : ∀ (gap : Gap) b rest g, Leads (plus isSpace) ⟨b, gap.text ++ '£' :: rest, g⟩
      ⟨gap.text.reverse ++ b, '£' :: rest, g⟩ := fun gap b rest g =>
    leads_plus gap.nonempty gap.isSpace (pound rest)
  have amount : ∀ (a : Amount) (gap : Gap) (i : Nat) b rest g,
      Leads (.group i (plus moneyChar)) ⟨b, a.text ++ (gap.text ++ rest), g⟩
        ⟨a.text.reverse ++ b, gap.text ++ rest, (i, a.text) :: g⟩ := fun a gap i b rest g =>
    Leads.group (leads_plus a.text_ne_nil a.moneyChar_text fun c hc =>
      moneyChar_space (gap.head_blank rest c hc))
  have quantity : ∀ (gap : Gap) b rest g,
      Leads (.group 1 (plus Char.isDigit)) ⟨b, r.quantity.text ++ (gap.text ++ rest), g⟩
        ⟨r.quantity.text.reverse ++ b, gap.text ++ rest, (1, r.quantity.text) :: g⟩ :=
    fun gap b rest g => Leads.group (leads_plus r.quantity.nonempty r.quantity.isDigit fun c hc =>
      isDigit_space (gap.head_blank rest c hc))
  have rate : ∀ b rest g, Leads (.group 3 (.seq (plus Char.isDigit) (letter '%')))
      ⟨b, r.rate.text ++ '%' :: rest, g⟩
      ⟨'%' :: r.rate.text.reverse ++ b, rest, (3, r.rate.text ++ ['%']) :: g⟩ := by
    intro b rest g
    have percent : ∀ c ∈ ('%' :: rest).head?, c.isDigit = false := by
      rintro c ⟨⟩
      rfl
    have body : Leads (.seq (plus Char.isDigit) (letter '%'))
        ⟨b, (r.rate.text ++ ['%']) ++ rest, g⟩ ⟨(r.rate.text ++ ['%']).reverse ++ b, rest, g⟩ := by
      rw [List.append_assoc, List.reverse_append]
      exact Leads.seq (leads_plus r.rate.nonempty r.rate.isDigit percent) leads_letter
    have whole : Leads (.group 3 (.seq (plus Char.isDigit) (letter '%'))) _ _ := Leads.group body
    rwa [List.append_assoc, List.reverse_append] at whole
  have total : ∀ b g, Leads (.group 5 (plus moneyChar)) ⟨b, r.lineTotal.text, g⟩
      ⟨r.lineTotal.text.reverse ++ b, [], (5, r.lineTotal.text) :: g⟩ := fun b g =>
    Leads.group_all (leads_plus_all r.lineTotal.text_ne_nil r.lineTotal.moneyChar_text)
  have blank : Leads (star isSpace) ⟨[], [] ++ r.line, []⟩ ⟨[], r.line, []⟩ :=
    leads_star nofun (digit r.quantity _)
  have lead : ∃ b, Leads (concat _) ⟨[], r.line, []⟩ ⟨b, [], [(5, r.lineTotal.text),
      (4, r.unitPrice.text), (3, r.rate.text ++ ['%']), (2, r.net.text),
      (1, r.quantity.text)]⟩ :=
    ⟨_, Leads.cons blank <| Leads.cons (quantity r.afterQuantity [] _ []) <|
      Leads.cons (toPound _ _ _ _) <| Leads.cons leads_letter <|
      Leads.cons (amount r.net r.afterNet 2 _ _ _) <|
      Leads.cons (leads_plus r.afterNet.nonempty r.afterNet.isSpace (digit r.rate _)) <|
      Leads.cons (rate _ _ _) <| Leads.cons (toPound _ _ _ _) <| Leads.cons leads_letter <|
      Leads.cons (amount r.unitPrice r.afterUnitPrice 4 _ _ _) <|
      Leads.cons (toPound _ _ _ _) <| Leads.cons leads_letter <|
      Leads.cons (total _ _) leads_concat_nil⟩
  obtain ⟨b, lead⟩ := lead
  exact ⟨_, firstMatch_of_leads lead, rfl, rfl, rfl⟩

end PriceRow

end ColorfulLife
