/-
Invoices as Amazon prints them, and the document each stands for.

An `Invoice` is what is printed, with the texts between the values where they can
vary. Its lines are spread over sheets: every sheet with rows of the table
repeats the table header, rows may break anywhere, and the summary rows follow
the last of them. A page shows the lines of its sheet between blank lines and
white space (`PrintedOn`). Nothing here looks at the parser, except that a line of
a description matches none of its patterns.
-/

import ColorfulLife.Purchases.InvoiceParser

namespace ColorfulLife

open Binary64 Regex

/-! ### Values on a line -/

structure Digits where
  text : List Char
  nonempty : text ≠ []
  digits : text.all Char.isDigit = true
  deriving DecidableEq

def Digits.value (d : Digits) : Nat := Number.decimal d.text

/-- Pounds with at most two decimals, without separators of thousands. -/
structure Amount where
  pounds : Digits
  decimals : List Char
  digits : decimals.all Char.isDigit = true
  atMostTwo : decimals.length ≤ 2
  deriving DecidableEq

namespace Amount

def text (a : Amount) : List Char :=
  a.pounds.text ++ if a.decimals = [] then [] else '.' :: a.decimals

def pence (a : Amount) : Nat :=
  100 * a.pounds.value + Number.decimal a.decimals * 10 ^ (2 - a.decimals.length)

end Amount

/-- The text of a field: on one line, not blank, and trimmed. -/
structure FieldText where
  text : List Char
  nonempty : text ≠ []
  trimmed : trimChars text = text
  oneLine : text.all dot = true
  deriving DecidableEq

/-- The second of three words. -/
def middleWord (text : List Char) : Option (List Char) :=
  match text.splitOn ' ' with
  | [_, word, _] => some word
  | _ => none

/-- The text of a date. What stands for its month is no property that every object
has. -/
structure DateText extends FieldText where
  ownMonth : ∀ month ∈ middleWord text, month ∉ objectPrototype.map Prod.fst
  deriving DecidableEq

/-- A text without white space. -/
structure Token where
  text : List Char
  nonempty : text ≠ []
  solid : text.all (!isSpace ·) = true
  deriving DecidableEq

structure Gap where
  text : List Char
  nonempty : text ≠ []
  blank : text.all isSpace = true
  deriving DecidableEq

/-- What stands in front of an amount of a summary row. -/
structure Filler where
  text : List Char
  oneLine : text.all dot = true
  noPound : '£' ∉ text
  apart : text.head?.all (!moneyChar ·) = true
  deriving DecidableEq

/-- The date with its month abbreviated, if it is the second of three words. -/
def abbreviateMonth (date : List Char) : List Char :=
  match date.splitOn ' ' with
  | [day, month, year] => [' '].intercalate [day, (monthMap.lookup month).getD month, year]
  | _ => date

/-! ### Items -/

/-- Quantity, net price, VAT rate, price and line total. -/
structure PriceRow where
  quantity : Digits
  positive : 0 < quantity.value
  afterQuantity : Gap
  net : Amount
  afterNet : Gap
  rate : Digits
  afterRate : Gap
  unitPrice : Amount
  afterUnitPrice : Gap
  lineTotal : Amount
  deriving DecidableEq

def PriceRow.line (r : PriceRow) : List Char :=
  r.quantity.text ++ (r.afterQuantity.text ++ '£' :: (r.net.text ++ (r.afterNet.text ++
    (r.rate.text ++ '%' :: (r.afterRate.text ++ '£' :: (r.unitPrice.text ++
      (r.afterUnitPrice.text ++ '£' :: r.lineTotal.text)))))))

/-- A line that says nothing but itself. -/
def isPlain (line : List Char) : Bool :=
  (InvoiceField.all.map InvoiceField.pattern ++ [footerRe, asinRe, priceRowRe]).all fun pattern =>
    !test pattern line

structure ItemBlock where
  description : List (List Char)
  described : description ≠ []
  plain : ∀ line ∈ description, isPlain line = true
  asinGap : List Char
  blank : asinGap.all isSpace = true
  asin : Token
  row : PriceRow
  asinFirst : Bool
  deriving DecidableEq

namespace ItemBlock

def asinLine (b : ItemBlock) : List Char := "ASIN:".toList ++ (b.asinGap ++ b.asin.text)

def lines (b : ItemBlock) : List (List Char) :=
  b.description ++ if b.asinFirst then [b.asinLine, b.row.line] else [b.row.line, b.asinLine]

/-- The item that the block stands for. -/
def item (sourceLineNumber : Nat) (b : ItemBlock) : SourcePurchaseItem :=
  let description := [' '].intercalate b.description
  { sourceLineNumber := sourceLineNumber
    externalProductId := String.ofList b.asin.text
    sourceDescription := String.ofList description
    sourceSetNumber := (extractLegoSetNumber description none).map String.ofList
    quantity := .finite b.row.quantity.value
    originalGrossUnitCost := String.ofList b.row.unitPrice.text
    originalGrossLineTotal := String.ofList b.row.lineTotal.text }

end ItemBlock

/-! ### Markers -/

/-- A row of three amounts. -/
structure SummaryRow where
  beforeNet : Filler
  net : Amount
  beforeTax : Filler
  tax : Amount
  beforeGross : Filler
  signed : Bool
  gross : Amount
  deriving DecidableEq

def SummaryRow.text (r : SummaryRow) : List Char :=
  r.beforeNet.text ++ '£' :: (r.net.text ++ (r.beforeTax.text ++ '£' :: (r.tax.text ++
    (r.beforeGross.text ++ '£' :: ((if r.signed then ['-'] else []) ++ r.gross.text)))))

/-- A line that carries a field. -/
inductive Marker where
  | orderReference (reference : FieldText)
  | orderDate (date : DateText)
  | merchant (name : FieldText)
  | invoiceReference (reference : FieldText)
  | invoiceDate (date : DateText)
  | invoiceTotal (total : Amount)
  | shippingCharges (row : SummaryRow) (unsigned : row.signed = false)
  | promotions (row : SummaryRow)
  deriving DecidableEq

/-- What a line with the field starts with. -/
def InvoiceField.title : InvoiceField → List Char
  | .sourceOrderReference => "Order # ".toList
  | .sourceOrderDate => "Order date ".toList
  | .merchantName => "Sold by ".toList
  | .sourceInvoiceReference => "Invoice # ".toList
  | .sourceDocumentDate => "Invoice date / Delivery date ".toList
  | .finalTotalPaid => "Invoice total £".toList
  | .shippingTotal => "Shipping Charges".toList
  | .discountTotal => "Promotions".toList

namespace Marker

def field : Marker → InvoiceField
  | .orderReference _ => .sourceOrderReference
  | .orderDate _ => .sourceOrderDate
  | .merchant _ => .merchantName
  | .invoiceReference _ => .sourceInvoiceReference
  | .invoiceDate _ => .sourceDocumentDate
  | .invoiceTotal _ => .finalTotalPaid
  | .shippingCharges _ _ => .shippingTotal
  | .promotions _ => .discountTotal

def body : Marker → List Char
  | .orderReference reference => reference.text
  | .orderDate date => date.text
  | .merchant name => name.text
  | .invoiceReference reference => reference.text
  | .invoiceDate date => date.text
  | .invoiceTotal total => total.text
  | .shippingCharges row _ => row.text
  | .promotions row => row.text

def line (m : Marker) : List Char := m.field.title ++ m.body

/-- What the line says. -/
def value : Marker → List Char
  | .orderReference reference => reference.text
  | .orderDate date => abbreviateMonth date.text
  | .merchant name => name.text
  | .invoiceReference reference => reference.text
  | .invoiceDate date => abbreviateMonth date.text
  | .invoiceTotal total => total.text
  | .shippingCharges row _ => row.gross.text
  | .promotions row => row.gross.text

/-- The rows below the table. -/
def isSummary : Marker → Bool
  | .invoiceTotal _ | .shippingCharges _ _ | .promotions _ => true
  | _ => false

end Marker

/-! ### Invoices -/

structure Invoice where
  orderReference : FieldText
  orderDate : Option DateText
  merchant : Option FieldText
  invoiceReference : Option FieldText
  invoiceDate : Option DateText
  items : List ItemBlock
  nonempty : items ≠ []
  shippingCharges : Option { row : SummaryRow // row.signed = false }
  promotions : Option SummaryRow
  invoiceTotal : Amount

namespace Invoice

def markers (inv : Invoice) : List Marker :=
  [.orderReference inv.orderReference] ++ inv.orderDate.toList.map .orderDate ++
    inv.merchant.toList.map .merchant ++ inv.invoiceReference.toList.map .invoiceReference ++
    inv.invoiceDate.toList.map .invoiceDate ++
    inv.shippingCharges.toList.map (fun row => .shippingCharges row.1 row.2) ++
    inv.promotions.toList.map .promotions ++ [.invoiceTotal inv.invoiceTotal]

/-- The line totals added up, in pence. -/
def totalPence (inv : Invoice) : Nat := (inv.items.map fun b => b.row.lineTotal.pence).sum

def sourceItems (inv : Invoice) : List SourcePurchaseItem :=
  inv.items.mapIdx fun i b => b.item (i + 1)

/-- The document that the invoice stands for. -/
def document (inv : Invoice) (importHash : String) : SourcePurchaseDocument where
  importHash := importHash
  sourceOrderReference := String.ofList inv.orderReference.text
  sourceOrderDate := inv.orderDate.map fun date => String.ofList (abbreviateMonth date.text)
  merchantName := inv.merchant.map fun name => String.ofList name.text
  sourceInvoiceReference := inv.invoiceReference.map fun reference => String.ofList reference.text
  sourceDocumentDate := inv.invoiceDate.map fun date => String.ofList (abbreviateMonth date.text)
  originalGrossMerchandiseTotal := String.ofList (Number.fixedText 2 inv.totalPence)
  shippingTotal := inv.shippingCharges.map fun row => String.ofList row.1.gross.text
  discountTotal := inv.promotions.map fun row => String.ofList row.gross.text
  finalTotalPaid := String.ofList inv.invoiceTotal.text
  items := inv.sourceItems

end Invoice

/-! ### Layout -/

/-- The six lines of the table header. -/
def tableHeader : List (List Char) :=
  ["Description Qty Unit price", "(excl. VAT)", "VAT rate Unit price", "(incl. VAT)",
    "Item subtotal", "(incl. VAT)"].map String.toList

/-- A page: fields, then rows of the table if it has any, then summary rows. -/
structure Sheet where
  top : List Marker
  rows : Option (List (List Char))
  bottom : List Marker
  deriving DecidableEq

namespace Sheet

def lines (s : Sheet) : List (List Char) :=
  s.top.map Marker.line ++ (s.rows.elim [] fun rows => tableHeader ++ rows) ++
    s.bottom.map Marker.line

def tableRows (s : Sheet) : List (List Char) := s.rows.getD []

def markers (s : Sheet) : List Marker := s.top ++ s.bottom

end Sheet

/-- The sheets of an invoice: the rows of all items in order, broken anywhere;
every field somewhere and no other; and no table after a summary row below one. -/
structure Invoice.LaidOut (inv : Invoice) (sheets : List Sheet) : Prop where
  rows : sheets.flatMap Sheet.tableRows = inv.items.flatMap ItemBlock.lines
  markers : ∀ m, m ∈ sheets.flatMap Sheet.markers ↔ m ∈ inv.markers
  summary : ∀ s ∈ sheets, ∀ m ∈ s.bottom, m.isSummary = true
  last : sheets.Pairwise fun s later => s.bottom ≠ [] → later.rows = none

/-- The page shows the lines, between blank lines and white space. -/
def PrintedOn (lines : List (List Char)) (page : PageText) : Prop :=
  ∃ printed : List (List Char), printed ≠ [] ∧ (∀ line ∈ printed, '\n' ∉ line) ∧
    page.text.toList = ['\n'].intercalate printed ∧
    (printed.map trimChars).filter (decide <| · ≠ []) = lines

end ColorfulLife
