/-
The parser of Amazon UK invoices
(`domain/purchases/parsers/amazonPurchaseInvoiceParser.ts`).

A text is a list of characters inside the parser and a `String` in the document
it returns. The parser reads a page line by line; the table state starts anew on
every page, the item that is being read does not.
-/

import ColorfulLife.Numeric.Binary64
import ColorfulLife.Schema.Values
import ColorfulLife.Text.Regex
import Mathlib.Data.List.Basic
import Mathlib.Data.List.Dedup
import Mathlib.Data.List.DropRight

namespace ColorfulLife

open Binary64 Regex

/-! ### Documents -/

structure PageText where
  pageNumber : Nat
  text : String
  deriving DecidableEq, Repr

structure ExtractedPdfText where
  pageCount : Nat
  pages : List PageText
  fullText : Option String
  deriving DecidableEq, Repr

structure SourcePurchaseItem where
  sourceLineNumber : Nat
  externalProductId : String
  sourceDescription : String
  sourceSetNumber : Option String
  quantity : Number
  originalGrossUnitCost : String
  originalGrossLineTotal : String
  deriving DecidableEq

structure SourcePurchaseDocument where
  importHash : String
  sourceOrderReference : String
  sourceOrderDate : Option String
  merchantName : Option String
  sourceInvoiceReference : Option String
  sourceDocumentDate : Option String
  originalGrossMerchandiseTotal : String
  shippingTotal : Option String
  discountTotal : Option String
  finalTotalPaid : String
  items : List SourcePurchaseItem
  deriving DecidableEq

/-- `AmazonPurchaseInvoiceParseError`. -/
inductive InvoiceParseError where
  | itemMissingAsin
  | itemMissingPrice
  | incompleteBeforeTableEnd
  | incompleteAtEnd
  | missingOrderReference
  | missingFinalTotal
  | noItems
  deriving DecidableEq, Repr

def InvoiceParseError.message (e : InvoiceParseError) : String :=
  "AmazonPurchaseInvoiceParseError: " ++
    match e with
    | .itemMissingAsin => "Item missing ASIN"
    | .itemMissingPrice => "Item missing price information"
    | .incompleteBeforeTableEnd => "Incomplete item before table end"
    | .incompleteAtEnd => "Incomplete item at end of document"
    | .missingOrderReference => "Missing source order reference"
    | .missingFinalTotal => "Missing final total paid"
    | .noItems => "No items parsed"

/-! ### Texts -/

/-- `trim` on a list of characters. -/
def trimChars (text : List Char) : List Char := (text.dropWhile isSpace).rdropWhile isSpace

/-- A truthy text. -/
def givenChars (text : Option (List Char)) : Option (List Char) := text.filter (decide <| · ≠ [])

/-- What a `.` does not match. -/
def isLineTerminator (c : Char) : Bool := c.val ∈ [0xA, 0xD, 0x2028, 0x2029]

def dot (c : Char) : Bool := !isLineTerminator c

/-- `[\d\.]`. -/
def moneyChar (c : Char) : Bool := c.isDigit || decide (c = '.')

def withoutCarriage (piece : List Char) : List Char :=
  if piece.getLast? = some '\r' then piece.dropLast else piece

/-- `text.split(/\r?\n/)`. -/
def splitLines (text : List Char) : List (List Char) :=
  let pieces := text.splitOn '\n'
  pieces.dropLast.map withoutCarriage ++ pieces.getLast?.toList

/-- The lines the parser looks at. -/
def pageLines (text : List Char) : List (List Char) :=
  ((splitLines text).map trimChars).filter (decide <| · ≠ [])

/-- The months and their abbreviations. -/
def monthMap : List (List Char × List Char) :=
  [("Jan", "Jan"), ("Feb", "Feb"), ("Mar", "Mar"), ("Apr", "Apr"), ("May", "May"), ("Jun", "Jun"),
    ("Jul", "Jul"), ("Aug", "Aug"), ("Sep", "Sep"), ("Oct", "Oct"), ("Nov", "Nov"), ("Dec", "Dec"),
    ("January", "Jan"), ("February", "Feb"), ("March", "Mar"), ("April", "Apr"), ("June", "Jun"),
    ("July", "Jul"), ("August", "Aug"), ("September", "Sep"), ("October", "Oct"),
    ("November", "Nov"), ("December", "Dec")].map fun e => (e.1.toList, e.2.toList)

/-- The properties that an object literal inherits, as a template literal shows
them. -/
def objectPrototype : List (List Char × List Char) :=
  ("__proto__".toList, "[object Object]".toList) ::
    ("constructor".toList, "function Object() \x7b [native code] \x7d".toList) ::
      ["__defineGetter__", "__defineSetter__", "hasOwnProperty", "__lookupGetter__",
        "__lookupSetter__", "isPrototypeOf", "propertyIsEnumerable", "toString", "valueOf",
        "toLocaleString"].map fun name =>
          (name.toList, "function ".toList ++ name.toList ++ "() \x7b [native code] \x7d".toList)

/-- Full month names become abbreviations; what is no date of three parts stays
as it is. -/
def normalizeMonthName (date : List Char) : List Char :=
  match (trimChars date).splitOn ' ' with
  | [day, monthFull, year] =>
      -- `monthMap[monthFull]` also finds inherited properties
      match (monthMap ++ objectPrototype).lookup monthFull with
      | some monthAbbrev => day ++ ' ' :: monthAbbrev ++ ' ' :: year
      | none => date
  | _ => date

/-! ### Set numbers -/

/-- `[A-Za-z0-9&'’/+.-]`. -/
def nameChar (c : Char) : Bool := c.isAlphanum || decide (c ∈ "&'’/+.-".toList)

def trailingSetNumberRe : Expr :=
  concat [letter '-', star isSpace, .group 1 (plus Char.isDigit), star isSpace, .stop]

def startsWithLegoRe : Expr := concat [.start, star isSpace, text "LEGO".toList, .boundary]

def contextualSetNumberRe : Expr :=
  concat
    [.boundary, text "LEGO".toList,
      .many (some 8) (concat [plus isSpace, .char Char.isAlpha, star nameChar]), plus isSpace,
      .group 1 (concat [.char Char.isDigit, .char Char.isDigit, .char Char.isDigit,
        .char Char.isDigit, .many (some 2) (.char Char.isDigit)]),
      .ahead (oneOf
        [concat [plus isSpace, .group 2 (concat
            [.char fun c => c.isAlpha || decide (c = '('), star nameChar])],
          .stop])]

/-- A text and an optional `s`. -/
def plural (singular : String) : Expr :=
  concat [text singular.toList, .many (some 1) (letter 's')]

def unitRe : Expr :=
  concat [.start, oneOf [plural "piece", plural "pc", plural "part", plural "year", plural "yr",
    plural "month", plural "pack", text "qty".toList, text "quantity".toList], .stop]

/-- A set number is only taken where the text names LEGO, and only when it is the
one candidate. -/
def extractLegoSetNumber (description : List Char) (explicitSetNumber : Option (List Char)) :
    Option (List Char) :=
  let explicit := givenChars (explicitSetNumber.map trimChars)
  let trailing :=
    if test startsWithLegoRe description then
      givenChars ((firstMatch trailingSetNumberRe description).bind (·.group? 1))
    else none
  let candidates := ((matchAll contextualSetNumberRe description).filter fun found =>
      !test unitRe ((found.group? 2).getD [])).filterMap (·.group? 1)
  -- four-digit years are no set numbers
  let candidates := candidates.filter fun candidate =>
    !decide (1900 ≤ Number.decimal candidate ∧ Number.decimal candidate ≤ 2099)
  let only :=
    match candidates.dedup with
    | [candidate] => some candidate
    | _ => none
  (explicit.or trailing).or only

/-! ### Patterns -/

def orderRefRe : Expr := concat [.start, text "Order # ".toList, .group 1 (plus dot), .stop]

def orderDateRe : Expr := concat [.start, text "Order date ".toList, .group 1 (plus dot), .stop]

def merchantRe : Expr := concat [.start, text "Sold by ".toList, .group 1 (plus dot), .stop]

def invoiceRefRe : Expr := concat [.start, text "Invoice # ".toList, .group 1 (plus dot), .stop]

def invoiceDateRe : Expr :=
  concat [.start, text "Invoice date / Delivery date ".toList, .group 1 (plus dot), .stop]

def finalTotalRe : Expr :=
  concat [.start, text "Invoice total £".toList, .group 1 (plus moneyChar), .stop]

/-- A row with three amounts, the last of which may be signed. -/
def summaryRow (title : String) (last : Expr) : Expr :=
  concat
    [.start, text title.toList,
      star dot, letter '£', .group 1 (plus moneyChar),
      star dot, letter '£', .group 2 (plus moneyChar),
      star dot, letter '£', .group 3 last]

def shippingRe : Expr := summaryRow "Shipping Charges" (plus moneyChar)

def promotionsRe : Expr :=
  summaryRow "Promotions" (.seq (.many (some 1) (letter '-')) (plus moneyChar))

/-- The first line of the table header. -/
def tableHeaderFirstLineRe : Expr :=
  concat [.start, text "Description".toList, plus isSpace, text "Qty".toList, plus isSpace,
    text "Unit price".toList]

def asinRe : Expr :=
  concat [.start, text "ASIN:".toList, star isSpace, .group 1 (plus fun c => !isSpace c)]

def priceRowRe : Expr :=
  concat
    [.start, star isSpace, .group 1 (plus Char.isDigit),
      plus isSpace, letter '£', .group 2 (plus moneyChar),
      plus isSpace, .group 3 (.seq (plus Char.isDigit) (letter '%')),
      plus isSpace, letter '£', .group 4 (plus moneyChar),
      plus isSpace, letter '£', .group 5 (plus moneyChar)]

def footerRe : Expr :=
  concat [.start, .group 1 (oneOf (["Shipping Charges", "Promotions", "Invoice total",
    "VAT included", "Thank you", "Total for your order"].map fun title => text title.toList))]

/-! ### Global markers -/

/-- What is collected on any line. -/
inductive InvoiceField where
  | sourceOrderReference
  | sourceOrderDate
  | merchantName
  | sourceInvoiceReference
  | sourceDocumentDate
  | finalTotalPaid
  | shippingTotal
  | discountTotal
  deriving DecidableEq, Repr

namespace InvoiceField

def all : List InvoiceField :=
  [.sourceOrderReference, .sourceOrderDate, .merchantName, .sourceInvoiceReference,
    .sourceDocumentDate, .finalTotalPaid, .shippingTotal, .discountTotal]

def pattern : InvoiceField → Expr
  | .sourceOrderReference => orderRefRe
  | .sourceOrderDate => orderDateRe
  | .merchantName => merchantRe
  | .sourceInvoiceReference => invoiceRefRe
  | .sourceDocumentDate => invoiceDateRe
  | .finalTotalPaid => finalTotalRe
  | .shippingTotal => shippingRe
  | .discountTotal => promotionsRe

/-- The group that is read. -/
def group : InvoiceField → Nat
  | .shippingTotal | .discountTotal => 3
  | _ => 1

def value (field : InvoiceField) (captured : List Char) : List Char :=
  let val := trimChars captured
  match field with
  | .sourceOrderDate | .sourceDocumentDate => normalizeMonthName val
  | .discountTotal =>
      match val with
      | '-' :: rest => rest
      | _ => val
  | _ => val

/-- What a line says about the field. -/
def read (field : InvoiceField) (line : List Char) : Option (List Char) :=
  ((firstMatch field.pattern line).bind (·.group? field.group)).map field.value

end InvoiceField

/-- What has been collected so far. -/
abbrev Collected := InvoiceField → Option (List Char)

/-- A field is read once. -/
def collect (collected : Collected) (line : List Char) : Collected := fun field =>
  if (givenChars (collected field)).isSome then collected field
  else (field.read line).or (collected field)

/-! ### The table -/

structure PendingItem where
  descriptionLines : List (List Char)
  asin : Option (List Char)
  quantity : Option Number
  unitPrice : Option (List Char)
  lineTotal : Option (List Char)
  deriving DecidableEq

def PendingItem.empty : PendingItem := ⟨[], none, none, none, none⟩

/-- The price information, when all of it is there. -/
def PendingItem.price (p : PendingItem) : Option (Number × List Char × List Char) := do
  let quantity ← p.quantity.filter Number.truthy
  let unitPrice ← givenChars p.unitPrice
  let lineTotal ← givenChars p.lineTotal
  return (quantity, unitPrice, lineTotal)

/-- The items and the one being read. -/
structure TableContent where
  items : List SourcePurchaseItem
  pending : Option PendingItem
  deriving DecidableEq

def finalizeItem (content : TableContent) : Except InvoiceParseError TableContent :=
  match content.pending with
  | none => .ok content
  | some p =>
      match givenChars p.asin with
      | none => .error .itemMissingAsin
      | some asin =>
          match p.price with
          | none => .error .itemMissingPrice
          | some (quantity, unitPrice, lineTotal) =>
              let description := trimChars ([' '].intercalate p.descriptionLines)
              .ok
                { items := content.items ++
                    [{ sourceLineNumber := content.items.length + 1
                       externalProductId := String.ofList asin
                       sourceDescription := String.ofList description
                       sourceSetNumber := (extractLegoSetNumber description none).map String.ofList
                       quantity := quantity
                       originalGrossUnitCost := String.ofList unitPrice
                       originalGrossLineTotal := String.ofList lineTotal }]
                  pending := none }

/-- A line of an item: its ASIN, its price row, or a line of its description. -/
def readRow (content : TableContent) (line : List Char) : Except InvoiceParseError TableContent :=
  let pending := content.pending.getD .empty
  match (firstMatch asinRe line).bind (·.group? 1) with
  | some captured =>
      let pending := { pending with asin := some (trimChars captured) }
      if pending.price.isSome then finalizeItem { content with pending := some pending }
      else .ok { content with pending := some pending }
  | none =>
      match firstMatch priceRowRe line with
      | some found =>
          let pending :=
            { pending with
              quantity := (found.group? 1).map Number.parseInt
              unitPrice := (found.group? 4).map trimChars
              lineTotal := (found.group? 5).map trimChars }
          if (givenChars pending.asin).isSome then
            finalizeItem { content with pending := some pending }
          else .ok { content with pending := some pending }
      | none =>
          .ok { content with
            pending := some
              { pending with descriptionLines := pending.descriptionLines ++ [line] } }

/-! ### The parser -/

inductive TableState where
  | outside
  | inside (headerSkip : Nat)
  deriving DecidableEq, Repr

structure InvoiceState where
  collected : Collected
  content : TableContent

/-- One line that is not blank. -/
def processLine (st : TableState × InvoiceState) (line : List Char) :
    Except InvoiceParseError (TableState × InvoiceState) :=
  let invoice := { st.2 with collected := collect st.2.collected line }
  match st.1 with
  | .outside =>
      if test tableHeaderFirstLineRe line then .ok (.inside 5, invoice)
      else .ok (.outside, invoice)
  | .inside (headerSkip + 1) => .ok (.inside headerSkip, invoice)
  | .inside 0 =>
      if test footerRe line then
        if invoice.content.pending.isSome then .error .incompleteBeforeTableEnd
        else .ok (.outside, invoice)
      else do
        let content ← readRow invoice.content line
        return (.inside 0, { invoice with content := content })

/-- One page. The table state is page-scoped. -/
def processPage (invoice : InvoiceState) (page : PageText) :
    Except InvoiceParseError InvoiceState :=
  ((pageLines page.text.toList).foldlM processLine (TableState.outside, invoice)).map Prod.snd

/-- The merchandise total of the line totals. -/
def merchandiseTotal (items : List SourcePurchaseItem) : String :=
  let sumPennies := items.foldl (fun acc item =>
    acc + Number.mathRound (Number.parseFloat item.originalGrossLineTotal.toList * 100)) (0 : Number)
  String.ofList (Number.toFixed 2 (sumPennies / 100))

def parseAmazonPurchaseInvoice (extractedPdf : ExtractedPdfText) (importHash : String) :
    Except InvoiceParseError SourcePurchaseDocument := do
  let st ← extractedPdf.pages.foldlM processPage ⟨fun _ => none, ⟨[], none⟩⟩
  if st.content.pending.isSome then throw .incompleteAtEnd
  let some sourceOrderReference := givenChars (st.collected .sourceOrderReference)
    | throw .missingOrderReference
  let some finalTotalPaid := givenChars (st.collected .finalTotalPaid)
    | throw .missingFinalTotal
  if st.content.items = [] then throw .noItems
  return {
    importHash := importHash
    sourceOrderReference := String.ofList sourceOrderReference
    sourceOrderDate := (st.collected .sourceOrderDate).map String.ofList
    merchantName := (st.collected .merchantName).map String.ofList
    sourceInvoiceReference := (st.collected .sourceInvoiceReference).map String.ofList
    sourceDocumentDate := (st.collected .sourceDocumentDate).map String.ofList
    originalGrossMerchandiseTotal := merchandiseTotal st.content.items
    shippingTotal := (st.collected .shippingTotal).map String.ofList
    discountTotal := (st.collected .discountTotal).map String.ofList
    finalTotalPaid := String.ofList finalTotalPaid
    items := st.content.items }

end ColorfulLife
