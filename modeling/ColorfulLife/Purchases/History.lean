/-
The purchase history (`listPurchases` in `controllers/purchases.ts`).

A page is counted, selected and loaded by three queries that no transaction holds
together, so each reads its own state. Purchases with unresolved lines come first,
then newer orders. `lower` is the database's case folding.
-/

import ColorfulLife.Purchases.Normalizer
import ColorfulLife.Storefront.Agreement

namespace ColorfulLife.PurchaseHistory

open Binary64 Calendar PurchaseNormalizer Regex Relational

/-! ### Requests -/

/-- A value of `req.query`: missing, a text, or an array or object of texts. -/
inductive QueryValue where
  | absent
  | text (value : String)
  | other
  deriving DecidableEq, Repr

/-- `pageSize` is taken from `pageSize ?? limit`. -/
structure ListQuery where
  page : QueryValue
  pageSize : QueryValue
  limit : QueryValue
  search : QueryValue
  deriving DecidableEq, Repr

inductive ListError where
  | invalidPage
  | invalidPageSize
  | invalidSearch
  | invalidDate
  deriving DecidableEq, Repr

def ListError.message : ListError → String
  | .invalidPage => "Invalid page parameter"
  | .invalidPageSize => "Invalid pageSize parameter"
  | .invalidSearch => "Invalid search parameter"
  | .invalidDate => "Invalid search date; use YYYY-MM-DD"

def parsePositiveInteger (value : QueryValue) (fallback : ℕ+) : Option ℕ+ :=
  match value with
  | .absent => some fallback
  | .other => none
  | .text value =>
      if test wholeRe value.toList then
        let parsed := Number.parseInt value.toList
        if Number.isSafeInteger parsed && Number.less 0 parsed then
          some (integer parsed).toNat.toPNat'
        else none
      else none

/-- Four digits and a hyphen. -/
def yearClasses : List (Char → Bool) :=
  List.replicate 4 Char.isDigit ++ [(decide <| · = '-')]

def startsWithYearRe : Expr := concat (.start :: yearClasses.map .char)

/-- The day that a search names, when it starts like a date. -/
def parseDateSearch (search : String) : Except ListError (Option Int) :=
  if test startsWithYearRe search.toList then
    if test isoDateRe search.toList then
      match search.toList.splitOn '-' with
      | [year, month, day] =>
          -- `setUTCFullYear` lets months and days overflow into the next ones
          let candidate := makeDay (Number.decimal year) ((Number.decimal month : Int) - 1)
            (Number.decimal day)
          if 1 ≤ Number.decimal year ∧
              (toIsoString (Date.ofDay candidate)).take 10 = search.toList then
            .ok (some candidate)
          else .error .invalidDate
      | _ => .error .invalidDate
    else .error .invalidDate
  else .ok none

/-- What is searched for, and the day it may name. -/
structure Search where
  text : String
  date : Option Int
  deriving DecidableEq, Repr

structure ListRequest where
  page : ℕ+
  pageSize : ℕ+
  search : Search
  deriving DecidableEq, Repr

def parseSearch (value : QueryValue) : Except ListError Search :=
  match value with
  | .other => .error .invalidSearch
  | .absent => .ok ⟨"", none⟩
  | .text value =>
      if 200 < jsLength (trim value) then .error .invalidSearch
      else (parseDateSearch (trim value)).map (Search.mk (trim value))

def parseRequest (query : ListQuery) : Except ListError ListRequest := do
  let page ← orThrow (parsePositiveInteger query.page 1) ListError.invalidPage
  let pageSize ← orThrow
    (parsePositiveInteger (if query.pageSize = .absent then query.limit else query.pageSize) 20)
    ListError.invalidPageSize
  ensure (pageSize ≤ 100) ListError.invalidPageSize
  -- the offset is computed in binary64
  ensure (Number.isSafeInteger (.finite (page - 1 : ℕ) * .finite (pageSize : ℕ)))
    ListError.invalidPage
  let search ← parseSearch query.search
  return ⟨page, pageSize, search⟩

/-! ### Filters -/

variable (lower : String → String)

/-- `importedByUserId = userId` among the documents of a purchase. -/
def ownDocuments (userId purchaseId : Nat) (db : Db) : List (Nat × PurchaseDocument) :=
  db.purchaseDocuments.select fun _ d =>
    decide (d.purchaseId = purchaseId ∧ d.importedByUserId = userId)

/-- `searchFilter`; a comparison with a missing date is not true. -/
def searchFilter (search : Search) (p : Purchase) : Bool :=
  search.text = "" ||
    decide (strpos (lower p.sourceOrderReference) (lower search.text) > 0) ||
    match search.date, p.sourceOrderDate with
    | some day, some date =>
        decide (day * msPerDay ≤ date) && decide (date < day * msPerDay + msPerDay)
    | _, _ => false

def purchaseScope (userId : Nat) (search : Search) (s : Db) (id : Nat) (p : Purchase) :
    Bool :=
  decide (ownDocuments userId id s ≠ []) && searchFilter lower search p

/-! ### Order -/

/-- A line that needs no decision any more. -/
def resolved (item : PurchaseItem) : Bool :=
  decide (item.inventoryDisposition = .nonInventory) || item.productListingId.isSome

/-- The lines of the user's documents of a purchase. -/
def ownItems (userId purchaseId : Nat) (db : Db) : List PurchaseItem :=
  (ownDocuments userId purchaseId db).flatMap fun d =>
    (db.purchaseItems.select fun _ item => decide (item.purchaseDocumentId = d.1)).map Prod.snd

/-- The `CASE` of the order: nothing resolved, something, everything. -/
def resolutionPriority (userId purchaseId : Nat) (db : Db) : Nat :=
  let items := ownItems userId purchaseId db
  if items.countP resolved = 0 then 0 else if items.countP resolved < items.length then 1 else 2

/-- `DESC NULLS LAST`, strictly. -/
def laterFirst : Option Int → Option Int → Prop
  | some x, some y => y < x
  | some _, none => True
  | none, _ => False

instance : DecidableRel laterFirst := fun a b => by
  cases a <;> cases b <;> unfold laterFirst <;> infer_instance

/-- `ORDER BY` the priority, the order date and the identifier, the last two
descending. -/
def before (userId : Nat) (s : Db) (a b : Nat × Purchase) : Prop :=
  resolutionPriority userId a.1 s < resolutionPriority userId b.1 s ∨
    resolutionPriority userId a.1 s = resolutionPriority userId b.1 s ∧
      (laterFirst a.2.sourceOrderDate b.2.sourceOrderDate ∨
        a.2.sourceOrderDate = b.2.sourceOrderDate ∧ b.1 ≤ a.1)

instance (userId : Nat) (s : Db) : DecidableRel (before userId s) := fun a b => by
  unfold before; infer_instance

/-! ### Pages -/

structure ListedPurchase where
  id : Nat
  purchase : Purchase
  purchaseDocuments : List (Nat × PurchaseDocument)
  deriving DecidableEq

/-- `limit` and `total` are the old names of `pageSize` and `totalItems`. -/
structure Pagination where
  page : ℕ+
  pageSize : ℕ+
  totalItems : Nat
  totalPages : Nat
  limit : ℕ+
  total : Nat
  deriving DecidableEq

structure PurchasesPage where
  purchases : List ListedPurchase
  pagination : Pagination
  deriving DecidableEq

/-- The purchases in scope, in their order. -/
def sortedIds (userId : Nat) (search : Search) (s : Db) : List Nat :=
  (s.purchases.selectBy (purchaseScope lower userId search s) (before userId s)).map Prod.fst

def pageIds (userId : Nat) (request : ListRequest) (s : Db) : List Nat :=
  pageOf (sortedIds lower userId request.search s) request.pageSize request.page

/-- The loaded purchase, if it is still there and the user's. -/
def loadPurchase (userId : Nat) (s : Db) (id : Nat) : Option ListedPurchase :=
  match s.purchases.get? id with
  | none => none
  | some purchase =>
      if ownDocuments userId id s = [] then none
      else some ⟨id, purchase, ownDocuments userId id s⟩

/-- The purchases are counted, selected and loaded in three states. -/
def respond (counted selected loaded : Db) (userId : Nat) (request : ListRequest) :
    PurchasesPage :=
  let totalItems :=
    (counted.purchases.select (purchaseScope lower userId request.search counted)).length
  { purchases := (pageIds lower userId request selected).filterMap (loadPurchase userId loaded)
    pagination :=
      { page := request.page
        pageSize := request.pageSize
        totalItems := totalItems
        totalPages := (totalItems + request.pageSize - 1) / request.pageSize
        limit := request.pageSize
        total := totalItems } }

def listPurchases (counted selected loaded : Db) (userId : Nat) (query : ListQuery) :
    Except ListError PurchasesPage := do
  let request ← parseRequest query
  return respond lower counted selected loaded userId request

/-! ### Valid requests -/

/-- A missing value says the fallback, a text of digits a safe positive integer. -/
def QueryValue.SaysPositive (fallback : ℕ+) (value : QueryValue) (n : ℕ+) : Prop :=
  match value with
  | .absent => n = fallback
  | .text s => s.toList ≠ [] ∧ (∀ c ∈ s.toList, c.isDigit = true) ∧
      Number.decimal s.toList = n ∧ (n : Int) ≤ maxSafeInteger
  | .other => False

/-- Four digits and a hyphen. -/
def StartsLikeDate (text : List Char) : Prop :=
  ∃ year rest, text = year ++ '-' :: rest ∧ IsDigits 4 year

/-- A search that starts like a date names one of the years 1 to 9999. -/
def SaysDay (text : String) : Option Int → Prop
  | none => ¬StartsLikeDate text.toList
  | some day => ∃ date : Date, WritesIso text.toList date ∧ 1 ≤ date.year ∧ day = date.toDay

def QueryValue.SaysSearch (value : QueryValue) (search : Search) : Prop :=
  match value with
  | .absent => search = ⟨"", none⟩
  | .text s => search.text = trim s ∧ jsLength (trim s) ≤ 200 ∧ SaysDay (trim s) search.date
  | .other => False

structure ListQuery.Says (query : ListQuery) (request : ListRequest) : Prop where
  page : query.page.SaysPositive 1 request.page
  pageSize : (if query.pageSize = .absent then query.limit else query.pageSize).SaysPositive 20
    request.pageSize
  small : request.pageSize ≤ 100
  offset : (((request.page - 1 : ℕ) * request.pageSize : ℕ) : Int) ≤ maxSafeInteger
  search : query.search.SaysSearch request.search

section Requests

variable {value : QueryValue} {fallback n : ℕ+} {s : String} {o : Option Int}

/-- The pattern of whole numbers takes digits only. -/
theorem test_wholeRe {str : List Char} :
    test wholeRe str = true ↔ str ≠ [] ∧ ∀ c ∈ str, c.isDigit = true := by
  constructor
  · intro matched
    obtain ⟨found, matched⟩ := Option.isSome_iff_exists.mp matched
    exact spells_wholeRe matched
  · rintro ⟨nonempty, all⟩
    rw [test, firstMatch_wholeRe nonempty all]
    rfl

theorem less_zero_natCast (m : ℕ) : Number.less 0 (.finite m) = decide (0 < m) := by
  rw [zero_eq]
  exact decide_eq_decide.mpr (by rw [Nat.cast_zero, Nat.cast_pos])

/-- A parameter is a positive integer, or is left out for its default. -/
theorem parsePositiveInteger_eq_some :
    parsePositiveInteger value fallback = some n ↔ value.SaysPositive fallback n := by
  cases value with
  | absent => exact ⟨fun read => (Option.some.inj read).symm, fun same => congrArg _ same.symm⟩
  | other => exact iff_of_false (fun read => by cases read) id
  | text s =>
      by_cases digits : test wholeRe s.toList = true
      · obtain ⟨nonempty, all⟩ := test_wholeRe.mp digits
        simp only [parsePositiveInteger, digits, if_true, Number.parseInt_digits nonempty all]
        rw [QueryValue.SaysPositive]
        generalize Number.decimal s.toList = m
        by_cases safe : (m : Int) ≤ maxSafeInteger
        · have whole : Number.ofRat m = .finite m :=
            Number.ofRat_natCast ((Int.ofNat_le.mp safe).trans (by decide))
          have checked := isSafeInteger_ofRat.mpr safe
          rw [whole] at checked ⊢
          rw [checked, less_zero_natCast, Bool.true_and, integer_natCast, Int.toNat_natCast]
          constructor
          · intro read
            obtain ⟨pos, read⟩ := Option.ite_none_right_eq_some.mp read
            have same : m = n := by
              rw [← Option.some.inj read, Nat.toPNat'_coe, if_pos (of_decide_eq_true pos)]
            exact ⟨nonempty, all, same, same ▸ safe⟩
          · rintro ⟨-, -, rfl, -⟩
            rw [decide_eq_true n.pos, if_pos rfl, PNat.coe_toPNat']
        · have refused : Number.isSafeInteger (.ofRat m) = false :=
            Bool.eq_false_of_not_eq_true fun checked => safe (isSafeInteger_ofRat.mp checked)
          rw [refused, Bool.false_and]
          refine iff_of_false (fun read => by cases read) ?_
          rintro ⟨-, -, rfl, own⟩
          exact safe own
      · have refused : parsePositiveInteger (.text s) fallback = none := if_neg digits
        rw [refused]
        refine iff_of_false (fun read => by cases read) ?_
        rintro ⟨nonempty, all, -⟩
        exact digits (test_wholeRe.mpr ⟨nonempty, all⟩)

/-- Products of naturals are safe integers up to `2 ^ 53 - 1`, rounding or not. -/
theorem offset_safe {a b : ℕ} :
    Number.isSafeInteger (.finite a * .finite b) = true ↔ ((a * b : ℕ) : Int) ≤ maxSafeInteger := by
  have product : (Number.finite a * .finite b : Number) = .ofRat (a * b : ℕ) := by
    rw [Nat.cast_mul]
    rfl
  rw [product, isSafeInteger_ofRat]

/-- What counts as a date search is four digits and a hyphen. -/
theorem startsWithYear_iff {text : List Char} :
    test startsWithYearRe text = true ↔ StartsLikeDate text := by
  rw [startsWithYearRe, test_prefix]
  constructor
  · rintro ⟨_, rest, rfl, shape⟩
    obtain ⟨year, _, rfl, digits, _ | ⟨dash, ⟨⟩⟩⟩ := exists_digits 4 shape
    obtain rfl := of_decide_eq_true dash
    exact ⟨year, rest, List.append_assoc .., digits⟩
  · rintro ⟨year, rest, rfl, digits⟩
    exact ⟨year ++ ['-'], rest, by simp, List.rel_append digits.forall₂ (.cons rfl .nil)⟩

/-- The first ten characters of an instant are a date only in the years 0 to 9999. -/
theorem take_toIsoString_eq {date : Date} {text : List Char} (digit : text.head?.any Char.isDigit) :
    (toIsoString date).take 10 = text ↔
      0 ≤ date.year ∧ date.year ≤ 9999 ∧ text = (isoText date).toList := by
  by_cases range : 0 ≤ date.year ∧ date.year ≤ 9999
  · have whole : (toIsoString date).take 10 = (isoText date).toList := by
      have shown : (isoText date).toList = ['-'].intercalate [Number.padded 4 date.year.toNat,
          Number.padded 2 (date.month + 1), Number.padded 2 date.day] := String.toList_ofList
      rw [toIsoString, if_pos range, shown, intercalate_three]
      refine List.take_left' ?_
      simp
    rw [whole]
    exact ⟨fun same => ⟨range.1, range.2, same.symm⟩, fun same => same.2.2.symm⟩
  · refine iff_of_false (fun same => ?_) fun same => range ⟨same.1, same.2.1⟩
    rw [← same, toIsoString, if_neg range, intercalate_three] at digit
    split at digit <;> cases digit

/-- A date search names a day of the calendar. -/
theorem parseDateSearch_eq_ok : parseDateSearch s = .ok o ↔ SaysDay s o := by
  have starting : ∀ {date}, WritesIso s.toList date → StartsLikeDate s.toList := by
    rintro date ⟨year, month, day, text, digits, -⟩
    rw [intercalate_three] at text
    exact ⟨year, _, text, digits⟩
  by_cases starts : StartsLikeDate s.toList
  · have tested := startsWithYear_iff.mpr starts
    by_cases shape : List.Forall₂ (fun accepts c => accepts c = true) isoClasses s.toList
    · have isoTested : test isoDateRe s.toList = true := test_classes.mpr shape
      obtain ⟨year, month, day, text, hy, hm, hd⟩ := isoShape shape
      have parts := splitOn_three '-' (hy.notMem rfl) (hm.notMem rfl) (hd.notMem rfl)
      have digit : s.toList.head?.any Char.isDigit = true := by
        rw [text, intercalate_three]
        cases year with
        | nil => cases hy.1
        | cons c year => exact hy.2 c List.mem_cons_self
      rw [← text] at parts
      simp only [parseDateSearch, tested, isoTested, if_true, parts, take_toIsoString_eq digit]
      cases o with
      | none =>
          refine iff_of_false (fun read => ?_) (not_not.mpr starts)
          split at read <;> cases read
      | some d =>
          constructor
          · intro read
            split at read
            · rename_i valid
              obtain ⟨known, low, high, same⟩ := valid
              cases read
              have writes := writesIso_isoText low high
              rw [← same] at writes
              refine ⟨_, writes, ?_, (Date.toDay_ofDay _).symm⟩
              obtain ⟨year', month', day', text', hy', hm', hd', year_, -⟩ := id writes
              have parts' := splitOn_three '-' (hy'.notMem rfl) (hm'.notMem rfl) (hd'.notMem rfl)
              rw [← text', parts] at parts'
              obtain ⟨rfl, -, -⟩ : year = year' ∧ month = month' ∧ day = day' := by
                simpa using parts'
              omega
            · cases read
          · rintro ⟨date, writes, known, rfl⟩
            have same := isoText_of_writes writes
            obtain ⟨year', month', day', text', hy', hm', hd', year_, month_, day_⟩ := id writes
            have parts' := splitOn_three '-' (hy'.notMem rfl) (hm'.notMem rfl) (hd'.notMem rfl)
            rw [← text', parts] at parts'
            obtain ⟨rfl, rfl, rfl⟩ : year = year' ∧ month = month' ∧ day = day' := by
              simpa using parts'
            have named : makeDay (Number.decimal year) ((Number.decimal month : Int) - 1)
                (Number.decimal day) = date.toDay := by
              rw [year_, month_, day_, ← makeDay_date]
              simp
            have small := hy.decimal_lt
            rw [named, Date.ofDay_toDay, if_pos]
            refine ⟨by omega, by omega, by omega, ?_⟩
            rw [← same, String.toList_ofList]
    · have isoTested : test isoDateRe s.toList = false :=
        Bool.eq_false_of_not_eq_true fun tested => shape (test_classes.mp tested)
      have refused : parseDateSearch s = .error .invalidDate := by
        simp [parseDateSearch, tested, isoTested]
      rw [refused]
      refine iff_of_false (fun read => by cases read) ?_
      cases o with
      | none => exact not_not.mpr starts
      | some day =>
          rintro ⟨date, writes, -⟩
          exact shape writes.shape
  · have untested : test startsWithYearRe s.toList = false :=
      Bool.eq_false_of_not_eq_true fun tested => starts (startsWithYear_iff.mp tested)
    have none_ : parseDateSearch s = .ok none := by
      simp [parseDateSearch, untested]
    rw [none_]
    cases o with
    | none => exact iff_of_true rfl starts
    | some day =>
        refine iff_of_false (fun read => by cases read) ?_
        rintro ⟨date, writes, -⟩
        exact starts (starting writes)

theorem parseSearch_eq_ok {search : Search} :
    parseSearch value = .ok search ↔ value.SaysSearch search := by
  cases value with
  | absent => exact ⟨fun read => (Except.ok.inj read).symm, fun same => congrArg _ same.symm⟩
  | other => exact iff_of_false (fun read => by cases read) id
  | text s =>
      rw [parseSearch, QueryValue.SaysSearch]
      by_cases long : 200 < jsLength (trim s)
      · rw [if_pos long]
        refine iff_of_false (fun read => by cases read) ?_
        rintro ⟨-, short, -⟩
        omega
      · rw [if_neg long, map_eq_ok]
        simp only [parseDateSearch_eq_ok]
        constructor
        · rintro ⟨o, day, rfl⟩
          exact ⟨rfl, not_lt.mp long, day⟩
        · rintro ⟨same, -, day⟩
          exact ⟨search.date, day, by rw [← same]⟩

/-- Exactly the valid requests are accepted, each as it reads. -/
theorem parseRequest_eq_ok {query : ListQuery} {request : ListRequest} :
    parseRequest query = .ok request ↔ query.Says request := by
  simp only [parseRequest, bind_eq_ok, orThrow_eq_ok, ensure_eq_ok, parsePositiveInteger_eq_some,
    offset_safe, parseSearch_eq_ok, pure_eq_ok]
  constructor
  · rintro ⟨page, hpage, size, hsize, -, small, -, offset, search, hsearch, rfl⟩
    exact ⟨hpage, hsize, small, offset, hsearch⟩
  · intro h
    exact ⟨_, h.page, _, h.pageSize, ⟨⟩, h.small, ⟨⟩, h.offset, _, h.search, rfl⟩

end Requests

/-! ### What is listed -/

/-- The user imported a document of the purchase. -/
def Owns (userId : Nat) (s : Db) (id : Nat) : Prop :=
  ∃ k d, s.purchaseDocuments.get? k = some d ∧ d.purchaseId = id ∧ d.importedByUserId = userId

/-- A purchase of the user whose reference contains the search, or whose order date is
the day that the search names. -/
def Matches (userId : Nat) (search : Search) (s : Db) (id : Nat) : Prop :=
  ∃ p, s.purchases.get? id = some p ∧ Owns userId s id ∧
    (search.text = "" ∨
      (lower search.text).toList <:+: (lower p.sourceOrderReference).toList ∨
      ∃ day date, search.date = some day ∧ p.sourceOrderDate = some date ∧
        date / msPerDay = day)

def orderDate (s : Db) (id : Nat) : Option Int := (s.purchases.get? id).bind Purchase.sourceOrderDate

/-- The strict order of the history. -/
def Precedes (userId : Nat) (s : Db) (a b : Nat) : Prop :=
  resolutionPriority userId a s < resolutionPriority userId b s ∨
    resolutionPriority userId a s = resolutionPriority userId b s ∧
      (laterFirst (orderDate s a) (orderDate s b) ∨ orderDate s a = orderDate s b ∧ b < a)

/-- The purchase is still there with a document of the user. -/
def Loadable (userId : Nat) (s : Db) (id : Nat) : Prop :=
  (s.purchases.get? id).isSome ∧ Owns userId s id

section Listing

variable {lower} {userId id : Nat} {search : Search} {s : Db} {p : Purchase}

/-- Some document of the purchase is the user's own. -/
theorem ownDocuments_ne_nil {db : Db} : ownDocuments userId id db ≠ [] ↔
    ∃ k d, db.purchaseDocuments.get? k = some d ∧ d.purchaseId = id ∧
      d.importedByUserId = userId := by
  rw [ownDocuments]
  constructor
  · intro some_
    obtain ⟨⟨k, d⟩, mem⟩ := List.exists_mem_of_ne_nil _ some_
    obtain ⟨found, own⟩ := Table.mem_select.mp mem
    exact ⟨k, d, found, of_decide_eq_true own⟩
  · rintro ⟨k, d, found, own⟩
    exact List.ne_nil_of_mem (Table.mem_select.mpr ⟨found, decide_eq_true own⟩)

/-- The search is empty, part of the order reference without regard to case, or the day of
the order. -/
theorem searchFilter_iff : searchFilter lower search p = true ↔
    search.text = "" ∨
      (lower search.text).toList <:+: (lower p.sourceOrderReference).toList ∨
      ∃ day date, search.date = some day ∧ p.sourceOrderDate = some date ∧
        date / msPerDay = day := by
  rw [searchFilter, Bool.or_eq_true, Bool.or_eq_true, decide_eq_true_eq, decide_eq_true_eq,
    strpos_pos, or_assoc]
  refine or_congr_right (or_congr_right ?_)
  cases search.date with
  | none => simp
  | some day =>
      cases p.sourceOrderDate with
      | none => simp
      | some date =>
          change (decide (day * msPerDay ≤ date) &&
            decide (date < day * msPerDay + msPerDay)) = true ↔ _
          simp only [Bool.and_eq_true, decide_eq_true_eq, Option.some.injEq]
          rw [msPerDay]
          constructor
          · rintro ⟨from_, until_⟩
            exact ⟨day, date, rfl, rfl, by omega⟩
          · rintro ⟨_, _, rfl, rfl, rfl⟩
            omega

/-- The filter of the query selects the matching purchases. -/
theorem mem_scope : (∃ p, s.purchases.get? id = some p ∧
    purchaseScope lower userId search s id p = true) ↔ Matches lower userId search s id := by
  simp only [purchaseScope, Bool.and_eq_true, decide_eq_true_eq, ownDocuments_ne_nil,
    searchFilter_iff, Matches, Owns]

/-- Missing dates behind the given ones, and these from the last to the first. -/
def dateKey : Option Int → ℕ ×ₗ ℤ
  | some date => toLex (0, -date)
  | none => toLex (1, 0)

/-- The order as one of keys. -/
def sortKey (userId : Nat) (s : Db) (e : Nat × Purchase) : ℕ ×ₗ (ℕ ×ₗ ℤ) ×ₗ ℤ :=
  toLex (resolutionPriority userId e.1 s, toLex (dateKey e.2.sourceOrderDate, -(e.1 : ℤ)))

theorem laterFirst_iff {x y : Option Int} : laterFirst x y ↔ dateKey x < dateKey y := by
  cases x <;> cases y <;> simp [laterFirst, dateKey, Prod.Lex.toLex_lt_toLex]

theorem dateKey_inj {x y : Option Int} : dateKey x = dateKey y ↔ x = y := by
  cases x <;> cases y <;> simp [dateKey]

/-- Unresolved purchases come first, then later dates, then larger ids, as one key. -/
theorem before_iff {a b : Nat × Purchase} :
    before userId s a b ↔ sortKey userId s a ≤ sortKey userId s b := by
  rw [sortKey, sortKey, Prod.Lex.toLex_le_toLex, Prod.Lex.toLex_le_toLex, before, laterFirst_iff,
    dateKey_inj]
  simp only [neg_le_neg_iff, Nat.cast_le]

/-- The order of the rows is that of their keys. -/
theorem precedes_iff {a b : Nat × Purchase} (ha : s.purchases.get? a.1 = some a.2)
    (hb : s.purchases.get? b.1 = some b.2) :
    Precedes userId s a.1 b.1 ↔ sortKey userId s a < sortKey userId s b := by
  rw [sortKey, sortKey, Prod.Lex.toLex_lt_toLex, Prod.Lex.toLex_lt_toLex, Precedes, laterFirst_iff,
    dateKey_inj]
  simp only [orderDate, ha, hb, Option.bind_some, neg_lt_neg_iff, Nat.cast_lt]

/-- The sorted ids are those of the matching purchases. -/
theorem mem_sortedIds :
    id ∈ sortedIds lower userId search s ↔ Matches lower userId search s id := by
  rw [sortedIds, Table.mem_keys_selectBy]
  exact mem_scope

theorem nodup_sortedIds : (sortedIds lower userId search s).Nodup :=
  Table.nodup_keys_selectBy _ _

/-- No two purchases tie, since no two have one id. -/
theorem pairwise_sortedIds : (sortedIds lower userId search s).Pairwise (Precedes userId s) := by
  have total : Std.Total (before userId s) := ⟨fun a b => by
    simpa only [before_iff] using le_total (sortKey userId s a) (sortKey userId s b)⟩
  have trans : IsTrans (Nat × Purchase) (before userId s) := ⟨fun a b c => by
    simpa only [before_iff] using le_trans⟩
  have sorted : (s.purchases.selectBy (purchaseScope lower userId search s)
      (before userId s)).Pairwise fun a b => sortKey userId s a ≤ sortKey userId s b :=
    (List.pairwise_insertionSort _ _).imp before_iff.mp
  have distinct : (s.purchases.selectBy (purchaseScope lower userId search s)
      (before userId s)).Pairwise fun a b => a.1 ≠ b.1 := List.pairwise_map.mp nodup_sortedIds
  refine List.pairwise_map.mpr ((sorted.and distinct).imp_of_mem ?_)
  rintro a b ha hb ⟨le, ne⟩
  have keys : sortKey userId s a ≠ sortKey userId s b := fun same => ne (by
    have last := congrArg (fun k => (ofLex (ofLex k).2).2) same
    simpa [sortKey] using last)
  exact (precedes_iff (Table.mem_selectBy.mp ha).1 (Table.mem_selectBy.mp hb).1).mpr
    (lt_of_le_of_ne le keys)

/-- The count that is shown is that of the rows that are paged. -/
theorem length_sortedIds :
    (s.purchases.select (purchaseScope lower userId search s)).length =
      (sortedIds lower userId search s).length := by
  rw [sortedIds, List.length_map, Table.selectBy, List.length_insertionSort]

/-- A purchase is shown with the user's documents, and only if there are any. -/
theorem loadPurchase_eq_some {entry : ListedPurchase} :
    loadPurchase userId s id = some entry ↔ s.purchases.get? id = some entry.purchase ∧
      Owns userId s id ∧ entry = ⟨id, entry.purchase, ownDocuments userId id s⟩ := by
  rw [loadPurchase]
  cases s.purchases.get? id with
  | none =>
      refine iff_of_false (fun read => by cases read) ?_
      rintro ⟨⟨⟩, -⟩
  | some p =>
      dsimp only
      rw [Option.ite_none_left_eq_some, Option.some.injEq, ← Ne, ownDocuments_ne_nil]
      constructor
      · rintro ⟨own, rfl⟩
        exact ⟨rfl, own, rfl⟩
      · rintro ⟨same, own, entry_⟩
        obtain rfl := Option.some.inj same
        exact ⟨own, entry_.symm⟩

/-- As many pages hold everything. -/
theorem le_ceil_mul (n : ℕ) (size : ℕ+) : n ≤ (n + size - 1) / size * size := by
  have pos := size.pos
  have split := Nat.div_add_mod (n + size - 1) size
  have small := Nat.mod_lt (n + size - 1) pos
  rw [Nat.mul_comm] at split
  omega

theorem loadPurchase_isSome : (loadPurchase userId s id).isSome = true ↔ Loadable userId s id := by
  rw [Option.isSome_iff_exists]
  constructor
  · rintro ⟨entry, loaded⟩
    obtain ⟨found, own, -⟩ := loadPurchase_eq_some.mp loaded
    exact ⟨Option.isSome_of_eq_some found, own⟩
  · rintro ⟨there, own⟩
    obtain ⟨p, found⟩ := Option.isSome_iff_exists.mp there
    exact ⟨⟨id, p, ownDocuments userId id s⟩, loadPurchase_eq_some.mpr ⟨found, own, rfl⟩⟩

/-- What was selected is listed in its order, as far as it can be loaded. -/
theorem listed_ids (ids : List Nat) :
    (ids.filterMap (loadPurchase userId s)).map ListedPurchase.id =
      ids.filter fun id => (loadPurchase userId s id).isSome := by
  have each : ∀ id, (loadPurchase userId s id).map ListedPurchase.id =
      Option.guard (fun id => (loadPurchase userId s id).isSome) id := by
    intro id
    cases loaded : loadPurchase userId s id with
    | none => simp [Option.guard, loaded]
    | some entry =>
        have own := (loadPurchase_eq_some.mp loaded).2.2
        simp [Option.guard, loaded, congrArg ListedPurchase.id own]
  rw [List.map_filterMap, funext each, List.filterMap_eq_filter]

/-- What matches has a document of the user's. -/
theorem Matches.loadable (h : Matches lower userId search s id) : Loadable userId s id := by
  obtain ⟨p, found, own, -⟩ := h
  exact ⟨Option.isSome_of_eq_some found, own⟩

/-- Nothing is lost in one state. -/
theorem page_listed (request : ListRequest) :
    ((pageIds lower userId request s).filterMap (loadPurchase userId s)).map ListedPurchase.id =
      pageIds lower userId request s := by
  rw [listed_ids, List.filter_eq_self]
  intro id mem
  have matched := mem_sortedIds.mp ((pageOf_sublist _ _ _).subset mem)
  exact loadPurchase_isSome.mpr matched.loadable

end Listing

/-- The history answers the valid requests. Over the pages of one state, the user's
matching purchases come once each and in their order, as many as counted. Whatever
changes between the queries, a page shows purchases that matched when it was selected,
with the user's own documents, and of those it selected all that are still there, in
their order. -/
theorem purchase_history (lower : String → String) (userId : Nat) :
    (∀ counted selected loaded query page,
      listPurchases lower counted selected loaded userId query = .ok page ↔
        ∃ request, query.Says request ∧
          page = respond lower counted selected loaded userId request) ∧
    (∀ (s : Db) (search : Search) (size : ℕ+), ∃ ids : List Nat,
      (∀ id, id ∈ ids ↔ Matches lower userId search s id) ∧ ids.Pairwise (Precedes userId s) ∧
      ∀ page : ℕ+, ∃ totalPages,
        (respond lower s s s userId ⟨page, size, search⟩).pagination =
          ⟨page, size, ids.length, totalPages, size, ids.length⟩ ∧
        ((List.range totalPages).flatMap fun i => (respond lower s s s userId
          ⟨i.succPNat, size, search⟩).purchases.map ListedPurchase.id) = ids ∧
        (respond lower s s s userId ⟨page, size, search⟩).purchases.map ListedPurchase.id =
          pageOf ids size page) ∧
    (∀ counted selected loaded request,
      ∀ entry ∈ (respond lower counted selected loaded userId request).purchases,
        Matches lower userId request.search selected entry.id ∧
        loaded.purchases.get? entry.id = some entry.purchase ∧
        ∀ k d, (k, d) ∈ entry.purchaseDocuments ↔ loaded.purchaseDocuments.get? k = some d ∧
          d.purchaseId = entry.id ∧ d.importedByUserId = userId) ∧
    ∀ counted selected loaded request, ∃ keep : Nat → Bool,
      (∀ id, keep id = true ↔ Loadable userId loaded id) ∧
      (respond lower counted selected loaded userId request).purchases.map ListedPurchase.id =
        ((respond lower selected selected selected userId request).purchases.map
          ListedPurchase.id).filter keep := by
  refine ⟨fun counted selected loaded query page => ?_, fun s search size => ?_,
    fun counted selected loaded request entry mem => ?_,
    fun counted selected loaded request => ⟨fun id => (loadPurchase userId loaded id).isSome,
      fun id => loadPurchase_isSome, ?_⟩⟩
  · simp only [listPurchases, bind_eq_ok, parseRequest_eq_ok, pure_eq_ok]
    exact exists_congr fun request => and_congr_right fun _ => eq_comm
  · refine ⟨sortedIds lower userId search s, fun id => mem_sortedIds, pairwise_sortedIds,
      fun page => ⟨((sortedIds lower userId search s).length + size - 1) / size, ?_, ?_,
        page_listed ⟨page, size, search⟩⟩⟩
    · simp only [respond, length_sortedIds]
    · have pages : ∀ i : ℕ, (respond lower s s s userId
          ⟨i.succPNat, size, search⟩).purchases.map ListedPurchase.id =
            pageOf (sortedIds lower userId search s) size i.succPNat := fun i =>
        page_listed ⟨i.succPNat, size, search⟩
      simp only [pages]
      rw [flatMap_pageOf]
      exact List.take_of_length_le (le_ceil_mul _ size)
  · obtain ⟨id, on, loaded_⟩ := List.mem_filterMap.mp mem
    obtain ⟨found, own, same⟩ := loadPurchase_eq_some.mp loaded_
    have own_ : entry.id = id := by rw [same]
    have documents : entry.purchaseDocuments = ownDocuments userId id loaded := by rw [same]
    rw [own_, documents]
    refine ⟨mem_sortedIds.mp ((pageOf_sublist _ _ _).subset on), found, fun k d => ?_⟩
    rw [ownDocuments, Table.mem_select, decide_eq_true_eq]
  · simp only [respond, page_listed]
    exact listed_ids _

end ColorfulLife.PurchaseHistory
