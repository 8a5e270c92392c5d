/-
What the review shows of a purchase (`represent`): the groups of its lines, with
their costs and states.

`groups` fills a map from identity texts to growing arrays of lines. Its groups
partition the lines, and since the documents reconcile, the groups' costs add up
to what was paid.
-/

import ColorfulLife.Purchases.Progress
import ColorfulLife.Relational.Grouping
import Mathlib.Data.Int.Log

namespace ColorfulLife

open Relational

/-! ### Quotients of decimals -/

/-- Half away from zero. -/
def roundHalfUp (x : ℚ) : Int := if 0 ≤ x then ⌊x + 1 / 2⌋ else -⌊-x + 1 / 2⌋

/-- The value to as many significant digits. -/
def toSignificant (digits : Nat) (x : ℚ) : ℚ :=
  let places : Int := digits - 1 - Int.log 10 |x|
  if x = 0 then 0 else roundHalfUp (x * 10 ^ places) / 10 ^ places

inductive DecimalQuotient where
  | finite (value : ℚ)
  | infinite (negative : Bool)
  | nan
  deriving DecidableEq

/-- `Decimal.div`, to twenty significant digits. -/
def decimalDiv (a b : ℚ) : DecimalQuotient :=
  if b = 0 then if a = 0 then .nan else .infinite (decide (a < 0))
  else .finite (toSignificant 20 (a / b))

namespace DecimalQuotient

/-- `Decimal.equals`: `NaN` is not equal to itself. -/
def equals : DecimalQuotient → DecimalQuotient → Bool
  | finite x, finite y => decide (x = y)
  | infinite m, infinite n => m == n
  | _, _ => false

/-- `toFixed(6)`. -/
def toFixed6 : DecimalQuotient → String
  | finite x =>
      let n := (roundHalfUp (x * 1000000)).natAbs
      let fraction := toString (n % 1000000)
      (if x < 0 then "-" else "") ++ toString (n / 1000000) ++ "." ++
        String.ofList (List.replicate (6 - fraction.length) '0') ++ fraction
  | infinite negative => if negative then "-Infinity" else "Infinity"
  | nan => "NaN"

end DecimalQuotient

/-! ### The map of groups -/

/-- The text of an identity. -/
def LineIdentity.key : LineIdentity → String
  | .external externalProductId => "external:" ++ externalProductId
  | .set sourceSetNumber => "set:" ++ sourceSetNumber
  | .line id => "line:" ++ toString id

/-- `Map<string, Line[]>`: every line is put at the end of its array. -/
def groupMap (purchase : ReviewPurchase) : List (String × List ReviewLine) :=
  collect (fun line => (identity line).key) (fun old line => old.getD [] ++ [line]) purchase.lines

/-! ### What is shown -/

inductive CostKind where
  | unit
  | weightedAverage
  deriving DecidableEq, Repr

inductive GroupDisposition where
  | inventory
  | nonInventory
  | mixed
  deriving DecidableEq, Repr

inductive GroupState where
  | received
  | excluded
  | matched
  | unresolved
  deriving DecidableEq, Repr

structure RepresentedLine where
  line : ReviewLine
  canAmend : Bool
  canAmendCost : Bool
  deriving DecidableEq, Repr

structure ReviewGroup where
  id : Nat
  sourceItemIds : List Nat
  description : String
  externalProductId : Option String
  sourceSetNumber : Option String
  quantity : Int
  pendingQuantity : Int
  totalCost : String
  unitCost : String
  costKind : CostKind
  inventoryDisposition : GroupDisposition
  listing : Option ListingSummary
  state : GroupState
  canResolve : Bool
  lines : List RepresentedLine
  deriving DecidableEq, Repr

structure Representation where
  purchase : ReviewPurchase
  revision : String
  totalCost : String
  groups : List ReviewGroup
  deriving DecidableEq, Repr

def ReviewLine.unreceived (line : ReviewLine) : Bool := line.item.receivedAt.isNone

def sumQuantity (lines : List ReviewLine) : Int := (lines.map fun l => l.item.quantity).sum

def sumCost (lines : List ReviewLine) : Pence := (lines.map fun l => l.item.finalLineCost).sum

/-- The cost of one unit of a line. -/
def ReviewLine.unitQuotient (line : ReviewLine) : DecimalQuotient :=
  decimalDiv (line.item.finalLineCost / 100) line.item.quantity

def allInventory (lines : List ReviewLine) : Bool :=
  lines.all fun l => decide (l.item.inventoryDisposition = .inventory)

def allNonInventory (lines : List ReviewLine) : Bool :=
  lines.all fun l => decide (l.item.inventoryDisposition = .nonInventory)

/-- The listing of the first line, when every line is an inventory line of it. -/
def consistentListing (first : ReviewLine) (lines : List ReviewLine) : Option ListingSummary :=
  first.productListing.filter fun listing =>
    allInventory lines && lines.all fun l => decide (l.item.productListingId = some listing.id)

def representLine (purchase : ReviewPurchase) (line : ReviewLine) : RepresentedLine where
  line := line
  canAmend := line.unreceived
  canAmendCost :=
    ((purchase.purchaseDocuments.find? fun d => decide (d.id = line.item.purchaseDocumentId)).any
      fun doc => doc.purchaseItems.all ReviewLine.unreceived) &&
    decide (line.item.originalGrossUnitCost * line.item.quantity =
      line.item.originalGrossLineTotal)

/-- A group, whose first line is `first`. -/
def representGroup (purchase : ReviewPurchase) (first : ReviewLine) (lines : List ReviewLine) :
    ReviewGroup where
  id := first.id
  sourceItemIds := lines.map ReviewLine.id
  description := first.item.sourceDescription
  externalProductId := first.item.externalProductId
  sourceSetNumber :=
    if lines.all fun l => decide (l.item.sourceSetNumber = first.item.sourceSetNumber) then
      first.item.sourceSetNumber
    else none
  quantity := sumQuantity lines
  pendingQuantity := sumQuantity (lines.filter ReviewLine.unreceived)
  totalCost := toFixed (sumCost lines)
  unitCost := (decimalDiv (sumCost lines / 100) (sumQuantity lines)).toFixed6
  costKind :=
    if lines.all fun l => l.unitQuotient.equals first.unitQuotient then .unit else .weightedAverage
  inventoryDisposition :=
    if allNonInventory lines then .nonInventory
    else if allInventory lines then .inventory else .mixed
  listing := consistentListing first lines
  state :=
    if lines.all fun l => !l.unreceived then .received
    else if allNonInventory lines then .excluded
    else if (consistentListing first lines).isSome then .matched else .unresolved
  canResolve := lines.all ReviewLine.unreceived
  lines := lines.map (representLine purchase)

/-- A group has a first line. -/
def representLines (purchase : ReviewPurchase) (lines : List ReviewLine) : Option ReviewGroup :=
  lines.head?.map fun first => representGroup purchase first lines

def represent (revisionOf : ReviewPurchase → String) (purchase : ReviewPurchase) :
    Representation where
  purchase := purchase
  revision := revisionOf purchase
  totalCost := toFixed (purchase.purchaseDocuments.map fun d => d.document.finalTotalPaid).sum
  groups := (groups purchase).filterMap (representLines purchase)

/-! ### The groups are those of the map -/

theorem LineIdentity.key_injective : Function.Injective LineIdentity.key := by
  intro a b same
  have chars := congrArg String.toList same
  cases a <;> cases b <;>
    simp only [key, String.toList_append, String.reduceToList, List.cons_append, List.nil_append,
      List.cons.injEq, Char.reduceEq, false_and, and_false, true_and, String.toList_inj] at chars
  · rw [chars]
  · rw [chars]
  · rename_i m n
    have digits : Nat.toDigits 10 m = Nat.toDigits 10 n := by
      simpa [toString] using congrArg String.toList chars
    rw [← Nat.ofDigitChars_ten_toDigits (n := m), digits, Nat.ofDigitChars_ten_toDigits]

theorem foldl_concat {α : Type} (lines start : List α) :
    lines.foldl (fun old line => old ++ [line]) start = start ++ lines := by
  induction lines generalizing start with
  | nil => simp
  | cons line lines ih => rw [List.foldl_cons, ih, List.append_assoc, List.singleton_append]

theorem groups_eq_groupMap (purchase : ReviewPurchase) : groups purchase =
    (groupMap purchase).map fun e => e.2.insertionSort fun a b => a.id ≤ b.id := by
  rw [groupMap, collect_eq _ fun old line => old ++ [line],
    firstKeys_rename LineIdentity.key_injective, List.map_map, List.map_map]
  refine List.map_congr_left fun k _ => ?_
  rw [Function.comp_apply, Function.comp_apply, foldl_concat, List.nil_append,
    rowsAt_rename LineIdentity.key_injective]
  rfl

/-! ### A partition -/

section Partition

variable {db : Db} {userId purchaseId : Nat} {purchase : ReviewPurchase} {lines : List ReviewLine}

theorem perm_linesOf (purchase : ReviewPurchase) (k : LineIdentity) :
    (linesOf purchase k).Perm (rowsAt identity purchase.lines k) :=
  List.perm_insertionSort _ _

theorem mem_groups : lines ∈ groups purchase ↔
    ∃ k ∈ firstKeys identity purchase.lines, linesOf purchase k = lines :=
  List.mem_map

/-- A line is in the group of its identity and in no other. -/
theorem mem_group_iff {line : ReviewLine} (mem : line ∈ purchase.lines) :
    lines ∈ groups purchase ∧ line ∈ lines ↔ lines = linesOf purchase (identity line) := by
  constructor
  · rintro ⟨group, own⟩
    obtain ⟨k, -, rfl⟩ := mem_groups.mp group
    rw [(mem_linesOf.mp own).2]
  · rintro rfl
    exact ⟨mem_groups.mpr ⟨_, mem_firstKeys.mpr ⟨line, mem, rfl⟩, rfl⟩,
      mem_linesOf.mpr ⟨mem, rfl⟩⟩

theorem exists_first (group : lines ∈ groups purchase) :
    ∃ first, lines.head? = some first ∧ first ∈ purchase.lines ∧
      lines = linesOf purchase (identity first) := by
  obtain ⟨k, hk, rfl⟩ := mem_groups.mp group
  obtain ⟨line, mem, own⟩ := mem_firstKeys.mp hk
  have nonempty := List.ne_nil_of_mem (mem_linesOf.mpr ⟨mem, own⟩)
  obtain ⟨first, rest, cons⟩ := List.exists_cons_of_ne_nil nonempty
  obtain ⟨mem, same⟩ := mem_linesOf.mp (cons ▸ List.mem_cons_self : first ∈ linesOf purchase k)
  exact ⟨first, by rw [cons]; rfl, mem, by rw [same]⟩

/-- A group is found under the id of its first line. -/
theorem findGroup_first (read : readPurchase userId purchaseId db = .ok purchase)
    (group : lines ∈ groups purchase) {first : ReviewLine} (head : lines.head? = some first) :
    findGroup purchase first.id = .ok lines := by
  obtain ⟨found, hfound⟩ : ∃ found, ((groups purchase).find? fun lines =>
      decide (lines.head?.map ReviewLine.id = some first.id)) = some found := by
    refine Option.isSome_iff_exists.mp (List.find?_isSome.mpr ⟨lines, group, ?_⟩)
    rw [head]
    exact decide_eq_true rfl
  obtain ⟨first', head', mem', own'⟩ := exists_first (List.mem_of_find?_eq_some hfound)
  have heads := List.find?_some hfound
  have ids := of_decide_eq_true heads
  rw [head', Option.map_some, Option.some.injEq] at ids
  obtain ⟨first'', head'', mem, own⟩ := exists_first group
  obtain rfl := Option.some.inj (head.symm.trans head'')
  obtain rfl := line_ext read mem' mem ids
  rw [findGroup, orThrow_eq_ok, hfound, own, own']

/-- What is shown of the groups, group by group. -/
theorem map_represented {β : Type} {show_ : ReviewGroup → β} {read : List ReviewLine → β}
    (same : ∀ first lines, lines.head? = some first →
      show_ (representGroup purchase first lines) = read lines)
    (revisionOf : ReviewPurchase → String) :
    (represent revisionOf purchase).groups.map show_ = (groups purchase).map read := by
  have nonempty : ∀ lines ∈ groups purchase, ∃ first, lines.head? = some first := fun lines group =>
    (exists_first group).imp fun _ h => h.1
  unfold represent
  dsimp only
  generalize groups purchase = all at nonempty
  induction all with
  | nil => rfl
  | cons lines rest ih =>
      obtain ⟨⟨first, head⟩, others⟩ := List.forall_mem_cons.mp nonempty
      have shown : representLines purchase lines = some (representGroup purchase first lines) := by
        rw [representLines, head, Option.map_some]
      rw [List.filterMap_cons_some shown, List.map_cons, List.map_cons, same first lines head,
        ih others]

theorem mem_represented {revisionOf : ReviewPurchase → String} {group : ReviewGroup}
    (mem : group ∈ (represent revisionOf purchase).groups) : ∃ first lines,
      lines ∈ groups purchase ∧ lines.head? = some first ∧
      group = representGroup purchase first lines := by
  obtain ⟨lines, hlines, shown⟩ := List.mem_filterMap.mp mem
  obtain ⟨first, head, rfl⟩ := Option.map_eq_some_iff.mp shown
  exact ⟨first, lines, hlines, head, rfl⟩

theorem nodup_represented_ids (read : readPurchase userId purchaseId db = .ok purchase)
    (revisionOf : ReviewPurchase → String) :
    ((represent revisionOf purchase).groups.map ReviewGroup.id).Nodup := by
  have ids : (represent revisionOf purchase).groups.map (fun g => some g.id) =
      (groups purchase).map fun lines => lines.head?.map ReviewLine.id :=
    map_represented (fun first lines head => by rw [head]; rfl) revisionOf
  have distinct : ((groups purchase).map fun lines => lines.head?.map ReviewLine.id).Nodup := by
    refine List.Nodup.map_on (fun lines group lines' group' same => ?_) ?_
    · obtain ⟨first, head, mem, rfl⟩ := exists_first group
      obtain ⟨first', head', mem', rfl⟩ := exists_first group'
      rw [head, head', Option.map_some, Option.map_some, Option.some.injEq] at same
      rw [line_ext read mem mem' same]
    · refine List.Nodup.map_on (fun k hk k' hk' same => ?_) (nodup_firstKeys identity _)
      obtain ⟨line, mem, rfl⟩ := mem_firstKeys.mp hk
      have own : line ∈ linesOf purchase k' := same ▸ mem_linesOf.mpr ⟨mem, rfl⟩
      exact (mem_linesOf.mp own).2
  rw [← ids] at distinct
  have maps : (represent revisionOf purchase).groups.map (fun g => some g.id) =
      ((represent revisionOf purchase).groups.map ReviewGroup.id).map some := by
    rw [List.map_map]
    rfl
  rw [maps] at distinct
  exact distinct.of_map

/-- Sums over the groups are sums over the lines. -/
theorem sum_groups_eq (g : ReviewLine → Int) :
    ((groups purchase).map fun lines => (lines.map g).sum).sum = (purchase.lines.map g).sum := by
  rw [← sum_groups identity purchase.lines g, groups, List.map_map]
  congr 1
  refine List.map_congr_left fun k _ => ?_
  exact ((perm_linesOf purchase k).map g).sum_eq

end Partition

/-! ### The laws of the review -/

section Laws

variable {db : Db} {userId purchaseId : Nat} {purchase : ReviewPurchase}

/-- Each document's lines add up to what was paid for it. -/
def ReviewPurchase.Reconciles (purchase : ReviewPurchase) : Prop :=
  ∀ d ∈ purchase.purchaseDocuments, sumCost d.purchaseItems = d.document.finalTotalPaid

/-- The groups are the map's, sorted: each line is in one of them, with the lines
of its identity, and each is found under its id. The groups' quantities and costs
are the purchase's. -/
structure GroupsPartition (revisionOf : ReviewPurchase → String) (purchase : ReviewPurchase) :
    Prop where
  map : groups purchase =
    (groupMap purchase).map fun e => e.2.insertionSort fun a b => a.id ≤ b.id
  shown : (represent revisionOf purchase).groups.map (fun g => g.lines.map RepresentedLine.line) =
    groups purchase
  once : ∀ line ∈ purchase.lines, ∃! lines, lines ∈ groups purchase ∧ line ∈ lines
  nothing_else : ∀ lines ∈ groups purchase, ∀ line ∈ lines, line ∈ purchase.lines
  together : ∀ line ∈ purchase.lines, ∀ other ∈ purchase.lines,
    (∃ lines ∈ groups purchase, line ∈ lines ∧ other ∈ lines) ↔ identity line = identity other
  apart : ∀ line other : ReviewLine,
    (identity line).key = (identity other).key ↔ identity line = identity other
  ids : ((represent revisionOf purchase).groups.map ReviewGroup.id).Nodup
  found : ∀ g ∈ (represent revisionOf purchase).groups,
    findGroup purchase g.id = .ok (g.lines.map RepresentedLine.line)
  quantities : ((represent revisionOf purchase).groups.map ReviewGroup.quantity).sum =
    sumQuantity purchase.lines
  costs : ∃ costs : List Pence,
    (represent revisionOf purchase).groups.map ReviewGroup.totalCost = costs.map toFixed ∧
      (represent revisionOf purchase).totalCost = toFixed costs.sum

theorem map_line_representLine (purchase : ReviewPurchase) (lines : List ReviewLine) :
    (lines.map (representLine purchase)).map RepresentedLine.line = lines := by
  rw [List.map_map]
  exact List.map_id lines

theorem ReviewPurchase.Reconciles.sumCost_lines (h : purchase.Reconciles) :
    sumCost purchase.lines =
      (purchase.purchaseDocuments.map fun d => d.document.finalTotalPaid).sum := by
  unfold sumCost ReviewPurchase.lines
  rw [List.map_flatMap, List.flatMap_def, List.sum_flatten, List.map_map]
  exact congrArg List.sum (List.map_congr_left h)

theorem represent_partitions (read : readPurchase userId purchaseId db = .ok purchase)
    (reconciles : purchase.Reconciles) (revisionOf : ReviewPurchase → String) :
    GroupsPartition revisionOf purchase where
  map := groups_eq_groupMap purchase
  shown := by
    rw [map_represented (fun first lines _ => map_line_representLine purchase lines)]
    exact List.map_id _
  once := fun line mem => by
    refine ⟨linesOf purchase (identity line), (mem_group_iff mem).mpr rfl, fun lines own => ?_⟩
    exact (mem_group_iff mem).mp own
  nothing_else := fun lines group line own => by
    obtain ⟨k, -, rfl⟩ := mem_groups.mp group
    exact (mem_linesOf.mp own).1
  together := fun line mem other mem' => by
    constructor
    · rintro ⟨lines, group, own, own'⟩
      obtain ⟨k, -, rfl⟩ := mem_groups.mp group
      exact (mem_linesOf.mp own).2.trans (mem_linesOf.mp own').2.symm
    · intro same
      obtain ⟨group, own⟩ := (mem_group_iff mem).mpr rfl
      exact ⟨_, group, own, mem_linesOf.mpr ⟨mem', same.symm⟩⟩
  apart := fun _ _ => LineIdentity.key_injective.eq_iff
  ids := nodup_represented_ids read revisionOf
  found := fun g mem => by
    obtain ⟨first, lines, group, head, rfl⟩ := mem_represented mem
    rw [representGroup, map_line_representLine]
    exact findGroup_first read group head
  quantities := by
    rw [map_represented (fun first lines _ => (rfl : _ = sumQuantity lines))]
    exact sum_groups_eq fun l => l.item.quantity
  costs := by
    refine ⟨(groups purchase).map sumCost, ?_, ?_⟩
    · rw [map_represented (fun first lines _ => (rfl : _ = toFixed (sumCost lines))), List.map_map]
      rfl
    · have total : ((groups purchase).map sumCost).sum = sumCost purchase.lines :=
        sum_groups_eq fun l => l.item.finalLineCost
      rw [total, reconciles.sumCost_lines]
      rfl

/-- What a matched group is: inventory lines of one listing, not all received. -/
theorem matched_lines {first : ReviewLine} {lines : List ReviewLine}
    (matched : (representGroup purchase first lines).state = .matched) : ∃ listing,
      first.productListing = some listing ∧
      (representGroup purchase first lines).listing = some listing ∧
      (∀ l ∈ lines, l.item.inventoryDisposition = .inventory) ∧
      (∀ l ∈ lines, l.item.productListingId = some listing.id) ∧
      lines.filter ReviewLine.unreceived ≠ [] := by
  simp only [representGroup] at matched
  split at matched
  · cases matched
  · rename_i pending
    split at matched
    · cases matched
    · split at matched
      · rename_i some_
        obtain ⟨listing, consistent⟩ := Option.isSome_iff_exists.mp some_
        obtain ⟨own, checks⟩ := Option.filter_eq_some_iff.mp consistent
        rw [Bool.and_eq_true, allInventory, List.all_eq_true, List.all_eq_true] at checks
        refine ⟨listing, own, consistent, fun l hl => of_decide_eq_true (checks.1 l hl),
          fun l hl => of_decide_eq_true (checks.2 l hl), fun none => pending ?_⟩
        rw [List.all_eq_true]
        intro l hl
        simpa using List.filter_eq_nil_iff.mp none l hl
      · cases matched

/-- A group is shown as matched only when a receipt would pass every check of its
lines, as long as its listing is active. -/
theorem matched_receivable (read : readPurchase userId purchaseId db = .ok purchase)
    {revisionOf : ReviewPurchase → String} {group : ReviewGroup}
    (mem : group ∈ (represent revisionOf purchase).groups) (matched : group.state = .matched) :
    ∃ listing, group.listing = some listing ∧ (listing.active = true → ∀ now,
      receiveReviewGroup revisionOf userId purchaseId group.id (revisionOf purchase) now db =
        (((group.lines.map RepresentedLine.line).filter ReviewLine.unreceived).foldlM
          (fun db line => receivePurchaseItemInTransaction userId line.id now db) db).mapError
            asReviewError) := by
  obtain ⟨first, lines, hlines, head, rfl⟩ := mem_represented mem
  obtain ⟨listing, own, shown, inventory, linked, pending⟩ := matched_lines matched
  refine ⟨listing, shown, fun active now => ?_⟩
  have found := findGroup_first read hlines head
  have checked : ∀ l ∈ lines, l.item.inventoryDisposition ≠ .nonInventory := fun l hl same => by
    rw [inventory l hl] at same
    cases same
  have chosen : (lines.head?.bind ReviewLine.productListing).filter ListingSummary.active =
      some listing := by
    rw [head, Option.bind_some, own, Option.filter_eq_some_iff]
    exact ⟨rfl, active⟩
  have unreceived : (lines.filter fun l => decide (l.item.receivedAt = none)) =
      lines.filter ReviewLine.unreceived :=
    List.filter_congr fun l _ => by cases h : l.item.receivedAt <;> simp [ReviewLine.unreceived, h]
  have lines_eq : (representGroup purchase first lines).lines.map RepresentedLine.line = lines :=
    map_line_representLine purchase lines
  rw [lines_eq, receiveReviewGroup, mutate, read, ok_bind, ensure_of rfl, ok_bind]
  dsimp only
  rw [show (representGroup purchase first lines).id = first.id from rfl, found, ok_bind,
    ensure_of checked, ok_bind, chosen, orThrow, ok_bind, ensure_of linked, ok_bind, unreceived,
    ensure_of pending, ok_bind]

/-- The groups of a reconciled purchase partition its lines and its costs, and a
matched group of an active listing is one that a receipt accepts. -/
theorem reviewGroups_partition (read : readPurchase userId purchaseId db = .ok purchase)
    (reconciles : purchase.Reconciles) (revisionOf : ReviewPurchase → String) :
    GroupsPartition revisionOf purchase ∧
      ∀ group ∈ (represent revisionOf purchase).groups, group.state = .matched →
        ∃ listing, group.listing = some listing ∧ (listing.active = true → ∀ now,
          receiveReviewGroup revisionOf userId purchaseId group.id (revisionOf purchase) now db =
            (((group.lines.map RepresentedLine.line).filter ReviewLine.unreceived).foldlM
              (fun db line => receivePurchaseItemInTransaction userId line.id now db) db).mapError
                asReviewError) :=
  ⟨represent_partitions read reconciles revisionOf,
    fun _ mem matched => matched_receivable read mem matched⟩

end Laws

/-- Two lines of one set in two documents, and one that names nothing. -/
def reviewedShop : Db :=
  let line (document : Nat) (set : Option String) (cost : Pence) : PurchaseItem :=
    ⟨document, set.map fun _ => 1, .inventory, none, "Line", set, none, 2, cost, cost, 0, 0, cost, 1,
      none, none⟩
  { sampleShop with
    purchases := Table.empty.insert ⟨"206-1", none, none⟩
    purchaseDocuments := (Table.empty.insert ⟨1, 1, none, "a", none, 7, 1500, 0, 0, 1500⟩).insert
      ⟨1, 2, none, "b", none, 7, 700, 0, 0, 700⟩
    purchaseItems := ((Table.empty.insert (line 1 (some " 10281 ") 1000)).insert
      (line 1 none 500)).insert (line 2 (some "10281") 700) }

/-- They make two groups, and the first is matched. -/
theorem reviewGroups_partition_reviewedShop : ∃ purchase,
    readPurchase 7 1 reviewedShop = .ok purchase ∧ GroupsPartition (fun _ => "") purchase ∧
      (represent (fun _ => "") purchase).groups.map
          (fun g => (g.id, g.quantity, g.totalCost, g.state)) =
        [(1, 4, "17.00", .matched), (2, 2, "5.00", .unresolved)] := by
  refine ⟨_, rfl, (reviewGroups_partition (rfl : readPurchase 7 1 reviewedShop = .ok _) ?_ _).1, ?_⟩
  · unfold ReviewPurchase.Reconciles
    decide
  · decide +kernel

end ColorfulLife
