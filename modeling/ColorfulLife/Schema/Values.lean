/-
Column types and enumerations of the database schema (`prisma/schema.prisma`).

Money columns are decimals with two places and are held as whole pence; a money
value that arrives from outside is a rational and is either checked to be a
whole number of pence (`penceOf`) or rounded to the column (`toColumn`). Texts
built by the services are values of inductive types with a rendering, so that a
statement about a movement's note or a provider reference is a statement about
its parts.
-/

import Mathlib.Data.List.DropRight
import Mathlib.Data.Rat.Floor
import Mathlib.Data.String.Basic

namespace ColorfulLife

/-! ### Numbers and instants -/

/-- A money column: pence. -/
abbrev Pence := Int

/-- Milliseconds since the epoch. -/
abbrev Time := Nat

/-- A `Date` of the language: milliseconds since 1970, which may be negative, or the
invalid date. -/
abbrev JsDate := Option Int

/-- The whole number of pence in an amount that is positive and has at most two
decimal places; the check every refund path makes on its input. -/
def penceOf (amount : ℚ) : Option Pence :=
  if amount ≤ 0 ∨ (amount * 100).den ≠ 1 then none else some (amount * 100).num

/-- `Decimal.toFixed(2)` of a money column. -/
def toFixed (p : Pence) : String :=
  (if p < 0 then "-" else "") ++ toString (p.natAbs / 100) ++ "." ++
    (if p.natAbs % 100 < 10 then "0" else "") ++ toString (p.natAbs % 100)

/-- The value a money column stores for a number: half away from zero at the
second place. -/
def toColumn (amount : ℚ) : Pence :=
  if 0 ≤ amount then ⌊amount * 100 + 1 / 2⌋ else -⌊-amount * 100 + 1 / 2⌋

theorem penceOf_pos {amount : ℚ} {p : Pence} (h : penceOf amount = some p) : 0 < p := by
  unfold penceOf at h
  split at h
  · cases h
  · rename_i ok
    rw [not_or, not_le] at ok
    obtain rfl := Option.some.inj h
    exact Rat.num_pos.mpr (by linarith [ok.1])

/-- `Number.MAX_SAFE_INTEGER`. -/
def maxSafeInteger : Int := 9007199254740991

/-! ### Text -/

/-- White space in the sense of `String.prototype.trim`. -/
def isSpace (c : Char) : Bool :=
  c.val ∈ [0x9, 0xA, 0xB, 0xC, 0xD, 0x20, 0xA0, 0x1680, 0x2028, 0x2029, 0x202F, 0x205F, 0x3000,
    0xFEFF] ∨ (0x2000 ≤ c.val ∧ c.val ≤ 0x200A)

/-- `String.prototype.trim`. -/
def trim (s : String) : String :=
  String.ofList ((s.toList.dropWhile isSpace).reverse.dropWhile isSpace).reverse

theorem trim_trim (s : String) : trim (trim s) = trim s := by
  have strip : ∀ l : List Char, ((l.dropWhile isSpace).rdropWhile isSpace).dropWhile isSpace =
      (l.dropWhile isSpace).rdropWhile isSpace := by
    intro l
    refine List.dropWhile_eq_self_iff.mpr fun pos => ?_
    have kept : (l.dropWhile isSpace).rdropWhile isSpace <+: l.dropWhile isSpace :=
      List.rdropWhile_prefix _ _
    rw [kept.getElem pos]
    exact List.dropWhile_get_zero_not _ _ (pos.trans_le kept.length_le)
  have written : ∀ l : List Char, trim (String.ofList l) =
      String.ofList ((l.dropWhile isSpace).rdropWhile isSpace) := fun l => by
    rw [trim, String.toList_ofList, List.rdropWhile]
  have again := written ((s.toList.dropWhile isSpace).rdropWhile isSpace)
  rw [strip, List.rdropWhile_idempotent] at again
  exact again

/-- `String.prototype.length`: UTF-16 code units. -/
def jsLength (s : String) : Nat :=
  (s.toList.map fun c => if c.val < 0x10000 then 1 else 2).sum

/-- `text?.trim() || undefined`. -/
def trimmedOrNone (text : Option String) : Option String :=
  text.bind fun s => if trim s = "" then none else some (trim s)

/-- A text that is there and not empty: a truthy optional string. -/
def given (text : Option String) : Option String := text.filter (decide <| · ≠ "")

/-- `String.prototype.toLowerCase` as far as currency codes go. -/
def toLower (s : String) : String := String.ofList (s.toList.map Char.toLower)

/-- `String.prototype.toUpperCase` as far as currency codes go. -/
def toUpper (s : String) : String := String.ofList (s.toList.map Char.toUpper)

/-! ### Enumerations -/

inductive ListingCondition where
  | new
  | usedLikeNew
  deriving DecidableEq, Repr

inductive UsedOfferLifecycle where
  | available
  | sold
  | retired
  deriving DecidableEq, Repr

inductive OrderStatus where
  | pending
  | expired
  | confirmed
  | dispatched
  | completed
  | cancelled
  | returned
  deriving DecidableEq, Repr

inductive PaymentProvider where
  | manual
  | stripe
  | paypal
  deriving DecidableEq, Repr

inductive PaymentStatus where
  | pending
  | succeeded
  | processing
  | failed
  | canceled
  deriving DecidableEq, Repr

inductive RefundProvider where
  | manual
  | stripe
  | paypal
  deriving DecidableEq, Repr

inductive RefundStatus where
  | succeeded
  | failed
  | processing
  deriving DecidableEq, Repr

inductive CancellationInitiator where
  | customer
  | seller
  deriving DecidableEq, Repr

inductive CancellationReason where
  | changedMind
  | orderedByMistake
  | addressProblem
  | foundCheaperElsewhere
  | other
  | outOfStock
  | pricingError
  | productUnavailable
  | fulfilmentIssue
  deriving DecidableEq, Repr

inductive InventoryMovementType where
  | purchaseIn
  | websiteSale
  | orderReturn
  | orderCancellationReturn
  | fbaOutbound
  | damageAdjustment
  | manualAdjustment
  | purchaseReturnOut
  | conditionAdjustmentSource
  | conditionAdjustmentTarget
  | writeOff
  deriving DecidableEq, Repr

inductive InventoryAuditAction where
  | conditionAdjustment
  | writeOff
  deriving DecidableEq, Repr

inductive InventoryAdjustmentReason where
  | customerReturnDamaged
  | openedBox
  | packagingDamage
  | missingParts
  | warehouseDamage
  | qualityIssue
  | other
  deriving DecidableEq, Repr

inductive OrderReturnStatus where
  | requested
  | authorized
  | received
  | inspected
  | completed
  | rejected
  | cancelled
  deriving DecidableEq, Repr

inductive ReturnReason where
  | changeOfMind
  | damaged
  | defective
  | wrongItem
  | notAsDescribed
  | other
  deriving DecidableEq, Repr

inductive ReturnShippingPayer where
  | customer
  | seller
  deriving DecidableEq, Repr

inductive ReturnCondition where
  | asNew
  | openedComplete
  | damaged
  | incomplete
  | wrongItemReturned
  | other
  deriving DecidableEq, Repr

inductive PurchaseItemDisposition where
  | inventory
  | nonInventory
  deriving DecidableEq, Repr

inductive CartReconciliationState where
  | active
  | consumePending
  | releasePending
  | consumed
  | released
  deriving DecidableEq, Repr

/-! ### Composed texts -/

/-- The note of an inventory movement, by the statement that writes it. -/
inductive MovementNote where
  | orderSale (orderId : Nat)
  | orderCancellationReturn (orderId : Nat)
  | completedOrderReturn (returnId : Nat)
  | manualAdjustment (quantity : Int)
  | writeOff (listingId : Nat)
  | stocktake (actualStock : Int)
  | conversion (sourceListingId : Nat)
  | usedOfferCreated
  | purchaseItemReceived (purchaseItemId : Nat)
  | purchaseItemReturned (purchaseItemId : Nat)
  | text (note : String)
  deriving DecidableEq, Repr

def MovementNote.render : MovementNote → String
  | .orderSale id => s!"Order {id} sale"
  | .orderCancellationReturn id => s!"Order {id} cancellation return"
  | .completedOrderReturn id => s!"Completed order return {id}"
  | .manualAdjustment quantity => s!"Manual inventory adjustment of {quantity}"
  | .writeOff id => s!"Inventory write-off for listing {id}"
  | .stocktake actualStock => s!"Stocktake reconciliation to {actualStock}"
  | .conversion id => s!"One unit converted from NEW listing {id}"
  | .usedOfferCreated => "Used physical offer created"
  | .purchaseItemReceived id => s!"PurchaseItem {id} received"
  | .purchaseItemReturned id => s!"Returned purchase item {id}"
  | .text note => note

/-- A provider reference, split at the two prefixes the services look for:
`pending:` marks a local placeholder and `pi_` a Stripe PaymentIntent. `other`
holds the texts with neither prefix, so that every text is one reference. -/
inductive ProviderReference where
  | pending (key : String)
  | intent (suffix : String)
  | other (text : String)
      (plain : ¬ "pending:".toList <+: text.toList ∧ ¬ "pi_".toList <+: text.toList)
  deriving DecidableEq, Repr

namespace ProviderReference

def render : ProviderReference → String
  | .pending key => "pending:" ++ key
  | .intent suffix => "pi_" ++ suffix
  | .other text _ => text

def ofText (text : String) : ProviderReference :=
  if _ : "pending:".toList <+: text.toList then .pending (String.ofList (text.toList.drop 8))
  else if _ : "pi_".toList <+: text.toList then .intent (String.ofList (text.toList.drop 3))
  else .other text ⟨‹_›, ‹_›⟩

/-- `providerReference.startsWith("pending:")`. -/
def isPending : ProviderReference → Bool
  | .pending _ => true
  | _ => false

/-- `providerReference.startsWith("pi_")`. -/
def isIntent : ProviderReference → Bool
  | .intent _ => true
  | _ => false

end ProviderReference

end ColorfulLife
