/-
The rows that the payment and refund services write: their unique indexes, and
the receipts of provider events.
-/

import ColorfulLife.Relational.Transaction
import ColorfulLife.Relational.Unique
import ColorfulLife.Schema.Database
import ColorfulLife.Schema.Errors

namespace ColorfulLife

open Relational

/-! ### Writes under unique indexes -/

section Writes

variable {ρ : Type} (clash : ρ → ρ → Bool)

def createRow (r : ρ) (t : Table ρ) : Result (Table ρ) := do
  ensure (t.clashes clash t.nextId r = false) DomainError.uniqueViolation
  return t.insert r

def writeRow (k : Nat) (f : ρ → ρ) (t : Table ρ) : Result (Table ρ) := do
  let r ← orThrow (t.get? k) DomainError.recordNotFound
  ensure (t.clashes clash k (f r) = false) DomainError.uniqueViolation
  return t.update k f

variable {clash} {t t' : Table ρ} {r : ρ} {k : Nat} {f : ρ → ρ}

/-- A row goes in when it clashes with no other. -/
@[simp] theorem createRow_eq_ok : createRow clash r t = .ok t' ↔
    t.clashes clash t.nextId r = false ∧ t' = t.insert r := by
  simp only [createRow, bind_eq_ok, ensure_eq_ok, pure_eq_ok]
  constructor
  · rintro ⟨-, free, rfl⟩
    exact ⟨free, rfl⟩
  · rintro ⟨free, rfl⟩
    exact ⟨⟨⟩, free, rfl⟩

/-- An update needs its row, and a place for the new one. -/
@[simp] theorem writeRow_eq_ok : writeRow clash k f t = .ok t' ↔
    ∃ r, t.get? k = some r ∧ t.clashes clash k (f r) = false ∧ t' = t.update k f := by
  simp only [writeRow, bind_eq_ok, orThrow_eq_ok, ensure_eq_ok, pure_eq_ok]
  constructor
  · rintro ⟨r, hr, -, free, rfl⟩
    exact ⟨r, hr, free, rfl⟩
  · rintro ⟨r, hr, free, rfl⟩
    exact ⟨r, hr, ⟨⟩, free, rfl⟩

end Writes

/-- Two values of a nullable column agree; a null agrees with nothing. -/
def sameKey {α : Type} [DecidableEq α] : Option α → Option α → Bool
  | some a, some b => decide (a = b)
  | _, _ => false

/-- Either of the two may come first. -/
theorem sameKey_comm {α : Type} [DecidableEq α] (a b : Option α) : sameKey a b = sameKey b a := by
  cases a <;> cases b <;> simp [sameKey, eq_comm]

/-- The unique indexes of `Payment`: one payment of an order, one use of a
provider reference and of a capture, one use of an idempotency key. -/
def Payment.clash (p q : Payment) : Bool :=
  decide (p.orderId = q.orderId) ||
  decide (p.provider = q.provider ∧ p.providerReference = q.providerReference) ||
  (decide (p.provider = q.provider) &&
    sameKey p.providerCaptureReference q.providerCaptureReference) ||
  sameKey p.idempotencyKey q.idempotencyKey ||
  sameKey p.captureIdempotencyKey q.captureIdempotencyKey

theorem Payment.clash_comm (p q : Payment) : p.clash q = q.clash p := by
  simp only [Payment.clash, eq_comm (a := p.orderId), eq_comm (a := p.provider),
    eq_comm (a := p.providerReference), sameKey_comm p.providerCaptureReference,
    sameKey_comm p.idempotencyKey, sameKey_comm p.captureIdempotencyKey]

/-- The unique indexes of `Refund`. -/
def Refund.clash (r s : Refund) : Bool :=
  decide (r.provider = s.provider ∧ r.providerReference = s.providerReference) ||
  sameKey r.refundIdempotencyKey s.refundIdempotencyKey

theorem Refund.clash_comm (r s : Refund) : r.clash s = s.clash r := by
  simp only [Refund.clash, eq_comm (a := r.provider), eq_comm (a := r.providerReference),
    sameKey_comm r.refundIdempotencyKey]

/-! ### Receipts -/

/-- The unique index of `PaymentWebhookEvent`: one receipt of a provider event. -/
def PaymentWebhookEvent.clash (e e' : PaymentWebhookEvent) : Bool :=
  decide (e.provider = e'.provider ∧ e.providerEventId = e'.providerEventId)

/-- `{ duplicate, handled }`. -/
structure WebhookResult where
  duplicate : Bool
  handled : Bool
  deriving DecidableEq, Repr

def newReceipt (provider : PaymentProvider) (providerEventId eventType : String) :
    PaymentWebhookEvent where
  provider := provider
  providerEventId := providerEventId
  eventType := eventType
  processedAt := none
  processingError := none

/-- The last statement of every event transaction. -/
def PaymentWebhookEvent.process (now : Time) (processingError : Option String)
    (e : PaymentWebhookEvent) : PaymentWebhookEvent :=
  { e with processedAt := some now, processingError := processingError }

end ColorfulLife
