/-
The artwork of a category (`domain/categories/categoryManagementService.ts`).

A call stores its file, changes the row in one transaction under the lock of the
category, and deletes the asset it replaced afterwards; between these steps other
calls run. Deletions go by what the transaction read: an asset that no slot names
any more is never named again, since every upload has a public id of its own.
-/

import ColorfulLife.Images.Upload
import ColorfulLife.Relational.Run
import ColorfulLife.Relational.Table

namespace ColorfulLife

open Relational

/-! ### The row -/

inductive ArtworkSlot where
  | opening
  | thumbnail
  deriving DecidableEq, Repr

def ArtworkSlot.sibling : ArtworkSlot → ArtworkSlot
  | .opening => .thumbnail
  | .thumbnail => .opening

/-- The columns of a category that hold its artwork. -/
structure CategoryArtwork where
  imageUrl : Option String
  imagePublicId : Option String
  thumbnailUrl : Option String
  thumbnailPublicId : Option String
  deriving DecidableEq, Repr

namespace CategoryArtwork

def publicId (category : CategoryArtwork) : ArtworkSlot → Option String
  | .opening => category.imagePublicId
  | .thumbnail => category.thumbnailPublicId

/-- The `data` of the update: a stored image, or `null` for both columns. -/
def put (category : CategoryArtwork) (slot : ArtworkSlot) (stored : Option StoredImage) :
    CategoryArtwork :=
  match slot with
  | .opening => { category with
      imageUrl := stored.map StoredImage.secureUrl
      imagePublicId := stored.map StoredImage.publicId }
  | .thumbnail => { category with
      thumbnailUrl := stored.map StoredImage.secureUrl
      thumbnailPublicId := stored.map StoredImage.publicId }

@[simp] theorem publicId_put (category : CategoryArtwork) (slot : ArtworkSlot)
    (stored : Option StoredImage) :
    (category.put slot stored).publicId slot = stored.map StoredImage.publicId := by
  cases slot <;> rfl

theorem publicId_put_of_ne {slot other : ArtworkSlot} (apart : other ≠ slot)
    (category : CategoryArtwork) (stored : Option StoredImage) :
    (category.put slot stored).publicId other = category.publicId other := by
  cases slot <;> cases other
  · exact absurd rfl apart
  · rfl
  · rfl
  · exact absurd rfl apart

end CategoryArtwork

/-- What the transaction says of the asset it replaced. -/
structure Previous where
  publicId : Option String
  stillUsedBySibling : Bool
  deriving DecidableEq, Repr

/-- The transaction of `uploadArtwork` and `deleteArtwork`. -/
def replaceArtwork (slot : ArtworkSlot) (stored : Option StoredImage)
    (category : Option CategoryArtwork) : Except ImageError (CategoryArtwork × Previous) := do
  let category ← orThrow category (.categoryNotFound "Category not found")
  let previousPublicId := category.publicId slot
  let stillUsedBySibling := decide (previousPublicId ≠ none ∧
    previousPublicId = category.publicId slot.sibling)
  return (category.put slot stored, ⟨previousPublicId, stillUsedBySibling⟩)

/-- The asset to delete after the transaction: the one it replaced, unless it is
the new one, the sibling's, or not one of the category's own. -/
def Previous.replaced (categoryId : Nat) (stored : Option StoredImage) (previous : Previous) :
    Option String :=
  previous.publicId.filter fun publicId => decide (publicId ≠ "") &&
    decide (some publicId ≠ stored.map StoredImage.publicId) && !previous.stillUsedBySibling &&
    isOwnedCategoryArtworkPublicId publicId categoryId

/-! ### Calls -/

/-- Where a call stands. -/
inductive ArtworkCall where
  | uploading (slot : ArtworkSlot)
  | stored (slot : ArtworkSlot) (stored : StoredImage)
  | removing (slot : ArtworkSlot)
  | compensating (publicId : String)
  | cleaning (publicId : Option String)
  deriving DecidableEq, Repr

/-- The category, the storage, and the calls under way. `known` are the public ids
that the row named at first or an upload was given, `uploaded` the latter;
`deleted` are those whose assets were deleted. -/
structure ArtworkState where
  category : Option CategoryArtwork
  storage : List String
  deleted : List String
  known : List String
  uploaded : List String
  calls : Table ArtworkCall

inductive ArtworkOp where
  | setArtwork (slot : ArtworkSlot) (file : Option UploadedFile)
  | removeArtwork (slot : ArtworkSlot)
  | upload (callId : Nat) (uuid : Uuid) (secureUrl : String)
  | uploadFails (callId : Nat)
  | transact (callId : Nat)
  | transactFails (callId : Nat)
  | delete (callId : Nat)

namespace ArtworkState

def begin (s : ArtworkState) (call : ArtworkCall) : ArtworkState :=
  { s with calls := s.calls.insert call }

def advance (s : ArtworkState) (callId : Nat) (call : ArtworkCall) : ArtworkState :=
  { s with calls := s.calls.update callId fun _ => call }

def finish (s : ArtworkState) (callId : Nat) : ArtworkState :=
  { s with calls := s.calls.erase callId }

/-- The storage keeps a file under a public id that was not known. -/
def store (s : ArtworkState) (publicId : String) : ArtworkState :=
  { s with
    storage := publicId :: s.storage
    known := publicId :: s.known
    uploaded := publicId :: s.uploaded }

def destroy (s : ArtworkState) (publicId : String) : ArtworkState :=
  { s with
    storage := s.storage.filter fun p => decide (p ≠ publicId)
    deleted := publicId :: s.deleted }

/-- One of the slots names the asset. -/
def references (s : ArtworkState) (publicId : String) : Prop :=
  ∃ category slot, s.category = some category ∧ category.publicId slot = some publicId

end ArtworkState

/-- One step of one call. A step that the call is not at changes nothing. -/
def artworkStep (categoryId : Nat) (s : ArtworkState) : ArtworkOp → ArtworkState
  | .setArtwork slot file =>
      match validateImage file with
      | .error _ => s
      | .ok _ => if s.category.isSome then s.begin (.uploading slot) else s
  | .removeArtwork slot => s.begin (.removing slot)
  | .upload callId uuid secureUrl =>
      match s.calls.get? callId with
      | some (.uploading slot) =>
          if artworkPublicId categoryId uuid ∈ s.known then s
          else (s.store (artworkPublicId categoryId uuid)).advance callId
            (.stored slot ⟨artworkPublicId categoryId uuid, secureUrl⟩)
      | _ => s
  | .uploadFails callId =>
      match s.calls.get? callId with
      | some (.uploading _) => s.finish callId
      | _ => s
  | .transact callId =>
      match s.calls.get? callId with
      | some (.stored slot stored) =>
          match replaceArtwork slot (some stored) s.category with
          | .error _ => s.advance callId (.compensating stored.publicId)
          | .ok (category, previous) => { s with category := some category }.advance callId
              (.cleaning (previous.replaced categoryId (some stored)))
      | some (.removing slot) =>
          match replaceArtwork slot none s.category with
          | .error _ => s.finish callId
          | .ok (category, previous) => { s with category := some category }.advance callId
              (.cleaning (previous.replaced categoryId none))
      | _ => s
  | .transactFails callId =>
      match s.calls.get? callId with
      | some (.stored _ stored) => s.advance callId (.compensating stored.publicId)
      | some (.removing _) => s.finish callId
      | _ => s
  | .delete callId =>
      match s.calls.get? callId with
      | some (.compensating publicId) => (s.destroy publicId).finish callId
      | some (.cleaning (some publicId)) => (s.destroy publicId).finish callId
      | some (.cleaning none) => s.finish callId
      | _ => s

/-! ### The invariant -/

/-- The asset that a call is responsible for. -/
def ArtworkCall.asset : ArtworkCall → Option String
  | .stored _ image => some image.publicId
  | .compensating publicId => some publicId
  | .cleaning publicId => publicId
  | .uploading _ | .removing _ => none

/-- No slot names an asset that a call is responsible for, and nobody else is
responsible for one that is still to be named. Every upload is named, deleted or
in the care of a call. -/
structure ArtworkInv (categoryId : Nat) (s : ArtworkState) : Prop where
  kept : ∀ id, s.references id → id ∉ s.deleted
  knownReferences : ∀ id, s.references id → id ∈ s.known
  knownDeleted : ∀ id ∈ s.deleted, id ∈ s.known
  knownAssets : ∀ k call id, s.calls.get? k = some call → call.asset = some id → id ∈ s.known
  free : ∀ k call id, s.calls.get? k = some call → call.asset = some id → ¬ s.references id
  alone : ∀ k j slot stored call, s.calls.get? k = some (.stored slot stored) →
    s.calls.get? j = some call → call.asset = some stored.publicId → j = k
  waiting : ∀ k slot stored, s.calls.get? k = some (.stored slot stored) →
    stored.publicId ∉ s.deleted
  gone : ∀ id ∈ s.deleted, id ∉ s.storage
  named : ∀ id ∈ s.uploaded, ∃ uuid, id = artworkPublicId categoryId uuid
  accounted : ∀ id ∈ s.uploaded, s.references id ∨ id ∈ s.deleted ∨
    ∃ k call, s.calls.get? k = some call ∧ call.asset = some id

section Steps

variable {categoryId : Nat} {s : ArtworkState} {callId : Nat} {call call' : ArtworkCall}

/-- Steps of calls that leave every asset in somebody's care as it is. -/
theorem ArtworkInv.ofCalls (h : ArtworkInv categoryId s) {calls : Table ArtworkCall}
    (before : ∀ k call id, calls.get? k = some call → call.asset = some id →
      ∃ old, s.calls.get? k = some old ∧ old.asset = some id)
    (stays : ∀ k slot stored, calls.get? k = some (.stored slot stored) →
      s.calls.get? k = some (.stored slot stored))
    (after : ∀ k call id, s.calls.get? k = some call → call.asset = some id →
      ∃ new, calls.get? k = some new ∧ new.asset = some id) :
    ArtworkInv categoryId { s with calls := calls } where
  kept := h.kept
  knownReferences := h.knownReferences
  knownDeleted := h.knownDeleted
  knownAssets k call id found asset := by
    obtain ⟨old, hold, same⟩ := before k call id found asset
    exact h.knownAssets k old id hold same
  free k call id found asset := by
    obtain ⟨old, hold, same⟩ := before k call id found asset
    exact h.free k old id hold same
  alone k j slot stored call found other asset := by
    obtain ⟨old, hold, same⟩ := before j call _ other asset
    exact h.alone k j slot stored old (stays k slot stored found) hold same
  waiting k slot stored found := h.waiting k slot stored (stays k slot stored found)
  gone := h.gone
  named := h.named
  accounted id mem := by
    rcases h.accounted id mem with named | deleted | ⟨k, call, found, asset⟩
    · exact Or.inl named
    · exact Or.inr (Or.inl deleted)
    · obtain ⟨new, hnew, same⟩ := after k call id found asset
      exact Or.inr (Or.inr ⟨k, new, hnew, same⟩)

theorem ArtworkInv.begin (h : ArtworkInv categoryId s) (idle : call.asset = none)
    (new : ∀ slot stored, call ≠ .stored slot stored) : ArtworkInv categoryId (s.begin call) := by
  refine h.ofCalls (fun k c id found asset => ?_) (fun k slot stored found => ?_)
    fun k c id found asset => ⟨c, Table.get?_insert_of_some found, asset⟩
  · rcases Table.insert_cases found with ⟨-, rfl⟩ | old
    · rw [idle] at asset
      cases asset
    · exact ⟨c, old, asset⟩
  · rcases Table.insert_cases found with ⟨-, same⟩ | old
    · exact absurd same.symm (new slot stored)
    · exact old

theorem ArtworkInv.finish (h : ArtworkInv categoryId s) (found : s.calls.get? callId = some call)
    (idle : call.asset = none) : ArtworkInv categoryId (s.finish callId) := by
  refine h.ofCalls (fun k c id at_ asset => ?_) (fun k slot stored at_ => ?_)
    fun k c id at_ asset => ?_
  · rw [Table.get?_erase] at at_
    split at at_
    · cases at_
    · exact ⟨c, at_, asset⟩
  · rw [Table.get?_erase] at at_
    split at at_
    · cases at_
    · exact at_
  · refine ⟨c, ?_, asset⟩
    rw [Table.get?_erase, if_neg, at_]
    rintro rfl
    rw [found] at at_
    obtain rfl := Option.some.inj at_
    rw [idle] at asset
    cases asset

/-- A failed transaction: the call's own upload is to be deleted. -/
theorem ArtworkInv.fail (h : ArtworkInv categoryId s) {slot : ArtworkSlot} {stored : StoredImage}
    (found : s.calls.get? callId = some (.stored slot stored)) :
    ArtworkInv categoryId (s.advance callId (.compensating stored.publicId)) := by
  refine h.ofCalls (fun k c id at_ asset => ?_) (fun k slot stored at_ => ?_)
    fun k c id at_ asset => ?_
  · rcases Table.update_cases found at_ with ⟨rfl, rfl⟩ | ⟨-, before⟩
    · exact ⟨_, found, asset⟩
    · exact ⟨c, before, asset⟩
  · rcases Table.update_cases found at_ with ⟨-, same⟩ | ⟨-, before⟩
    · cases same
    · exact before
  · rw [Table.get?_update]
    split
    · subst_vars
      rw [found] at at_
      obtain rfl := Option.some.inj at_
      exact ⟨.compensating stored.publicId, by rw [found, Option.map_some], asset⟩
    · exact ⟨c, at_, asset⟩

/-- The asset of a call is deleted: no slot names it, and nobody is to name it. -/
theorem ArtworkInv.destroy (h : ArtworkInv categoryId s) {id : String}
    (found : s.calls.get? callId = some call) (asset : call.asset = some id) :
    ArtworkInv categoryId ((s.destroy id).finish callId) := by
  have left : ∀ k c, (s.calls.erase callId).get? k = some c →
      k ≠ callId ∧ s.calls.get? k = some c := by
    intro k c at_
    rw [Table.get?_erase] at at_
    split at at_
    · cases at_
    · exact ⟨‹_›, at_⟩
  refine
    { kept := fun p named mem => ?_
      knownReferences := h.knownReferences
      knownDeleted := List.forall_mem_cons.mpr
        ⟨h.knownAssets callId call id found asset, h.knownDeleted⟩
      knownAssets := fun k c p at_ own => h.knownAssets k c p (left k c at_).2 own
      free := fun k c p at_ own => h.free k c p (left k c at_).2 own
      alone := fun k j slot stored c at_ other own =>
        h.alone k j slot stored c (left k _ at_).2 (left j c other).2 own
      waiting := fun k slot stored at_ mem => ?_
      gone := fun p mem there => ?_
      named := h.named
      accounted := fun p mem => ?_ }
  · rcases List.mem_cons.mp mem with rfl | mem
    · exact h.free callId call p found asset named
    · exact h.kept p named mem
  · obtain ⟨apart, at_⟩ := left k _ at_
    rcases List.mem_cons.mp mem with same | mem
    · exact apart (h.alone k callId slot stored call at_ found (same ▸ asset)).symm
    · exact h.waiting k slot stored at_ mem
  · obtain ⟨there, other⟩ := List.mem_filter.mp there
    rcases List.mem_cons.mp mem with rfl | mem
    · exact of_decide_eq_true other rfl
    · exact h.gone p mem there
  · rcases h.accounted p mem with named | deleted | ⟨k, c, at_, own⟩
    · exact Or.inl named
    · exact Or.inr (Or.inl (List.mem_cons_of_mem _ deleted))
    · by_cases same : k = callId
      · subst same
        rw [found] at at_
        obtain rfl := Option.some.inj at_
        obtain rfl := Option.some.inj (asset.symm.trans own)
        exact Or.inr (Or.inl List.mem_cons_self)
      · refine Or.inr (Or.inr ⟨k, c, ?_, own⟩)
        show (s.calls.erase callId).get? k = some c
        rw [Table.get?_erase, if_neg same, at_]

/-- An upload under a fresh public id. -/
theorem ArtworkInv.store (h : ArtworkInv categoryId s) {slot : ArtworkSlot} {uuid : Uuid}
    {secureUrl : String} (found : s.calls.get? callId = some (.uploading slot))
    (fresh : artworkPublicId categoryId uuid ∉ s.known) :
    ArtworkInv categoryId ((s.store (artworkPublicId categoryId uuid)).advance callId
      (.stored slot ⟨artworkPublicId categoryId uuid, secureUrl⟩)) := by
  have here : (s.calls.update callId fun _ =>
      ArtworkCall.stored slot ⟨artworkPublicId categoryId uuid, secureUrl⟩).get? callId =
        some (.stored slot ⟨artworkPublicId categoryId uuid, secureUrl⟩) := by
    rw [Table.get?_update_self, found, Option.map_some]
  have stays : ∀ k c, k ≠ callId → s.calls.get? k = some c → (s.calls.update callId fun _ =>
      ArtworkCall.stored slot ⟨artworkPublicId categoryId uuid, secureUrl⟩).get? k = some c := by
    intro k c apart there
    rw [Table.get?_update_of_ne _ _ apart, there]
  refine
    { kept := h.kept
      knownReferences := fun p named => List.mem_cons_of_mem _ (h.knownReferences p named)
      knownDeleted := fun p mem => List.mem_cons_of_mem _ (h.knownDeleted p mem)
      knownAssets := fun k c p there own => ?_
      free := fun k c p there own named => ?_
      alone := fun k j slot' stored c there other own => ?_
      waiting := fun k slot' stored there mem => ?_
      gone := fun p mem there => ?_
      named := List.forall_mem_cons.mpr ⟨⟨uuid, rfl⟩, h.named⟩
      accounted := fun p mem => ?_ }
  · rcases Table.update_cases found there with ⟨rfl, rfl⟩ | ⟨-, there⟩
    · obtain rfl := Option.some.inj own
      exact List.mem_cons_self
    · exact List.mem_cons_of_mem _ (h.knownAssets k c p there own)
  · rcases Table.update_cases found there with ⟨rfl, rfl⟩ | ⟨-, there⟩
    · obtain rfl := Option.some.inj own
      exact fresh (h.knownReferences _ named)
    · exact h.free k c p there own named
  · rcases Table.update_cases found there with ⟨rfl, same⟩ | ⟨apart, before⟩
    · obtain ⟨rfl, rfl⟩ := ArtworkCall.stored.inj same
      rcases Table.update_cases found other with ⟨rfl, -⟩ | ⟨-, other⟩
      · rfl
      · exact absurd (h.knownAssets j c _ other own) fresh
    · rcases Table.update_cases found other with ⟨rfl, rfl⟩ | ⟨-, other'⟩
      · have same : artworkPublicId categoryId uuid = stored.publicId := Option.some.inj own
        exact absurd (same ▸ h.knownAssets k _ _ before rfl) fresh
      · exact h.alone k j slot' stored c before other' own
  · rcases Table.update_cases found there with ⟨rfl, same⟩ | ⟨-, there⟩
    · obtain ⟨rfl, rfl⟩ := ArtworkCall.stored.inj same
      exact fresh (h.knownDeleted _ mem)
    · exact h.waiting k slot' stored there mem
  · rcases List.mem_cons.mp there with rfl | there
    · exact fresh (h.knownDeleted _ mem)
    · exact h.gone p mem there
  · rcases List.mem_cons.mp mem with rfl | mem
    · exact Or.inr (Or.inr ⟨callId, _, here, rfl⟩)
    · rcases h.accounted p mem with named | deleted | ⟨k, c, there, own⟩
      · exact Or.inl named
      · exact Or.inr (Or.inl deleted)
      · refine Or.inr (Or.inr ⟨k, c, stays k c ?_ there, own⟩)
        rintro rfl
        rw [found] at there
        obtain rfl := Option.some.inj there
        cases own

/-- What the transaction replaced is in the call's care, unless a slot still names
it. -/
theorem replaced_eq_some {categoryId : Nat} {stored : Option StoredImage} {previous : Previous}
    {id : String} : previous.replaced categoryId stored = some id ↔ previous.publicId = some id ∧
      id ≠ "" ∧ some id ≠ stored.map StoredImage.publicId ∧ previous.stillUsedBySibling = false ∧
      isOwnedCategoryArtworkPublicId id categoryId = true := by
  simp only [Previous.replaced, Option.filter_eq_some_iff, Bool.and_eq_true, decide_eq_true_eq,
    Bool.not_eq_true', and_assoc]

/-- A transaction that goes through: the slot names what was stored, and what it
named before is in the call's care unless the sibling names it too. -/
theorem replaceArtwork_ok {slot : ArtworkSlot} {stored : Option StoredImage}
    {row category : CategoryArtwork} {previous : Previous}
    (tx : replaceArtwork slot stored (some row) = .ok (category, previous)) :
    category = row.put slot stored ∧ previous.publicId = row.publicId slot ∧
      (previous.stillUsedBySibling = true ↔
        row.publicId slot ≠ none ∧ row.publicId slot = row.publicId slot.sibling) := by
  simp only [replaceArtwork, orThrow, bind_eq_ok, Except.ok.injEq, pure_eq_ok, Prod.mk.injEq] at tx
  obtain ⟨_, rfl, rfl, rfl⟩ := tx
  exact ⟨rfl, rfl, decide_eq_true_iff⟩

theorem ArtworkSlot.eq_or_sibling (slot other : ArtworkSlot) :
    other = slot ∨ other = slot.sibling := by
  cases slot <;> cases other
  · exact Or.inl rfl
  · exact Or.inr rfl
  · exact Or.inr rfl
  · exact Or.inl rfl

theorem ArtworkSlot.sibling_ne (slot : ArtworkSlot) : slot.sibling ≠ slot := by
  cases slot <;> decide

/-- What is replaced: an asset of the category's own that no slot names any longer. -/
theorem replaced_iff {slot : ArtworkSlot} {stored : Option StoredImage}
    {row category : CategoryArtwork} {previous : Previous} {id : String}
    (tx : replaceArtwork slot stored (some row) = .ok (category, previous)) :
    previous.replaced categoryId stored = some id ↔ row.publicId slot = some id ∧ id ≠ "" ∧
      stored.map StoredImage.publicId ≠ some id ∧ row.publicId slot.sibling ≠ some id ∧
      isOwnedCategoryArtworkPublicId id categoryId = true := by
  obtain ⟨-, previousId, still⟩ := replaceArtwork_ok tx
  rw [replaced_eq_some, previousId]
  refine and_congr_right fun here => and_congr_right fun _ => and_congr ne_comm ?_
  rw [Bool.eq_false_iff, Ne, still, here]
  exact and_congr_left' (not_congr ⟨fun same => same.2.symm, fun same => ⟨nofun, same.symm⟩⟩)

theorem ArtworkState.references_put (s : ArtworkState) {slot : ArtworkSlot}
    {stored : Option StoredImage} {row : CategoryArtwork} {id : String} :
    ({ s with category := some (row.put slot stored) } : ArtworkState).references id ↔
      stored.map StoredImage.publicId = some id ∨ row.publicId slot.sibling = some id := by
  constructor
  · rintro ⟨_, other, same, names⟩
    obtain rfl : row.put slot stored = _ := Option.some.inj same
    rcases slot.eq_or_sibling other with rfl | rfl
    · exact Or.inl (by rwa [CategoryArtwork.publicId_put] at names)
    · rw [CategoryArtwork.publicId_put_of_ne slot.sibling_ne] at names
      exact Or.inr names
  · rintro (names | names)
    · exact ⟨_, slot, rfl, by rwa [CategoryArtwork.publicId_put]⟩
    · exact ⟨_, slot.sibling, rfl, by rwa [CategoryArtwork.publicId_put_of_ne slot.sibling_ne]⟩

/-- An upload of this service passes the test of ownership, so it is not left behind. -/
theorem ArtworkInv.references_or_replaced (h : ArtworkInv categoryId s) {slot : ArtworkSlot}
    {stored : Option StoredImage} {row category : CategoryArtwork} {previous : Previous}
    (tx : replaceArtwork slot stored (some row) = .ok (category, previous)) (id : String)
    (mem : id ∈ s.uploaded) (names : row.publicId slot = some id) :
    ({ s with category := some category } : ArtworkState).references id ∨
      previous.replaced categoryId stored = some id := by
  obtain ⟨rfl, -⟩ := replaceArtwork_ok tx
  rw [ArtworkState.references_put, replaced_iff tx]
  by_cases new : stored.map StoredImage.publicId = some id
  · exact Or.inl (Or.inl new)
  by_cases sibling : row.publicId slot.sibling = some id
  · exact Or.inl (Or.inr sibling)
  obtain ⟨uuid, rfl⟩ := h.named id mem
  exact Or.inr ⟨names, artworkPublicId_ne_empty categoryId uuid, new, sibling,
    isOwned_artworkPublicId categoryId uuid⟩

theorem ArtworkInv.replace (h : ArtworkInv categoryId s) {slot : ArtworkSlot}
    (stored : Option StoredImage) {row category : CategoryArtwork} {previous : Previous}
    (found : s.calls.get? callId = some call)
    (asset : call.asset = stored.map StoredImage.publicId)
    (own : ∀ image, stored = some image → call = .stored slot image)
    (current : s.category = some row)
    (tx : replaceArtwork slot stored (some row) = .ok (category, previous)) :
    ArtworkInv categoryId ({ s with category := some category }.advance callId
      (.cleaning (previous.replaced categoryId stored))) := by
  have owned := h.references_or_replaced tx
  obtain ⟨rfl, -⟩ := replaceArtwork_ok tx
  have slotNamed : ∀ id other, row.publicId other = some id → s.references id :=
    fun id other names => ⟨row, other, current, names⟩
  have wasNamed : ∀ id, previous.replaced categoryId stored = some id → s.references id :=
    fun id replaced => slotNamed id slot ((replaced_iff tx).mp replaced).1
  refine
    { kept := fun id names => ?_
      knownReferences := fun id names => ?_
      knownDeleted := h.knownDeleted
      knownAssets := fun k c id there cares => ?_
      free := fun k c id there cares names => ?_
      alone := fun k j slot' image c there other cares => ?_
      waiting := fun k slot' image there => ?_
      gone := h.gone
      named := h.named
      accounted := fun id mem => ?_ }
  · rcases s.references_put.mp names with new | sibling
    · obtain ⟨image, rfl, rfl⟩ := Option.map_eq_some_iff.mp new
      obtain rfl := own image rfl
      exact h.waiting callId slot image found
    · exact h.kept id (slotNamed id _ sibling)
  · rcases s.references_put.mp names with new | sibling
    · exact h.knownAssets callId call id found (asset.trans new)
    · exact h.knownReferences id (slotNamed id _ sibling)
  · rcases Table.update_cases found there with ⟨rfl, rfl⟩ | ⟨-, before⟩
    · exact h.knownReferences id (wasNamed id cares)
    · exact h.knownAssets k c id before cares
  · have named := s.references_put.mp names
    rcases Table.update_cases found there with ⟨rfl, rfl⟩ | ⟨apart, before⟩
    · obtain ⟨-, -, notNew, notSibling, -⟩ := (replaced_iff tx).mp cares
      exact named.elim notNew notSibling
    · rcases named with new | sibling
      · obtain ⟨image, rfl, rfl⟩ := Option.map_eq_some_iff.mp new
        obtain rfl := own image rfl
        exact apart (h.alone callId k slot image c found before cares)
      · exact h.free k c id before cares (slotNamed id _ sibling)
  · rcases Table.update_cases found there with ⟨-, same⟩ | ⟨-, before⟩
    · cases same
    · rcases Table.update_cases found other with ⟨rfl, rfl⟩ | ⟨-, other'⟩
      · exact absurd (wasNamed _ cares) (h.free k _ _ before rfl)
      · exact h.alone k j slot' image c before other' cares
  · rcases Table.update_cases found there with ⟨-, same⟩ | ⟨-, before⟩
    · cases same
    · exact h.waiting k slot' image before
  · rcases h.accounted id mem with ⟨row', other, current', names⟩ | deleted | ⟨k, c, there, cares⟩
    · obtain rfl := Option.some.inj (current.symm.trans current')
      rcases slot.eq_or_sibling other with rfl | rfl
      · rcases owned id mem names with named | replaced
        · exact Or.inl named
        · refine Or.inr (Or.inr
            ⟨callId, .cleaning (previous.replaced categoryId stored), ?_, replaced⟩)
          show (s.calls.update callId fun _ => _).get? callId = _
          rw [Table.get?_update_self, found, Option.map_some]
      · exact Or.inl (s.references_put.mpr (Or.inr names))
    · exact Or.inr (Or.inl deleted)
    · by_cases same : k = callId
      · subst same
        rw [found] at there
        obtain rfl := Option.some.inj there
        exact Or.inl (s.references_put.mpr (Or.inl (asset.symm.trans cares)))
      · refine Or.inr (Or.inr ⟨k, c, ?_, cares⟩)
        show (s.calls.update callId fun _ => _).get? k = some c
        rw [Table.get?_update_of_ne _ _ same, there]

end Steps

/-- Every step keeps the invariant. -/
theorem ArtworkInv.step {categoryId : Nat} {s : ArtworkState} (h : ArtworkInv categoryId s)
    (op : ArtworkOp) : ArtworkInv categoryId (artworkStep categoryId s op) := by
  cases op with
  | setArtwork slot file =>
      dsimp only [artworkStep]
      split
      · exact h
      · split
        · exact h.begin rfl nofun
        · exact h
  | removeArtwork slot => exact h.begin rfl nofun
  | upload callId uuid secureUrl =>
      dsimp only [artworkStep]
      split
      · split
        · exact h
        · exact h.store ‹_› ‹_›
      · exact h
  | uploadFails callId =>
      dsimp only [artworkStep]
      split
      · exact h.finish ‹_› rfl
      · exact h
  | transact callId =>
      dsimp only [artworkStep]
      split
      · rename_i slot stored found
        cases current : s.category with
        | none => exact h.fail found
        | some row =>
            refine h.replace (some stored) found rfl (fun image same => ?_) current rfl
            rw [Option.some.inj same]
      · rename_i slot found
        cases current : s.category with
        | none => exact h.finish found rfl
        | some row => exact h.replace none found rfl nofun current rfl
      · exact h
  | transactFails callId =>
      dsimp only [artworkStep]
      split
      · exact h.fail ‹_›
      · exact h.finish ‹_› rfl
      · exact h
  | delete callId =>
      dsimp only [artworkStep]
      split
      · exact h.destroy ‹_› rfl
      · exact h.destroy ‹_› rfl
      · exact h.finish ‹_› rfl
      · exact h

/-- What a step deletes was not named by the row. -/
theorem ArtworkInv.deletes {categoryId : Nat} {s : ArtworkState} (h : ArtworkInv categoryId s)
    (op : ArtworkOp) {id : String} (named : s.references id) :
    id ∉ (artworkStep categoryId s op).deleted := by
  have kept := h.kept id named
  cases op with
  | setArtwork slot file =>
      dsimp only [artworkStep]
      repeat' split
      all_goals exact kept
  | removeArtwork slot => exact kept
  | upload callId uuid secureUrl =>
      dsimp only [artworkStep]
      repeat' split
      all_goals exact kept
  | uploadFails callId =>
      dsimp only [artworkStep]
      split <;> exact kept
  | transact callId =>
      dsimp only [artworkStep]
      repeat' split
      all_goals exact kept
  | transactFails callId =>
      dsimp only [artworkStep]
      split <;> exact kept
  | delete callId =>
      have care : ∀ {call : ArtworkCall} {publicId : String}, s.calls.get? callId = some call →
          call.asset = some publicId → id ∉ publicId :: s.deleted := by
        intro call publicId found asset mem
        rcases List.mem_cons.mp mem with rfl | mem
        · exact h.free callId call id found asset named
        · exact kept mem
      dsimp only [artworkStep]
      split
      · exact care ‹_› rfl
      · exact care ‹_› rfl
      · exact kept
      · exact kept

/-- A category whose calls have not begun. -/
structure ArtworkStart (s : ArtworkState) : Prop where
  calls : s.calls.entries = []
  deleted : s.deleted = []
  uploaded : s.uploaded = []
  known : ∀ id, s.references id → id ∈ s.known

theorem ArtworkStart.inv {categoryId : Nat} {s : ArtworkState} (h : ArtworkStart s) :
    ArtworkInv categoryId s := by
  have idle : ∀ k, s.calls.get? k = none := by
    intro k
    rw [Table.get?, h.calls]
    rfl
  have absent : ∀ {k : Nat} {call : ArtworkCall}, s.calls.get? k ≠ some call := by
    intro k call found
    rw [idle] at found
    cases found
  refine
    { kept := fun id _ mem => ?_
      knownReferences := h.known
      knownDeleted := fun id mem => ?_
      knownAssets := fun _ _ _ found => absurd found absent
      free := fun _ _ _ found => absurd found absent
      alone := fun _ _ _ _ _ found => absurd found absent
      waiting := fun _ _ _ found => absurd found absent
      gone := fun id mem => ?_
      named := fun id mem => ?_
      accounted := fun id mem => ?_ }
  · rw [h.deleted] at mem
    cases mem
  · rw [h.deleted] at mem
    cases mem
  · rw [h.deleted] at mem
    cases mem
  · rw [h.uploaded] at mem
    cases mem
  · rw [h.uploaded] at mem
    cases mem

/-- Whatever calls run and however their steps interleave, no step deletes an
asset that the row names, no asset that the row names is a deleted one, and when
no call is under way every upload is named by the row or gone from the storage. -/
theorem artwork_kept_and_collected (categoryId : Nat) {s₀ : ArtworkState} (start : ArtworkStart s₀)
    (ops : List ArtworkOp) :
    (∀ t ∈ transitions (artworkStep categoryId) s₀ ops, ∀ id, t.1.references id →
      id ∉ (artworkStep categoryId t.1 t.2).deleted) ∧
    (∀ id, (run (artworkStep categoryId) s₀ ops).references id →
      id ∉ (run (artworkStep categoryId) s₀ ops).deleted) ∧
    ((∀ k, (run (artworkStep categoryId) s₀ ops).calls.get? k = none) →
      ∀ id ∈ (run (artworkStep categoryId) s₀ ops).uploaded,
        (run (artworkStep categoryId) s₀ ops).references id ∨
          id ∈ (run (artworkStep categoryId) s₀ ops).deleted ∧
            id ∉ (run (artworkStep categoryId) s₀ ops).storage) := by
  have keeps : ∀ s op, ArtworkInv categoryId s → ArtworkInv categoryId (artworkStep categoryId s op) :=
    fun s op h => h.step op
  have last : ArtworkInv categoryId (run (artworkStep categoryId) s₀ ops) :=
    run_invariant keeps start.inv ops
  refine ⟨fun t ht id named => ?_, last.kept, fun quiet id mem => ?_⟩
  · exact (transitions_invariant keeps start.inv ops t ht).deletes t.2 named
  · rcases last.accounted id mem with named | deleted | ⟨k, call, found, -⟩
    · exact Or.inl named
    · exact Or.inr ⟨deleted, last.gone id deleted⟩
    · rw [quiet] at found
      cases found

/-- A UUID that ends in this digit. -/
def sampleUuid (last : Fin 10) : Uuid where
  text := "0f0f0f0f-aaaa-4bbb-8ccc-01234567890" ++ toString last.val
  wellFormed := by
    revert last
    decide

/-- One asset in both slots. -/
def sharedArtwork : ArtworkState where
  category := some ⟨some "https://shared", some (artworkPublicId 7 (sampleUuid 0)),
    some "https://shared", some (artworkPublicId 7 (sampleUuid 0))⟩
  storage := [artworkPublicId 7 (sampleUuid 0)]
  deleted := []
  known := [artworkPublicId 7 (sampleUuid 0)]
  uploaded := []
  calls := Table.empty

/-- Both slots are set at once, and the opening picture is removed at the end. -/
def crossedArtwork : List ArtworkOp :=
  let file := some ⟨10, 10, "image/png", some "image/png"⟩
  [.setArtwork .opening file, .setArtwork .thumbnail file, .upload 1 (sampleUuid 1) "https://1",
    .upload 2 (sampleUuid 2) "https://2", .transact 2, .transact 1, .delete 2, .delete 1,
    .removeArtwork .opening, .transact 3, .delete 3]

/-- The shared asset goes with the second slot that lets go of it, and the opening
picture with its removal. -/
theorem artwork_kept_and_collected_crossed :
    (run (artworkStep 7) sharedArtwork crossedArtwork).deleted =
      [artworkPublicId 7 (sampleUuid 1), artworkPublicId 7 (sampleUuid 0)] ∧
    ∀ id ∈ (run (artworkStep 7) sharedArtwork crossedArtwork).uploaded,
      (run (artworkStep 7) sharedArtwork crossedArtwork).references id ∨
        id ∈ (run (artworkStep 7) sharedArtwork crossedArtwork).deleted ∧
          id ∉ (run (artworkStep 7) sharedArtwork crossedArtwork).storage := by
  have start : ArtworkStart sharedArtwork := by
    refine ⟨rfl, rfl, rfl, ?_⟩
    rintro id ⟨category, slot, same, names⟩
    obtain rfl : _ = category := Option.some.inj same
    cases slot <;> exact List.mem_singleton.mpr (Option.some.inj names).symm
  have quiet : (run (artworkStep 7) sharedArtwork crossedArtwork).calls.entries = [] := by
    decide +kernel
  refine ⟨by decide +kernel,
    (artwork_kept_and_collected 7 start crossedArtwork).2.2 fun k => ?_⟩
  rw [Table.get?, quiet]
  rfl

end ColorfulLife
