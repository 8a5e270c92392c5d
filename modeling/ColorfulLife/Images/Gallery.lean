/-
The images of a product and their order
(`domain/productImages/productImageService.ts`).

A call checks first and changes rows in one transaction, under the lock of its
product; other calls may run between the two, so both are operations of their
own. The `sortOrder` of a product's images is their position, over every run.
-/

import ColorfulLife.Images.Upload
import ColorfulLife.Relational.Arrangement
import ColorfulLife.Relational.Run
import ColorfulLife.Schema.Database

namespace ColorfulLife

open Relational

/-! ### Rows -/

def ProductImage.place (sortOrder : Nat) (image : ProductImage) : ProductImage :=
  { image with sortOrder := sortOrder }

/-- The tables that the service works on. -/
structure Gallery where
  legoProducts : Table LegoProduct
  productImages : Table ProductImage

/-- `where: { legoProductId: productId }`. -/
def ofProduct (productId : Nat) (_ : Nat) (image : ProductImage) : Bool :=
  decide (image.legoProductId = productId)

def Gallery.hasProduct (g : Gallery) (productId : Nat) : Bool :=
  (g.legoProducts.get? productId).isSome

/-- The images of a product, `orderBy: [{ sortOrder: "asc" }, { id: "asc" }]`. -/
def Gallery.images (g : Gallery) (productId : Nat) : List (Nat × ProductImage) :=
  g.productImages.ranked (ofProduct productId) ProductImage.sortOrder

def Gallery.imageIds (g : Gallery) (productId : Nat) : List Nat :=
  (g.images productId).map Prod.fst

/-! ### The service -/

/-- What a call of `upload` does before it stores the file. -/
def uploadChecks (productId : Nat) (file : Option UploadedFile) (altTextValue : AltTextValue)
    (g : Gallery) : Except ImageError (String × Option String) := do
  let mimeType ← validateImage file
  let altText ← parseOptionalAltText altTextValue
  ensure (g.hasProduct productId) (ImageError.productNotFound "Product not found")
  return (mimeType, altText)

def upload (productId : Nat) (altText : Option String) (stored : StoredImage) (g : Gallery) :
    Except ImageError Gallery := do
  ensure (g.hasProduct productId) (ImageError.productNotFound "Product not found")
  let count := (g.productImages.select (ofProduct productId)).length
  ensure (count < maxImagesPerProduct)
    (ImageError.imageLimitExceeded "Maximum of 10 images per product reached")
  return { g with
    productImages := g.productImages.insert
      ⟨productId, stored.secureUrl, stored.publicId, altText, count⟩ }

/-- The `imageIds` of a request: a list, whose elements may be integers, or
something else. -/
inductive ImageIdsValue where
  | list (values : List (Option Int))
  | other
  deriving DecidableEq, Repr

/-- A list of ids. -/
def ImageIdsValue.ofIds (ids : List Nat) : ImageIdsValue :=
  .list (ids.map fun id : Nat => some (id : Int))

def parseImageIds : ImageIdsValue → Except ImageError (List Nat)
  | .other => .error (.invalidImageOrder "imageIds must be an array of positive integers")
  | .list values => do
      ensure (∀ value ∈ values, value.any (decide <| 0 < ·))
        (ImageError.invalidImageOrder "imageIds must be an array of positive integers")
      return values.map fun value => (value.getD 0).toNat

/-- `productImage.update({ where: { id }, data: { sortOrder } })`. -/
def writePosition (productImages : Table ProductImage) (e : Nat × Nat) :
    Except ImageError (Table ProductImage) := do
  let _ ← orThrow (productImages.get? e.1) .recordNotFound
  return productImages.update e.1 (ProductImage.place e.2)

def writePositions (imageIds : List Nat) (productImages : Table ProductImage) :
    Except ImageError (Table ProductImage) :=
  imageIds.zipIdx.foldlM writePosition productImages

def reorder (productId : Nat) (imageIdsValue : ImageIdsValue) (g : Gallery) :
    Except ImageError (Gallery × List (Nat × ProductImage)) := do
  let imageIds ← parseImageIds imageIdsValue
  ensure (g.hasProduct productId) (ImageError.productNotFound "Product not found")
  let images := g.productImages.select (ofProduct productId)
  let expected := images.map Prod.fst
  ensure (¬ (imageIds.dedup.length ≠ imageIds.length ∨ imageIds.length ≠ images.length ∨
      ∃ id ∈ imageIds, id ∉ expected))
    (ImageError.invalidImageOrder "imageIds must contain every image exactly once")
  let productImages ← writePositions imageIds g.productImages
  let g' := { g with productImages := productImages }
  return (g', g'.images productId)

def updateAltText (productId imageId : Nat) (altTextValue : AltTextValue) (g : Gallery) :
    Except ImageError Gallery := do
  let altText ← parseOptionalAltText altTextValue
  let image ← orThrow (g.productImages.get? imageId) (.productImageNotFound "Image not found")
  ensure (image.legoProductId = productId) (ImageError.productImageNotFound "Image not found")
  return { g with
    productImages := g.productImages.update imageId fun image => { image with altText := altText } }

/-- What a call of `delete` does before it deletes the asset. -/
def deleteChecks (productId imageId : Nat) (g : Gallery) : Except ImageError String := do
  let image ← orThrow (g.productImages.get? imageId) (.productImageNotFound "Image not found")
  ensure (image.legoProductId = productId) (ImageError.productImageNotFound "Image not found")
  ensure (isProductImagePublicId image.publicId)
    (ImageError.imageNamespace "Image is outside the product image namespace")
  return image.publicId

def delete (productId imageId : Nat) (g : Gallery) :
    Except ImageError (Gallery × List (Nat × ProductImage)) := do
  let current ← orThrow (g.productImages.get? imageId) (.productImageNotFound "Image not found")
  ensure (current.legoProductId = productId) (ImageError.productImageNotFound "Image not found")
  let productImages := g.productImages.erase imageId
  let remaining := productImages.ranked (ofProduct productId) ProductImage.sortOrder
  let productImages ← writePositions (remaining.map Prod.fst) productImages
  return ({ g with productImages := productImages },
    remaining.zipIdx.map fun e => (e.1.1, e.1.2.place e.2))

/-! ### Runs -/

/-- The parts of the calls. -/
inductive ImageOp where
  | uploadChecks (productId : Nat) (file : Option UploadedFile) (altTextValue : AltTextValue)
  | upload (productId : Nat) (altText : Option String) (stored : StoredImage)
  | reorder (productId : Nat) (imageIdsValue : ImageIdsValue)
  | updateAltText (productId imageId : Nat) (altTextValue : AltTextValue)
  | deleteChecks (productId imageId : Nat)
  | delete (productId imageId : Nat)

def ImageOp.transact (g : Gallery) : ImageOp → Except ImageError Gallery
  | .uploadChecks productId file altTextValue =>
      (ColorfulLife.uploadChecks productId file altTextValue g).map fun _ => g
  | .upload productId altText stored => ColorfulLife.upload productId altText stored g
  | .reorder productId imageIdsValue => (ColorfulLife.reorder productId imageIdsValue g).map Prod.fst
  | .updateAltText productId imageId altTextValue =>
      ColorfulLife.updateAltText productId imageId altTextValue g
  | .deleteChecks productId imageId => (ColorfulLife.deleteChecks productId imageId g).map fun _ => g
  | .delete productId imageId => (ColorfulLife.delete productId imageId g).map Prod.fst

def imageStep (g : Gallery) (op : ImageOp) : Gallery := commit (op.transact g) g

/-! ### Writing positions -/

theorem writePositions_eq {imageIds : List Nat} {productImages : Table ProductImage}
    (present : ∀ id ∈ imageIds, (productImages.get? id).isSome) :
    writePositions imageIds productImages =
      .ok (productImages.renumber ProductImage.place imageIds) := by
  have each : ∀ (es : List (Nat × Nat)) (t : Table ProductImage),
      (∀ e ∈ es, (t.get? e.1).isSome) → es.foldlM writePosition t =
        .ok (es.foldl (fun t e => t.update e.1 (ProductImage.place e.2)) t) := by
    intro es
    induction es with
    | nil => exact fun t _ => rfl
    | cons e es ih =>
        intro t rows
        obtain ⟨image, found⟩ := Option.isSome_iff_exists.mp (rows e List.mem_cons_self)
        have written : writePosition t e = .ok (t.update e.1 (ProductImage.place e.2)) := by
          simp [writePosition, found, orThrow]
        rw [List.foldlM_cons, written, ok_bind, List.foldl_cons]
        refine ih _ fun d hd => ?_
        have there := rows d (List.mem_cons_of_mem _ hd)
        rw [Table.get?_update]
        split
        · rwa [Option.isSome_map]
        · exact there
  exact each _ _ fun e he => present e.1 (List.fst_mem_of_mem_zipIdx he)

/-! ### What the operations do -/

section Operations

variable {g g' : Gallery} {productId imageId : Nat} {ids : List Nat}

theorem mem_selected {k : Nat} : k ∈ (g.productImages.select (ofProduct productId)).map Prod.fst ↔
    ∃ r, g.productImages.get? k = some r ∧ ofProduct productId k r = true := by
  rw [List.mem_map]
  constructor
  · rintro ⟨⟨_, r⟩, mem, rfl⟩
    exact ⟨r, Table.mem_select.mp mem⟩
  · rintro ⟨r, hr⟩
    exact ⟨(k, r), Table.mem_select.mpr hr, rfl⟩

theorem positive_integers {values : List (Option Int)}
    (integers : ∀ value ∈ values, value.any (decide <| 0 < ·) = true) :
    ∃ ids : List Nat, values = (ids.map fun id : Nat => some (id : Int)) ∧ ∀ id ∈ ids, 0 < id := by
  induction values with
  | nil => exact ⟨[], rfl, nofun⟩
  | cons value values ih =>
      obtain ⟨first, rest⟩ := List.forall_mem_cons.mp integers
      obtain ⟨ids, rfl, positive⟩ := ih rest
      obtain ⟨n, rfl, above⟩ := (Option.any_eq_true _ _).mp first
      have above : 0 < n := of_decide_eq_true above
      refine ⟨n.toNat :: ids, ?_, List.forall_mem_cons.mpr ⟨by omega, positive⟩⟩
      rw [List.map_cons, Int.toNat_of_nonneg above.le]

theorem ofIds_injective : Function.Injective ImageIdsValue.ofIds := by
  intro ids ids' same
  have maps := ImageIdsValue.list.inj same
  refine List.map_injective_iff.mpr (fun a b equal => ?_) maps
  exact Int.ofNat.inj (Option.some.inj equal)

/-- A request passes as a list of the positive integers it holds. -/
theorem parseImageIds_eq_ok {value : ImageIdsValue} : parseImageIds value = .ok ids ↔
    value = .ofIds ids ∧ ∀ id ∈ ids, 0 < id := by
  have back : ∀ l : List Nat,
      ((l.map fun id : Nat => some (id : Int)).map fun value => (value.getD 0).toNat) = l := by
    intro l
    simp [List.map_map, Function.comp_def]
  cases value with
  | other => simp [parseImageIds, ImageIdsValue.ofIds]
  | list values =>
      simp only [parseImageIds, bind_eq_ok, ensure_eq_ok, pure_eq_ok, ImageIdsValue.ofIds,
        ImageIdsValue.list.injEq]
      constructor
      · rintro ⟨-, integers, rfl⟩
        obtain ⟨l, rfl, positive⟩ := positive_integers integers
        rw [back]
        exact ⟨rfl, positive⟩
      · rintro ⟨rfl, positive⟩
        refine ⟨⟨⟩, fun value mem => ?_, back ids⟩
        obtain ⟨id, hid, rfl⟩ := List.mem_map.mp mem
        exact decide_eq_true (Int.natCast_pos.mpr (positive id hid))

/-- The test that `reorder` makes is that of a permutation. -/
theorem exactlyOnce_iff (ids : List Nat) {expected : List Nat} (distinct : expected.Nodup) :
    ¬ (ids.dedup.length ≠ ids.length ∨ ids.length ≠ expected.length ∨ ∃ id ∈ ids, id ∉ expected) ↔
      ids.Perm expected := by
  constructor
  · intro test
    have single : ids.dedup.length = ids.length := by
      by_contra other
      exact test (Or.inl other)
    have length : ids.length = expected.length := by
      by_contra other
      exact test (Or.inr (Or.inl other))
    have nodup : ids.Nodup := by
      rw [← List.dedup_eq_self]
      exact (List.dedup_sublist ids).eq_of_length single
    have within : ids ⊆ expected := by
      intro id mem
      by_contra other
      exact test (Or.inr (Or.inr ⟨id, mem, other⟩))
    exact (nodup.subperm within).perm_of_length_le length.ge
  · rintro same (repeated | longer | ⟨id, mem, foreign⟩)
    · exact repeated (congrArg List.length (List.dedup_eq_self.mpr (same.nodup_iff.mpr distinct)))
    · exact longer same.length_eq
    · exact foreign (same.mem_iff.mp mem)

theorem reorder_eq_ok {value : ImageIdsValue} {out : Gallery × List (Nat × ProductImage)} :
    reorder productId value g = .ok out ↔ g.hasProduct productId = true ∧
      ∃ ids, parseImageIds value = .ok ids ∧
        ids.Perm ((g.productImages.select (ofProduct productId)).map Prod.fst) ∧
        out.1 = { g with productImages := g.productImages.renumber ProductImage.place ids } ∧
        out.2 = out.1.images productId := by
  have distinct := Table.nodup_keys_select g.productImages (ofProduct productId)
  have written : ∀ {ids : List Nat},
      ids.Perm ((g.productImages.select (ofProduct productId)).map Prod.fst) →
      writePositions ids g.productImages =
        .ok (g.productImages.renumber ProductImage.place ids) := by
    intro ids same
    refine writePositions_eq fun id mem => ?_
    obtain ⟨r, hr, -⟩ := mem_selected.mp (same.mem_iff.mp mem)
    rw [hr]
    rfl
  have test := fun l : List Nat => exactlyOnce_iff l distinct
  simp only [List.length_map] at test
  simp only [reorder, bind_eq_ok, ensure_eq_ok, pure_eq_ok, test]
  constructor
  · rintro ⟨ids, parsed, -, product, -, same, t, ht, rfl⟩
    obtain rfl := Except.ok.inj ((written same).symm.trans ht)
    exact ⟨product, ids, parsed, same, rfl, rfl⟩
  · rintro ⟨product, ids, parsed, same, first, second⟩
    refine ⟨ids, parsed, ⟨⟩, product, ⟨⟩, same, _, written same, ?_⟩
    rw [← first, ← second]

theorem upload_ok {altText : Option String} {stored : StoredImage}
    (h : upload productId altText stored g = .ok g') :
    (g.productImages.select (ofProduct productId)).length < maxImagesPerProduct ∧
      g' = { g with
        productImages := g.productImages.insert ⟨productId, stored.secureUrl, stored.publicId, altText,
          (g.productImages.select (ofProduct productId)).length⟩ } := by
  simp only [upload, bind_eq_ok, ensure_eq_ok, pure_eq_ok] at h
  obtain ⟨-, -, -, few, rfl⟩ := h
  exact ⟨few, rfl⟩

theorem updateAltText_ok {value : AltTextValue}
    (h : updateAltText productId imageId value g = .ok g') : ∃ altText, g' = { g with
      productImages := g.productImages.update imageId fun image =>
        { image with altText := altText } } := by
  simp only [updateAltText, bind_eq_ok, orThrow_eq_ok, ensure_eq_ok, pure_eq_ok] at h
  obtain ⟨altText, -, -, -, -, -, rfl⟩ := h
  exact ⟨altText, rfl⟩

/-- A deletion takes the row out and writes their positions to the rest. -/
theorem delete_ok {out : Gallery × List (Nat × ProductImage)}
    (h : delete productId imageId g = .ok out) :
    (∃ image, g.productImages.get? imageId = some image ∧ image.legoProductId = productId) ∧
      out.1 = { g with
        productImages := (g.productImages.erase imageId).renumber ProductImage.place
          (((g.productImages.erase imageId).ranked (ofProduct productId)
            ProductImage.sortOrder).map Prod.fst) } ∧
      out.2 = ((g.productImages.erase imageId).ranked (ofProduct productId)
        ProductImage.sortOrder).zipIdx.map fun e => (e.1.1, e.1.2.place e.2) := by
  simp only [delete, bind_eq_ok, orThrow_eq_ok, ensure_eq_ok, pure_eq_ok] at h
  obtain ⟨image, found, -, own, t, written, rfl⟩ := h
  rw [writePositions_eq] at written
  · obtain rfl := Except.ok.inj written
    exact ⟨⟨image, found, own⟩, rfl, rfl⟩
  · intro id mem
    obtain ⟨r, hr, -⟩ := Table.mem_keys_selectBy.mp mem
    rw [hr]
    rfl

end Operations

/-! ### The order of a product's images -/

/-- In every product each image stands at the position it carries, and there are
ten at most. Ids come from a sequence that starts at one. -/
structure GalleryOrdered (g : Gallery) : Prop where
  sequence : 0 < g.productImages.nextId
  positive : ∀ id image, g.productImages.get? id = some image → 0 < id
  numbered : ∀ productId, ∃ ids, ids.length ≤ maxImagesPerProduct ∧
    Table.Numbered g.productImages (ofProduct productId) ProductImage.sortOrder ids

section Ordered

variable {g g' : Gallery} {productId imageId : Nat} {ids : List Nat}

/-- A numbering counts the images of the product. -/
theorem numbered_count
    (h : Table.Numbered g.productImages (ofProduct productId) ProductImage.sortOrder ids) :
    (g.productImages.select (ofProduct productId)).length = ids.length := by
  have keys := congrArg List.length h.arranged.keys_ranked
  rwa [List.length_map, Table.ranked, Table.selectBy, List.length_insertionSort] at keys

/-- What is written to the images of one product leaves those of another. -/
theorem numbered_renumber_other {t : Table ProductImage} {other : Nat} {written : List Nat}
    (nodup : written.Nodup)
    (own : ∀ id ∈ written, ∃ image, t.get? id = some image ∧ image.legoProductId = productId)
    (apart : other ≠ productId)
    (h : Table.Numbered t (ofProduct other) ProductImage.sortOrder ids) :
    Table.Numbered (t.renumber ProductImage.place written) (ofProduct other)
      ProductImage.sortOrder ids := by
  have row : ∀ id image, t.get? id = some image → ofProduct other id image = true →
      (t.renumber ProductImage.place written).get? id = some image := by
    intro id image found selected
    rw [Table.get?_renumber nodup, found, Option.map_some, if_neg]
    intro mem
    obtain ⟨image', found', rfl⟩ := own id mem
    obtain rfl := Option.some.inj (found.symm.trans found')
    exact apart (of_decide_eq_true selected).symm
  have back : ∀ id image, (t.renumber ProductImage.place written).get? id = some image →
      ofProduct other id image = true → t.get? id = some image := by
    intro id image found selected
    rw [Table.get?_renumber nodup] at found
    obtain ⟨before, hbefore, rfl⟩ := Option.map_eq_some_iff.mp found
    have same : ofProduct other id before = true := by
      split at selected <;> exact selected
    have kept := row id before hbefore same
    rw [Table.get?_renumber nodup, hbefore, Option.map_some] at kept
    rw [Option.some.inj kept]
    exact hbefore
  refine h.congr (fun id => ⟨?_, ?_⟩) fun id image found selected =>
    ⟨image, back id image found selected, rfl⟩
  · rintro ⟨image, found, selected⟩
    exact ⟨image, back id image found selected, selected⟩
  · rintro ⟨image, found, selected⟩
    exact ⟨image, row id image found selected, selected⟩

theorem renumber_positive {t : Table ProductImage} {written : List Nat} (nodup : written.Nodup)
    (positive : ∀ id image, t.get? id = some image → 0 < id) :
    ∀ id image, (t.renumber ProductImage.place written).get? id = some image → 0 < id := by
  intro id image found
  rw [Table.get?_renumber nodup] at found
  obtain ⟨before, hbefore, -⟩ := Option.map_eq_some_iff.mp found
  exact positive id before hbefore

namespace GalleryOrdered

theorem upload (h : GalleryOrdered g) {altText : Option String} {stored : StoredImage}
    (tx : upload productId altText stored g = .ok g') : GalleryOrdered g' := by
  obtain ⟨few, rfl⟩ := upload_ok tx
  refine ⟨Nat.succ_pos _, fun id image found => ?_, fun other => ?_⟩
  · rcases Table.insert_cases found with ⟨rfl, -⟩ | old
    · exact h.sequence
    · exact h.positive id image old
  · obtain ⟨ids, most, numbered⟩ := h.numbered other
    by_cases own : productId = other
    · subst own
      have count := numbered_count numbered
      refine ⟨ids ++ [g.productImages.nextId], ?_, numbered.insert (decide_eq_true rfl) count⟩
      rw [List.length_append, List.length_singleton, ← count]
      exact few
    · refine ⟨ids, most, numbered.congr (fun id => ⟨?_, ?_⟩) fun id image found selected => ?_⟩
      · rintro ⟨image, found, selected⟩
        rcases Table.insert_cases found with ⟨-, rfl⟩ | old
        · exact absurd (of_decide_eq_true selected) own
        · exact ⟨image, old, selected⟩
      · rintro ⟨image, found, selected⟩
        exact ⟨image, Table.get?_insert_of_some found, selected⟩
      · rcases Table.insert_cases found with ⟨-, rfl⟩ | old
        · exact absurd (of_decide_eq_true selected) own
        · exact ⟨image, old, rfl⟩

theorem reorder (h : GalleryOrdered g) {value : ImageIdsValue}
    {out : Gallery × List (Nat × ProductImage)} (tx : reorder productId value g = .ok out) :
    GalleryOrdered out.1 := by
  obtain ⟨-, written, -, same, state, -⟩ := reorder_eq_ok.mp tx
  have nodup : written.Nodup := same.nodup_iff.mpr (Table.nodup_keys_select _ _)
  have mem : ∀ id, id ∈ written ↔ ∃ image, g.productImages.get? id = some image ∧
      ofProduct productId id image = true := fun id => same.mem_iff.trans mem_selected
  rw [state]
  refine ⟨?_, renumber_positive nodup h.positive, fun other => ?_⟩
  · rw [Table.nextId_renumber]
    exact h.sequence
  · obtain ⟨ids, most, numbered⟩ := h.numbered other
    by_cases own : other = productId
    · subst own
      refine ⟨written, ?_, Table.numbered_renumber nodup mem (fun _ _ => rfl) fun _ _ _ => rfl⟩
      rw [same.length_eq, List.length_map, numbered_count numbered]
      exact most
    · refine ⟨ids, most, numbered_renumber_other nodup (fun id hid => ?_) own numbered⟩
      obtain ⟨image, found, selected⟩ := (mem id).mp hid
      exact ⟨image, found, of_decide_eq_true selected⟩

theorem updateAltText (h : GalleryOrdered g) {value : AltTextValue}
    (tx : updateAltText productId imageId value g = .ok g') : GalleryOrdered g' := by
  obtain ⟨altText, rfl⟩ := updateAltText_ok tx
  have row : ∀ id image, (g.productImages.update imageId fun image =>
      { image with altText := altText }).get? id = some image → ∃ before,
        g.productImages.get? id = some before ∧ image.legoProductId = before.legoProductId ∧
          image.sortOrder = before.sortOrder := by
    intro id image found
    rw [Table.get?_update] at found
    split at found
    · obtain ⟨before, hbefore, rfl⟩ := Option.map_eq_some_iff.mp found
      exact ⟨before, hbefore, rfl, rfl⟩
    · exact ⟨image, found, rfl, rfl⟩
  refine ⟨h.sequence, fun id image found => ?_, fun other => ?_⟩
  · obtain ⟨before, hbefore, -⟩ := row id image found
    exact h.positive id before hbefore
  · obtain ⟨ids, most, numbered⟩ := h.numbered other
    refine ⟨ids, most, numbered.congr (fun id => ⟨?_, ?_⟩) fun id image found _ => ?_⟩
    · rintro ⟨image, found, selected⟩
      obtain ⟨before, hbefore, product, -⟩ := row id image found
      exact ⟨before, hbefore, by rwa [ofProduct, ← product]⟩
    · rintro ⟨image, found, selected⟩
      rw [Table.get?_update, found]
      split
      · exact ⟨_, rfl, selected⟩
      · exact ⟨image, rfl, selected⟩
    · obtain ⟨before, hbefore, -, order⟩ := row id image found
      exact ⟨before, hbefore, order⟩

/-- What is left of a product's images after one of them is taken out. -/
theorem remaining (numbered : Table.Numbered g.productImages (ofProduct productId)
      ProductImage.sortOrder ids) (imageId : Nat) :
    ((g.productImages.erase imageId).ranked (ofProduct productId) ProductImage.sortOrder).map
      Prod.fst = ids.erase imageId :=
  (numbered.arranged.erase imageId).keys_ranked

theorem delete (h : GalleryOrdered g) {out : Gallery × List (Nat × ProductImage)}
    (tx : delete productId imageId g = .ok out) : GalleryOrdered out.1 := by
  obtain ⟨⟨image, found, rfl⟩, state, -⟩ := delete_ok tx
  obtain ⟨ids, most, numbered⟩ := h.numbered image.legoProductId
  have arranged := numbered.arranged.erase imageId
  have nodup := arranged.nodup
  rw [remaining numbered] at state
  rw [state]
  refine ⟨?_, renumber_positive nodup fun id row kept => ?_, fun other => ?_⟩
  · rw [Table.nextId_renumber]
    exact h.sequence
  · rw [Table.get?_erase] at kept
    split at kept
    · cases kept
    · exact h.positive id row kept
  · by_cases own : other = image.legoProductId
    · subst own
      exact ⟨ids.erase imageId, (List.length_erase_le ..).trans most,
        Table.numbered_renumber nodup arranged.mem (fun _ _ => rfl) fun _ _ _ => rfl⟩
    · obtain ⟨others, few, numbered'⟩ := h.numbered other
      have foreign : ∀ id row, g.productImages.get? id = some row → ofProduct other id row = true →
          id ≠ imageId := by
        rintro id row hrow selected rfl
        obtain rfl := Option.some.inj (found.symm.trans hrow)
        exact own (of_decide_eq_true selected).symm
      refine ⟨others, few, numbered_renumber_other nodup (fun id hid => ?_) own
        (numbered'.congr (fun id => ⟨?_, ?_⟩) fun id row kept _ => ?_)⟩
      · obtain ⟨row, kept, selected⟩ := (arranged.mem id).mp hid
        exact ⟨row, kept, of_decide_eq_true selected⟩
      · rintro ⟨row, kept, selected⟩
        rw [Table.get?_erase] at kept
        split at kept
        · cases kept
        · exact ⟨row, kept, selected⟩
      · rintro ⟨row, hrow, selected⟩
        exact ⟨row, by rw [Table.get?_erase, if_neg (foreign id row hrow selected), hrow], selected⟩
      · rw [Table.get?_erase] at kept
        split at kept
        · cases kept
        · exact ⟨row, kept, rfl⟩

/-- Every part of every call keeps the order. -/
theorem step (h : GalleryOrdered g) (op : ImageOp) : GalleryOrdered (imageStep g op) := by
  refine commit_invariant h fun g' tx => ?_
  cases op with
  | uploadChecks | deleteChecks =>
      obtain ⟨-, -, rfl⟩ := map_eq_ok.mp tx
      exact h
  | upload => exact h.upload tx
  | reorder =>
      obtain ⟨out, reordered, rfl⟩ := map_eq_ok.mp tx
      exact h.reorder reordered
  | updateAltText => exact h.updateAltText tx
  | delete =>
      obtain ⟨out, deleted, rfl⟩ := map_eq_ok.mp tx
      exact h.delete deleted

theorem run (h : GalleryOrdered g) (ops : List ImageOp) :
    GalleryOrdered (Relational.run imageStep g ops) :=
  run_invariant (fun _ op hg => hg.step op) h ops

end GalleryOrdered

end Ordered

/-- The order that a reordering asks for is the order it leaves. -/
theorem reorder_imageIds {g : Gallery} {productId : Nat} {value : ImageIdsValue}
    {out : Gallery × List (Nat × ProductImage)} (tx : reorder productId value g = .ok out) :
    ∃ ids, value = .ofIds ids ∧ out.1.imageIds productId = ids ∧ out.2 = out.1.images productId := by
  obtain ⟨-, written, parsed, same, state, listing⟩ := reorder_eq_ok.mp tx
  have mem : ∀ id, id ∈ written ↔ ∃ image, g.productImages.get? id = some image ∧
      ofProduct productId id image = true := fun id => same.mem_iff.trans mem_selected
  have numbered : Table.Numbered (g.productImages.renumber ProductImage.place written)
      (ofProduct productId) ProductImage.sortOrder written :=
    Table.numbered_renumber (same.nodup_iff.mpr (Table.nodup_keys_select _ _)) mem
      (fun _ _ => rfl) fun _ _ _ => rfl
  refine ⟨written, (parseImageIds_eq_ok.mp parsed).1, ?_, listing⟩
  rw [state]
  exact numbered.arranged.keys_ranked

theorem delete_imageIds {g : Gallery} (h : GalleryOrdered g) {productId imageId : Nat}
    {out : Gallery × List (Nat × ProductImage)} (tx : delete productId imageId g = .ok out) :
    imageId ∈ g.imageIds productId ∧
      out.1.imageIds productId = (g.imageIds productId).erase imageId ∧
      out.2 = out.1.images productId := by
  obtain ⟨⟨image, found, rfl⟩, state, listing⟩ := delete_ok tx
  obtain ⟨ids, -, numbered⟩ := h.numbered image.legoProductId
  have keys : g.imageIds image.legoProductId = ids := numbered.arranged.keys_ranked
  have arranged := numbered.arranged.erase imageId
  rw [GalleryOrdered.remaining numbered] at state
  have renumbered : Table.Numbered ((g.productImages.erase imageId).renumber ProductImage.place
      (ids.erase imageId)) (ofProduct image.legoProductId) ProductImage.sortOrder
      (ids.erase imageId) :=
    Table.numbered_renumber arranged.nodup arranged.mem (fun _ _ => rfl) fun _ _ _ => rfl
  rw [keys, listing, state]
  exact ⟨(numbered.mem imageId).mpr ⟨image, found, decide_eq_true rfl⟩,
    renumbered.arranged.keys_ranked,
    Table.ranked_renumber arranged (fun _ _ => rfl) fun _ _ _ => rfl⟩

/-- From no images, after any calls in any order: the images of a product are at
the positions `0 .. n - 1`, ten at most; exactly the permutations of its images
are accepted as their order, which they then have; a deletion keeps the order of
the rest; and what fails changes nothing. -/
theorem productImages_ordered {g₀ : Gallery} (none_ : g₀.productImages.entries = [])
    (sequence : 0 < g₀.productImages.nextId) (ops : List ImageOp) (productId : Nat) :
    let g := run imageStep g₀ ops
    ((g.images productId).map fun e => e.2.sortOrder) = List.range (g.images productId).length ∧
    (g.images productId).length ≤ maxImagesPerProduct ∧
    (∀ value, (∃ out, reorder productId value g = .ok out) ↔ g.hasProduct productId = true ∧
      ∃ ids, value = .ofIds ids ∧ ids.Perm (g.imageIds productId)) ∧
    (∀ ids out, reorder productId (.ofIds ids) g = .ok out → out.1.imageIds productId = ids) ∧
    (∀ imageId out, delete productId imageId g = .ok out →
      out.1.imageIds productId = (g.imageIds productId).erase imageId) ∧
    ∀ op error, op.transact g = .error error → imageStep g op = g := by
  intro g
  have initial : GalleryOrdered g₀ := by
    have absent : ∀ id image, g₀.productImages.get? id ≠ some image := by
      intro id image found
      have mem := Table.mem_entries.mpr found
      rw [none_] at mem
      cases mem
    refine ⟨sequence, fun id image found => absurd found (absent id image), fun other => ?_⟩
    refine ⟨[], Nat.zero_le _, List.nodup_nil, fun id => ?_, fun i id image key => nomatch key⟩
    constructor
    · intro mem
      cases mem
    · rintro ⟨image, found, -⟩
      exact absurd found (absent id image)
  have ordered : GalleryOrdered g := initial.run ops
  obtain ⟨ids, most, numbered⟩ := ordered.numbered productId
  have keys : g.imageIds productId = ids := numbered.arranged.keys_ranked
  have length : (g.images productId).length = ids.length := by
    rw [← keys, Gallery.imageIds, List.length_map]
  refine ⟨?_, ?_, fun value => ?_, fun ids out tx => ?_, fun imageId out tx => ?_,
    fun op error failed => ?_⟩
  · rw [length]
    exact numbered.ranks
  · rw [length]
    exact most
  · have selected : (g.imageIds productId).Perm
        ((g.productImages.select (ofProduct productId)).map Prod.fst) :=
      (List.perm_insertionSort _ _).map Prod.fst
    constructor
    · rintro ⟨out, tx⟩
      obtain ⟨product, written, parsed, same, -⟩ := reorder_eq_ok.mp tx
      exact ⟨product, written, (parseImageIds_eq_ok.mp parsed).1, same.trans selected.symm⟩
    · rintro ⟨product, written, rfl, same⟩
      let g' := { g with productImages := g.productImages.renumber ProductImage.place written }
      refine ⟨(g', g'.images productId), reorder_eq_ok.mpr ⟨product, written,
        parseImageIds_eq_ok.mpr ⟨rfl, ?_⟩, same.trans selected, rfl, rfl⟩⟩
      intro id mem
      obtain ⟨image, found, -⟩ := mem_selected.mp ((same.trans selected).mem_iff.mp mem)
      exact ordered.positive id image found
  · obtain ⟨asked, same, order, -⟩ := reorder_imageIds tx
    rw [order]
    exact (ofIds_injective same).symm
  · exact (delete_imageIds ordered tx).2.1
  · rw [imageStep, failed, commit_error]

/-- One product without images. -/
def emptyGallery : Gallery where
  legoProducts := Table.empty.insert ⟨"10281", none, "Bonsai", none, "Botanical", "18+", 878, false,
    false⟩
  productImages := Table.empty

def galleryImage (uuid : String) : StoredImage where
  publicId := productImageFolder ++ "/1-" ++ uuid
  secureUrl := "https://images/" ++ uuid

/-- Three uploads, an order of theirs and a deletion. -/
def galleryOps : List ImageOp :=
  [.upload 1 none (galleryImage "3f0d2c11-8a4e-4c6b-9d27-5be1f00a7c31"),
    .upload 1 (some "box") (galleryImage "7c1a94e0-52bd-4f38-b6a9-0e8d3c72f145"),
    .upload 1 none (galleryImage "e2b85d76-19c3-4a07-8f54-d6093ab1ce28"),
    .reorder 1 (.ofIds [3, 1, 2]), .deleteChecks 1 1, .delete 1 1]

example : (deleteChecks 1 1 (run imageStep emptyGallery (galleryOps.take 4))).toOption.isSome := by
  decide +kernel

/-- The two images left can be turned round, and nothing else is an order of them. -/
theorem productImages_ordered_sample :
    (run imageStep emptyGallery galleryOps).imageIds 1 = [3, 2] ∧
    (∃ out, reorder 1 (.ofIds [2, 3]) (run imageStep emptyGallery galleryOps) = .ok out) ∧
    ¬ ∃ out, reorder 1 (.ofIds [2, 1]) (run imageStep emptyGallery galleryOps) = .ok out := by
  have left : (run imageStep emptyGallery galleryOps).imageIds 1 = [3, 2] := by decide +kernel
  obtain ⟨-, -, accepted, -⟩ := productImages_ordered
    (show emptyGallery.productImages.entries = [] from rfl) Nat.one_pos galleryOps 1
  refine ⟨left, (accepted _).mpr ⟨rfl, [2, 3], rfl, ?_⟩, fun reordered => ?_⟩
  · rw [left]
    exact List.Perm.swap 3 2 []
  · obtain ⟨-, ids, same, order⟩ := (accepted _).mp reordered
    rw [left, ← ofIds_injective same] at order
    exact absurd (order.mem_iff.mp (by decide : 1 ∈ [2, 1])) (by decide)

end ColorfulLife
