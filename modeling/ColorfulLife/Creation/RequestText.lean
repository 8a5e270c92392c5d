/-
What a request hash identifies.

The hash of a creation request is SHA-256 over the JSON text of its canonical
form. The text is unambiguous (`requestText_injective`), and the canonical forms
of two requests agree exactly when the requests ask for the same quantities of
the same listings at the same delivery address (`canonicalRequest_eq_iff`); an
absent optional field and `null` are one value.
-/

import ColorfulLife.Orders.Creation
import ColorfulLife.Text.Delimited

namespace ColorfulLife

open Text

/-! ### The JSON text -/

/-- A member of an object, with the punctuation before its value. -/
def member {α : Type} (key : String) (enc : α → List Char) (value : α) : List Char :=
  key.toList ++ enc value

theorem selfDelimiting_member {α : Type} (key : String) {enc : α → List Char}
    (h : SelfDelimiting enc) : SelfDelimiting (member key enc) :=
  h.after key.toList

/-- `{ productListingId, quantity }`. -/
def itemText (item : Nat × Int) : List Char :=
  member "\x7b\"productListingId\":" (fun n => digits n ++ [',']) item.1 ++
    member "\"quantity\":" (fun n => integer n ++ ['}']) item.2

/-- The delivery address, its optional members with `?? null`. -/
def addressText (address : AddressSnapshot) : List Char :=
  member "\x7b\"recipientName\":" quoted address.recipientName ++
    (member ",\"line1\":" quoted address.line1 ++
    (member ",\"line2\":" (nullable quoted) address.line2 ++
    (member ",\"city\":" quoted address.city ++
    (member ",\"county\":" (nullable quoted) address.county ++
    (member ",\"postcode\":" quoted address.postcode ++
    (member ",\"countryCode\":" quoted address.countryCode ++
    (member ",\"phone\":" (nullable quoted) address.phone ++ ['}'])))))))

/-- `JSON.stringify` of the canonical request. -/
def requestText (request : CanonicalRequest) : String :=
  String.ofList (member "\x7b\"items\":" (array itemText) request.items ++
    (member ",\"deliveryAddress\":" (nullable addressText) request.deliveryAddress ++ ['}']))

theorem selfDelimiting_itemText : SelfDelimiting itemText := by
  apply SelfDelimiting.pair
  · exact selfDelimiting_member _ (selfDelimiting_digits (by decide))
  · exact selfDelimiting_member _ (selfDelimiting_integer (by decide))

theorem selfDelimiting_nullable_quoted : SelfDelimiting (nullable quoted) := by
  apply selfDelimiting_quoted.nullable
  intro s r
  simp [quoted]
  decide

theorem selfDelimiting_addressText : SelfDelimiting addressText := by
  have text : ∀ key, SelfDelimiting (member key quoted) := fun key =>
    selfDelimiting_member key selfDelimiting_quoted
  have optional : ∀ key, SelfDelimiting (member key (nullable quoted)) := fun key =>
    selfDelimiting_member key selfDelimiting_nullable_quoted
  have members := (text "\x7b\"recipientName\":").pair ((text ",\"line1\":").pair
    ((optional ",\"line2\":").pair ((text ",\"city\":").pair ((optional ",\"county\":").pair
      ((text ",\"postcode\":").pair ((text ",\"countryCode\":").pair
        ((optional ",\"phone\":").before ['}'])))))))
  refine members.comap (f := fun a : AddressSnapshot => (a.recipientName, a.line1, a.line2, a.city,
    a.county, a.postcode, a.countryCode, a.phone)) ?_
  intro a b same
  cases a
  cases b
  simpa using same

/-- The text determines the request. -/
theorem requestText_injective : Function.Injective requestText := by
  have items : SelfDelimiting (array itemText) := by
    apply selfDelimiting_itemText.array
    intro item r
    simp [itemText, member]
  have address : SelfDelimiting (nullable addressText) := by
    apply selfDelimiting_addressText.nullable
    intro a r
    simp [addressText, member]
  have members := (selfDelimiting_member "\x7b\"items\":" items).pair
    ((selfDelimiting_member ",\"deliveryAddress\":" address).before ['}'])
  rintro ⟨lines, delivery⟩ ⟨lines', delivery'⟩ same
  have parts : (lines, delivery) = (lines', delivery') :=
    members.injective (String.ofList_injective same)
  rw [CanonicalRequest.mk.injEq]
  exact Prod.mk.inj parts

/-! ### Equal requests -/

/-- The requested quantities. -/
def CreateOrderInput.pairs (input : CreateOrderInput) : List (Nat × Int) :=
  input.items.map fun line => (line.productListingId, line.quantity)

/-- The same quantities of the same listings, in any order, to the same
address. -/
def SameRequest (a b : CreateOrderInput) : Prop :=
  (∀ pair, pair ∈ a.pairs ↔ pair ∈ b.pairs) ∧ a.deliveryAddress = b.deliveryAddress

/-- No listing occurs twice. -/
def CreateOrderInput.Distinct (input : CreateOrderInput) : Prop :=
  (input.items.map RequestLine.productListingId).Nodup

theorem CreateOrderInput.Distinct.keys {input : CreateOrderInput} (h : input.Distinct) :
    (input.pairs.map Prod.fst).Nodup := by
  rw [CreateOrderInput.pairs, List.map_map]
  exact h

/-- The canonical form forgets the order of the lines and nothing else. -/
theorem canonicalRequest_eq_iff {a b : CreateOrderInput} (ha : a.Distinct) (hb : b.Distinct) :
    canonicalRequest a = canonicalRequest b ↔ SameRequest a b := by
  have total : Std.Total fun a b : Nat × Int => a.1 ≤ b.1 := ⟨fun a b => Nat.le_total a.1 b.1⟩
  have trans : IsTrans (Nat × Int) fun a b => a.1 ≤ b.1 := ⟨fun _ _ _ => Nat.le_trans⟩
  rw [canonicalRequest, canonicalRequest, CanonicalRequest.mk.injEq, ← CreateOrderInput.pairs,
    ← CreateOrderInput.pairs, SameRequest]
  refine and_congr_left fun _ => ⟨fun sorted pair => ?_, fun same => ?_⟩
  · rw [← List.mem_insertionSort (fun a b : Nat × Int => a.1 ≤ b.1), sorted,
      List.mem_insertionSort]
  · have perm : a.pairs.Perm b.pairs :=
      (List.perm_ext_iff_of_nodup ha.keys.of_map hb.keys.of_map).mpr same
    refine List.Perm.eq_of_pairwise ?_ (List.pairwise_insertionSort _ _)
      (List.pairwise_insertionSort _ _)
      ((List.perm_insertionSort _ _).trans (perm.trans (List.perm_insertionSort _ _).symm))
    -- two lines of one listing are one line
    intro x y hx hy le ge
    rw [List.mem_insertionSort] at hx hy
    have key : x.1 = y.1 := Nat.le_antisymm le ge
    exact List.inj_on_of_nodup_map ha.keys hx ((same y).mpr hy) key

/-- SHA-256 over the text. -/
def textDigest (sha256 : String → String) (request : CanonicalRequest) : String :=
  sha256 (requestText request)

/-- Where the hash tells the texts apart, it tells different requests apart. -/
theorem requestHash_eq_iff {sha256 : String → String} {texts : Set String}
    (injective : Set.InjOn sha256 texts) {a b : CreateOrderInput} (ha : a.Distinct)
    (hb : b.Distinct) (hashedA : requestText (canonicalRequest a) ∈ texts)
    (hashedB : requestText (canonicalRequest b) ∈ texts) :
    requestHash (textDigest sha256) a = requestHash (textDigest sha256) b ↔ SameRequest a b := by
  rw [← canonicalRequest_eq_iff ha hb]
  constructor
  · intro same
    exact requestText_injective (injective hashedA hashedB same)
  · intro same
    rw [requestHash, requestHash, same]

end ColorfulLife
