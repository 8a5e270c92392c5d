/-
Uploaded images (`domain/productImages/productImageValidator.ts`,
`productImageErrors.ts`) and where their assets lie
(`infrastructure/imageStorage/cloudinaryImageStorage.ts`).

What the file-type package detects and what the storage answers are inputs.
-/

import ColorfulLife.Relational.Transaction
import ColorfulLife.Schema.Values
import ColorfulLife.Text.Regex

namespace ColorfulLife

open Relational

/-! ### Errors -/

/-- The errors of the image services, with the texts they are thrown with.
`recordNotFound` is Prisma's own, `storage` the provider's. -/
inductive ImageError where
  | productNotFound (message : String)
  | productImageNotFound (message : String)
  | imageValidation (message : String)
  | imageLimitExceeded (message : String)
  | imageNamespace (message : String)
  | invalidImageOrder (message : String)
  | categoryNotFound (message : String)
  | recordNotFound
  | storage
  deriving DecidableEq, Repr

/-! ### Validation -/

def maxImageBytes : Nat := 8 * 1024 * 1024

def maxImagesPerProduct : Nat := 10

/-- `mimetype in SUPPORTED_IMAGE_TYPES`, for types that are no inherited name of
an object. -/
def supportedImageTypes : List String := ["image/jpeg", "image/png", "image/webp"]

/-- A file as it was received, with the type that its content shows. -/
structure UploadedFile where
  size : Nat
  bufferLength : Nat
  mimetype : String
  detected : Option String
  deriving DecidableEq, Repr

def validateImage (file : Option UploadedFile) : Except ImageError String := do
  let file ← orThrow file (.imageValidation "No image file provided")
  ensure (file.size ≠ 0 ∧ file.bufferLength ≠ 0) (ImageError.imageValidation "Uploaded image is empty")
  ensure (file.size ≤ maxImageBytes ∧ file.bufferLength ≤ maxImageBytes)
    (ImageError.imageValidation "Uploaded image exceeds the 8 MiB limit")
  ensure (file.mimetype ∈ supportedImageTypes)
    (ImageError.imageValidation "Unsupported image format")
  let detected ← orThrow file.detected
    (.imageValidation "Uploaded content is not a valid supported image")
  ensure (detected = file.mimetype ∧ detected ∈ supportedImageTypes)
    (ImageError.imageValidation "Uploaded content is not a valid supported image")
  return detected

/-- The `altText` of a request. -/
inductive AltTextValue where
  | undefined
  | null
  | text (value : String)
  | other
  deriving DecidableEq, Repr

/-- Absent and empty texts are both stored as `null`. -/
def parseOptionalAltText : AltTextValue → Except ImageError (Option String)
  | .undefined | .null => .ok none
  | .other => .error (.imageValidation "altText must be a string")
  | .text value => do
      ensure (jsLength (trim value) ≤ 300)
        (ImageError.imageValidation "altText must be 300 characters or fewer")
      return given (some (trim value))

/-! ### Assets -/

/-- An asset as the storage filed it. -/
structure StoredImage where
  publicId : String
  secureUrl : String
  deriving DecidableEq, Repr

def productImageFolder : String := "colorful-life/products"

def categoryArtworkFolder : String := "colorful-life/category-artwork"

/-- A class of characters under the flag `i`. -/
def classOf (accepts : Char → Bool) (c : Char) : Bool := accepts c.toLower

/-- `[0-9a-f]`. -/
def hexDigit : Char → Bool := classOf fun c => c.isDigit || (decide ('a' ≤ c) && decide (c ≤ 'f'))

/-- `[1-5]`, the version. -/
def uuidVersion (c : Char) : Bool := decide ('1' ≤ c) && decide (c ≤ '5')

/-- `[89ab]`, the variant. -/
def uuidVariant : Char → Bool := classOf fun c =>
  decide (c = '8') || decide (c = '9') || decide (c = 'a') || decide (c = 'b')

def isHyphen (c : Char) : Bool := decide (c = '-')

/-- The characters of a UUID, one class each. -/
def uuidClasses : List (Char → Bool) :=
  List.replicate 8 hexDigit ++ isHyphen :: List.replicate 4 hexDigit ++
    isHyphen :: uuidVersion :: List.replicate 3 hexDigit ++
    isHyphen :: uuidVariant :: List.replicate 3 hexDigit ++ isHyphen :: List.replicate 12 hexDigit

/-- `^<folder>/<owner>-<uuid>$` under the flag `i`. -/
def publicIdPattern (folder : String) (owner : Regex.Expr) : Regex.Expr :=
  Regex.concat ([.start, Regex.text folder.toList, Regex.letter '/', owner, Regex.letter '-'] ++
    (uuidClasses.map .char ++ [.stop]))

/-- Assets of products, whatever product or listing they were uploaded for. -/
def isProductImagePublicId (publicId : String) : Bool :=
  Regex.test (publicIdPattern productImageFolder
    (.seq (.char fun c => decide ('1' ≤ c) && decide (c ≤ '9')) (Regex.star Char.isDigit)))
    publicId.toList

def isOwnedCategoryArtworkPublicId (publicId : String) (categoryId : Nat) : Bool :=
  Regex.test (publicIdPattern categoryArtworkFolder (Regex.text (toString categoryId).toList))
    publicId.toList

/-! ### Uploads of artwork -/

/-- What `randomUUID()` returns. -/
structure Uuid where
  text : String
  wellFormed : List.Forall₂ (fun accepts c => accepts c = true) uuidClasses text.toList

/-- `${categoryId}-${randomUUID()}`, as the storage files it in its folder. -/
def artworkPublicId (categoryId : Nat) (uuid : Uuid) : String :=
  categoryArtworkFolder ++ "/" ++ toString categoryId ++ "-" ++ uuid.text

/-- An asset that was uploaded for a category is one of its own. -/
theorem isOwned_artworkPublicId (categoryId : Nat) (uuid : Uuid) :
    isOwnedCategoryArtworkPublicId (artworkPublicId categoryId uuid) categoryId = true := by
  have text : (artworkPublicId categoryId uuid).toList = categoryArtworkFolder.toList ++
      ('/' :: ((toString categoryId).toList ++ ('-' :: (uuid.text.toList ++ [])))) := by
    simp [artworkPublicId, String.toList_append]
  have leads : ∃ q, Regex.Leads (Regex.concat ([Regex.text categoryArtworkFolder.toList,
      Regex.letter '/', Regex.text (toString categoryId).toList, Regex.letter '-'] ++
        (uuidClasses.map .char ++ [.stop])))
      ⟨[], categoryArtworkFolder.toList ++
        ('/' :: ((toString categoryId).toList ++ ('-' :: (uuid.text.toList ++ [])))), []⟩ q :=
    ⟨_, Regex.Leads.cons Regex.leads_text (Regex.Leads.cons Regex.leads_letter
      (Regex.Leads.cons Regex.leads_text (Regex.Leads.cons Regex.leads_letter
        (Regex.leads_chars uuid.wellFormed
          (Regex.Leads.cons Regex.leads_stop Regex.leads_concat_nil)))))⟩
  obtain ⟨q, leads⟩ := leads
  rw [isOwnedCategoryArtworkPublicId, Regex.test, text, publicIdPattern, List.cons_append,
    Regex.firstMatch_of_leads leads]
  rfl

theorem artworkPublicId_ne_empty (categoryId : Nat) (uuid : Uuid) :
    artworkPublicId categoryId uuid ≠ "" := by
  intro empty
  have length := congrArg (fun s => s.toList.length) empty
  simp [artworkPublicId, String.toList_append, categoryArtworkFolder] at length

end ColorfulLife
