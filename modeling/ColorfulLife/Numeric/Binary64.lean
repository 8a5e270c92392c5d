/-
Unsigned IEEE 754 binary64 numbers, as ECMAScript computes with them.

A finite number is its exact value; every operation computes exactly and then
takes the `nearest` number, ties to the even significand. The error is at most
half a unit in the last place (`abs_nearest_sub_le`). So hundredths below `2 ^ 45`
survive `Math.round(parseFloat(text) * 100)` and `toFixed(2)`.
-/

import Mathlib.Algebra.Order.Round
import Mathlib.Data.Int.Log
import Mathlib.Data.List.DropRight
import Mathlib.Data.Rat.Floor
import Mathlib.Tactic.FieldSimp
import Mathlib.Tactic.Linarith
import Mathlib.Tactic.NormNum
import Mathlib.Tactic.Positivity
import Mathlib.Tactic.Ring

namespace Binary64

/-! ### Rounding -/

/-- The nearest integer, ties to even. -/
def roundEven (x : ℚ) : Int :=
  if x - ⌊x⌋ < 1 / 2 ∨ (x - ⌊x⌋ = 1 / 2 ∧ ⌊x⌋ % 2 = 0) then ⌊x⌋ else ⌊x⌋ + 1

/-- The exponent of the last place of the significand of `x`. -/
def lastPlace (x : ℚ) : Int := max (Int.log 2 x - 52) (-1074)

/-- The nearest number, without a bound on the exponent. -/
def nearest (x : ℚ) : ℚ := roundEven (x / 2 ^ lastPlace x) * 2 ^ lastPlace x

theorem abs_roundEven_sub_le (x : ℚ) : |(roundEven x : ℚ) - x| ≤ 1 / 2 := by
  have low := Int.floor_le x
  have high := Int.lt_floor_add_one x
  unfold roundEven
  split
  · rename_i down
    rw [abs_sub_comm, abs_of_nonneg (by linarith)]
    rcases down with less | ⟨half, -⟩
    · exact less.le
    · exact half.le
  · rename_i up
    have least : 1 / 2 ≤ x - ⌊x⌋ := not_lt.mp fun less => up (Or.inl less)
    push_cast
    rw [abs_of_nonneg (by linarith)]
    linarith

theorem roundEven_intCast (n : Int) : roundEven n = n := by
  unfold roundEven
  rw [Int.floor_intCast, sub_self, if_pos (Or.inl (by norm_num))]

@[simp] theorem nearest_zero : nearest 0 = 0 := by
  simp [nearest, show roundEven 0 = 0 from roundEven_intCast 0]

theorem nearest_nonneg {x : ℚ} (nonneg : 0 ≤ x) : 0 ≤ nearest x := by
  have unit : (0 : ℚ) < 2 ^ lastPlace x := zpow_pos two_pos _
  have down : 0 ≤ ⌊x / 2 ^ lastPlace x⌋ := Int.floor_nonneg.mpr (div_nonneg nonneg unit.le)
  have rounded : 0 ≤ roundEven (x / 2 ^ lastPlace x) := by
    unfold roundEven
    split <;> omega
  exact mul_nonneg (by exact_mod_cast rounded) unit.le

/-- A number below `2 ^ k` has its last place at `k - 53` or below. -/
theorem lastPlace_le {x : ℚ} {k : Int} (pos : 0 < x) (small : x < 2 ^ k) (normal : -1021 ≤ k) :
    lastPlace x ≤ k - 53 := by
  have exponent : Int.log 2 x < k := (Int.lt_zpow_iff_log_lt one_lt_two pos).mp small
  exact max_le (by omega) (by omega)

/-- Rounding below `2 ^ k` is off by half a unit in the last place at most. -/
theorem abs_nearest_sub_le {x : ℚ} {k : Int} (nonneg : 0 ≤ x) (small : x < 2 ^ k)
    (normal : -1021 ≤ k) : |nearest x - x| ≤ 2 ^ (k - 54) := by
  rcases nonneg.eq_or_lt with rfl | pos
  · rw [nearest_zero, sub_zero, abs_zero]
    exact (zpow_pos two_pos _).le
  have unit : (0 : ℚ) < 2 ^ lastPlace x := zpow_pos two_pos _
  have off := abs_roundEven_sub_le (x / 2 ^ lastPlace x)
  have factored : nearest x - x =
      (roundEven (x / 2 ^ lastPlace x) - x / 2 ^ lastPlace x) * 2 ^ lastPlace x := by
    rw [nearest, sub_mul, div_mul_cancel₀ x unit.ne']
  have coarse : (2 : ℚ) ^ lastPlace x ≤ 2 ^ (k - 53) :=
    zpow_le_zpow_right₀ one_le_two (lastPlace_le pos small normal)
  calc |nearest x - x|
      = |(roundEven (x / 2 ^ lastPlace x) : ℚ) - x / 2 ^ lastPlace x| * 2 ^ lastPlace x := by
        rw [factored, abs_mul, abs_of_pos unit]
    _ ≤ 1 / 2 * 2 ^ (k - 53) := mul_le_mul off coarse unit.le (by norm_num)
    _ = 2 ^ (k - 54) := by
        rw [show k - 53 = k - 54 + 1 by ring, zpow_add_one₀ two_ne_zero]
        ring

/-- The integers up to `2 ^ 53` are numbers. -/
theorem nearest_natCast {n : Nat} (small : n ≤ 2 ^ 53) : nearest n = n := by
  rcases Nat.eq_zero_or_pos n with rfl | pos
  · exact nearest_zero
  have exact_ : ∀ m : Int, (n : ℚ) / 2 ^ lastPlace (n : ℚ) = m → nearest n = n := by
    intro m whole
    have unit : (2 : ℚ) ^ lastPlace (n : ℚ) ≠ 0 := (zpow_pos two_pos _).ne'
    rw [nearest, whole, roundEven_intCast, ← whole, div_mul_cancel₀ _ unit]
  rcases small.lt_or_eq with below | rfl
  · have place : lastPlace (n : ℚ) ≤ 0 :=
      lastPlace_le (k := 53) (by exact_mod_cast pos) (by exact_mod_cast below) (by norm_num)
    obtain ⟨d, hd⟩ := Int.exists_eq_neg_ofNat place
    refine exact_ (n * 2 ^ d) ?_
    rw [hd, zpow_neg, zpow_natCast, div_inv_eq_mul]
    push_cast
    rfl
  · have place : lastPlace ((2 ^ 53 : Nat) : ℚ) = 1 := by
      rw [lastPlace, Int.log_natCast, Nat.log_pow one_lt_two]
      rfl
    refine exact_ (2 ^ 52) ?_
    rw [place]
    norm_num

/-- A power of two is a number, and nothing above it is rounded below it. -/
theorem zpow_le_nearest {x : ℚ} {k : Int} (large : 2 ^ k ≤ x) (normal : -1022 ≤ k) :
    2 ^ k ≤ nearest x := by
  have pos : 0 < x := (zpow_pos two_pos k).trans_le large
  have unit : (0 : ℚ) < 2 ^ lastPlace x := zpow_pos two_pos _
  have exponent : k ≤ Int.log 2 x := (Int.zpow_le_iff_le_log one_lt_two pos).mp large
  have place : lastPlace x = Int.log 2 x - 52 := max_eq_left (by omega)
  have leading : (2 : ℚ) ^ Int.log 2 x = 2 ^ 52 * 2 ^ lastPlace x := by
    rw [place, ← zpow_natCast, ← zpow_add₀ two_ne_zero]
    exact congrArg _ (by omega)
  have significand : (2 : Int) ^ 52 ≤ ⌊x / 2 ^ lastPlace x⌋ := by
    rw [Int.le_floor, le_div_iff₀ unit, Int.cast_pow, Int.cast_ofNat, ← leading]
    exact Int.zpow_log_le_self one_lt_two pos
  have rounded : (2 : Int) ^ 52 ≤ roundEven (x / 2 ^ lastPlace x) := by
    unfold roundEven
    split <;> omega
  calc (2 : ℚ) ^ k ≤ 2 ^ Int.log 2 x := zpow_le_zpow_right₀ one_le_two exponent
    _ = 2 ^ 52 * 2 ^ lastPlace x := leading
    _ ≤ nearest x := mul_le_mul_of_nonneg_right (by exact_mod_cast rounded) unit.le

/-! ### Numbers -/

inductive Number where
  | finite (value : ℚ)
  | infinity
  | nan
  deriving DecidableEq

namespace Number

/-- The number that an exact result becomes. -/
def ofRat (x : ℚ) : Number :=
  if nearest x < 2 ^ 1024 then .finite (nearest x) else .infinity

protected def add : Number → Number → Number
  | .finite x, .finite y => ofRat (x + y)
  | .nan, _ => .nan
  | _, .nan => .nan
  | _, _ => .infinity

protected def mul : Number → Number → Number
  | .finite x, .finite y => ofRat (x * y)
  | .nan, _ => .nan
  | _, .nan => .nan
  | .infinity, .finite y => if y = 0 then .nan else .infinity
  | .finite x, .infinity => if x = 0 then .nan else .infinity
  | .infinity, .infinity => .infinity

protected def div : Number → Number → Number
  | .finite x, .finite y =>
      if y = 0 then (if x = 0 then .nan else .infinity) else ofRat (x / y)
  | .nan, _ => .nan
  | _, .nan => .nan
  | .infinity, .finite _ => .infinity
  | .finite _, .infinity => .finite 0
  | .infinity, .infinity => .nan

/-- The remainder of a division that is cut off at the point, which is always a number. -/
protected def mod : Number → Number → Number
  | .finite x, .finite y => if y = 0 then .nan else .finite (x - y * ⌊x / y⌋)
  | .finite x, .infinity => .finite x
  | .nan, _ => .nan
  | .infinity, _ => .nan
  | .finite _, .nan => .nan

instance : Add Number := ⟨Number.add⟩
instance : Mul Number := ⟨Number.mul⟩
instance : Div Number := ⟨Number.div⟩
instance : Mod Number := ⟨Number.mod⟩
instance (n : Nat) : OfNat Number n := ⟨ofRat n⟩

/-- Conversion to a Boolean. -/
def truthy : Number → Bool
  | .finite x => decide (x ≠ 0)
  | .infinity => true
  | .nan => false

/-- `Math.round`: ties upwards. -/
def mathRound : Number → Number
  | .finite x => .finite ⌊x + 1 / 2⌋
  | .infinity => .infinity
  | .nan => .nan

/-- `Math.floor`. -/
def mathFloor : Number → Number
  | .finite x => .finite ⌊x⌋
  | .infinity => .infinity
  | .nan => .nan

/-- `Number.isSafeInteger`. -/
def isSafeInteger : Number → Bool
  | .finite x => decide (x = ⌊x⌋ ∧ |x| ≤ 2 ^ 53 - 1)
  | .infinity => false
  | .nan => false

/-- `x < y`. -/
protected def less : Number → Number → Bool
  | .finite x, .finite y => decide (x < y)
  | .finite _, .infinity => true
  | _, _ => false

/-- `x <= y`. -/
protected def atMost : Number → Number → Bool
  | .finite x, .finite y => decide (x ≤ y)
  | .finite _, .infinity => true
  | .infinity, .infinity => true
  | _, _ => false

/-! ### Reading -/

/-- The value of a list of digits. -/
def decimal (text : List Char) : Nat :=
  text.foldl (fun n c => 10 * n + (c.toNat - '0'.toNat)) 0

/-- `parseInt(text, 10)` of a text without a sign. -/
def parseInt (text : List Char) : Number :=
  match text.takeWhile Char.isDigit with
  | [] => .nan
  | digits => ofRat (decimal digits)

/-- `parseFloat(text)` of a text of digits and dots. -/
def parseFloat (text : List Char) : Number :=
  let whole := text.takeWhile Char.isDigit
  let fraction :=
    match text.dropWhile Char.isDigit with
    | '.' :: rest => rest.takeWhile Char.isDigit
    | _ => []
  if whole = [] ∧ fraction = [] then .nan
  else ofRat (decimal whole + decimal fraction / 10 ^ fraction.length)

/-! ### Writing -/

/-- `n / 10 ^ places`, written with `places` decimals. -/
def fixedText (places n : Nat) : List Char :=
  let digits := Nat.toDigits 10 n
  let padded := List.replicate (places + 1 - digits.length) '0' ++ digits
  let whole := padded.length - places
  if places = 0 then padded else padded.take whole ++ '.' :: padded.drop whole

/-- The fewest digits that name `x`, with the power of ten of the last one. -/
def shortest (x : ℚ) : Nat × Int :=
  let least := fun k : Nat =>
    let e := Int.log 10 x + 1 - k
    ((roundEven (x / 10 ^ e)).toNat, e)
  ((List.range' 1 17).map least).find? (fun d => decide (nearest (d.1 * 10 ^ d.2) = x)) |>.getD
    (least 17)

/-- The exponential notation of `toString`, for numbers from `10 ^ 21` on. -/
def exponentText (x : ℚ) : List Char :=
  let (n, e) := shortest x
  let digits := Nat.toDigits 10 n
  let shown := digits.rdropWhile (decide <| · = '0')
  let exponent := Nat.toDigits 10 (e + digits.length - 1).toNat
  match shown with
  | [] => []
  | [d] => d :: 'e' :: '+' :: exponent
  | d :: rest => d :: '.' :: rest ++ 'e' :: '+' :: exponent

/-- `Number.prototype.toFixed`. -/
def toFixed (places : Nat) : Number → List Char
  | .finite x =>
      if x < 10 ^ 21 then fixedText places ⌊x * 10 ^ places + 1 / 2⌋.toNat else exponentText x
  | .infinity => "Infinity".toList
  | .nan => "NaN".toList

/-- `toString` of an integer, which is what `toFixed` makes of it. -/
def integerText (x : Number) : List Char := toFixed 0 x

/-- `toString` of an integer: the fewest digits that name it, and zeros. -/
def wholeText : Number → List Char
  | .finite x =>
      if x = 0 then ['0']
      else if x < 10 ^ 21 then
        let (n, e) := shortest x
        Nat.toDigits 10 n ++ List.replicate e.toNat '0'
      else exponentText x
  | .infinity => "Infinity".toList
  | .nan => "NaN".toList

/-- `padStart(places, "0")`. -/
def padStart (places : Nat) (text : List Char) : List Char :=
  List.replicate (places - text.length) '0' ++ text

/-- `padEnd(places, "0")`. -/
def padEnd (places : Nat) (text : List Char) : List Char :=
  text ++ List.replicate (places - text.length) '0'

/-- `n` with leading zeros, in `places` digits. -/
def padded : Nat → Nat → List Char
  | 0, _ => []
  | places + 1, n => padded places (n / 10) ++ [Nat.digitChar (n % 10)]

/-! ### Texts of digits -/

section Texts

variable {digits fraction : List Char}

theorem decimal_concat (c : Char) :
    decimal (digits ++ [c]) = 10 * decimal digits + (c.toNat - 48) := by
  rw [decimal, List.foldl_append]
  rfl

theorem digit_range {c : Char} (digit : c.isDigit = true) : 48 ≤ c.toNat ∧ c.toNat ≤ 57 :=
  Char.isDigit_iff_toNat.mp digit

@[simp] theorem length_padded (places n : Nat) : (padded places n).length = places := by
  induction places generalizing n with
  | zero => rfl
  | succ places ih => rw [padded, List.length_append, ih, List.length_singleton]

theorem isDigit_of_mem_padded {places n : Nat} {c : Char} (mem : c ∈ padded places n) :
    c.isDigit = true := by
  induction places generalizing n with
  | zero => cases mem
  | succ places ih =>
      rcases List.mem_append.mp mem with before | last
      · exact ih before
      · rw [List.mem_singleton.mp last]
        exact Nat.isDigit_digitChar.trans (decide_eq_true (Nat.mod_lt n (by decide)))

/-- A text of digits is its value in as many places. -/
theorem padded_decimal (all : ∀ c ∈ digits, c.isDigit = true) :
    padded digits.length (decimal digits) = digits := by
  induction digits using List.reverseRecOn with
  | nil => rfl
  | append_singleton digits c ih =>
      obtain ⟨low, high⟩ := digit_range (all c (by simp))
      have quotient : decimal (digits ++ [c]) / 10 = decimal digits := by
        rw [decimal_concat]
        omega
      have remainder : Nat.digitChar (decimal (digits ++ [c]) % 10) = c := by
        rw [decimal_concat, Nat.mul_add_mod, Nat.mod_eq_of_lt (by omega)]
        refine Char.toNat_inj.mp ?_
        rw [Nat.toNat_digitChar_of_lt_ten (by omega)]
        omega
      rw [List.length_append, List.length_singleton, padded, quotient, remainder,
        ih fun d mem => all d (List.mem_append_left _ mem)]

theorem decimal_padded {places n : Nat} (small : n < 10 ^ places) :
    decimal (padded places n) = n := by
  induction places generalizing n with
  | zero => exact (Nat.lt_one_iff.mp small).symm
  | succ places ih =>
      rw [padded, decimal_concat, ih (by rw [pow_succ] at small; omega),
        Nat.toNat_digitChar_of_lt_ten (Nat.mod_lt n (by decide))]
      omega

theorem decimal_lt (all : ∀ c ∈ digits, c.isDigit = true) :
    decimal digits < 10 ^ digits.length := by
  induction digits using List.reverseRecOn with
  | nil => exact Nat.one_pos
  | append_singleton digits c ih =>
      have last := digit_range (all c (by simp))
      have before := ih fun d mem => all d (List.mem_append_left _ mem)
      rw [decimal_concat, List.length_append, List.length_singleton, pow_succ]
      omega

theorem decimal_toDigits (n : Nat) : decimal (Nat.toDigits 10 n) = n :=
  Nat.ofDigitChars_ten_toDigits

/-- Leading zeros do not count. -/
theorem decimal_padStart (places : Nat) : decimal (padStart places digits) = decimal digits := by
  have zeros := Nat.ofDigitChars_append (b := 10) (l := List.replicate (places - digits.length) '0')
    (m := digits) 0
  rwa [Nat.ofDigitChars_replicate_zero, Nat.mul_zero] at zeros

theorem decimal_padEnd (places : Nat) :
    decimal (padEnd places digits) = 10 ^ (places - digits.length) * decimal digits := by
  have zeros := Nat.ofDigitChars_append (b := 10) (l := digits)
    (m := List.replicate (places - digits.length) '0') 0
  rwa [Nat.ofDigitChars_replicate_zero] at zeros

theorem isDigit_padStart (places : Nat) (all : ∀ c ∈ digits, c.isDigit = true) :
    ∀ c ∈ padStart places digits, c.isDigit = true := by
  intro c mem
  rcases List.mem_append.mp mem with zero | own
  · rw [List.eq_of_mem_replicate zero]
    rfl
  · exact all c own

theorem isDigit_padEnd (places : Nat) (all : ∀ c ∈ digits, c.isDigit = true) :
    ∀ c ∈ padEnd places digits, c.isDigit = true := by
  intro c mem
  rcases List.mem_append.mp mem with own | zero
  · exact all c own
  · rw [List.eq_of_mem_replicate zero]
    rfl

/-- An integer is written with its digits. -/
theorem integerText_natCast {n : Nat} (small : n < 10 ^ 21) :
    integerText (.finite n) = Nat.toDigits 10 n := by
  have below : (n : ℚ) < 10 ^ 21 := by exact_mod_cast small
  have whole : ⌊(n : ℚ) * 10 ^ 0 + 1 / 2⌋ = (n : Int) := by
    rw [pow_zero, mul_one, Int.floor_natCast_add]
    norm_num
  have long : 0 + 1 - (Nat.toDigits 10 n).length = 0 := by
    have least : 0 < (Nat.toDigits 10 n).length := Nat.length_toDigits_pos
    omega
  have written : toFixed 0 (.finite n) = fixedText 0 ⌊(n : ℚ) * 10 ^ 0 + 1 / 2⌋.toNat := if_pos below
  rw [integerText, written, whole, Int.toNat_natCast, fixedText, if_pos rfl, long,
    List.replicate_zero, List.nil_append]

theorem takeWhile_digits (rest : List Char) (all : ∀ c ∈ digits, c.isDigit = true)
    (ends : ∀ c ∈ rest.head?, c.isDigit = false) :
    (digits ++ rest).takeWhile Char.isDigit = digits ∧
      (digits ++ rest).dropWhile Char.isDigit = rest := by
  have stops : rest.takeWhile Char.isDigit = [] ∧ rest.dropWhile Char.isDigit = rest := by
    cases rest with
    | nil => exact ⟨rfl, rfl⟩
    | cons c rest =>
        have refused := ends c rfl
        simp [refused]
  rw [List.takeWhile_append_of_pos all, List.dropWhile_append_of_pos all, stops.1, stops.2]
  exact ⟨List.append_nil _, rfl⟩

theorem parseInt_digits (nonempty : digits ≠ []) (all : ∀ c ∈ digits, c.isDigit = true) :
    parseInt digits = ofRat (decimal digits) := by
  have taken := (takeWhile_digits [] all nofun).1
  rw [List.append_nil] at taken
  rw [parseInt, taken]
  cases digits with
  | nil => exact absurd rfl nonempty
  | cons c digits => rfl

theorem parseFloat_whole (nonempty : digits ≠ []) (all : ∀ c ∈ digits, c.isDigit = true) :
    parseFloat digits = ofRat (decimal digits) := by
  obtain ⟨taken, dropped⟩ := takeWhile_digits [] all nofun
  rw [List.append_nil] at taken dropped
  simp only [parseFloat, taken, dropped]
  rw [if_neg fun empty => nonempty empty.1]
  simp [decimal]

theorem parseFloat_fraction (nonempty : digits ≠ []) (all : ∀ c ∈ digits, c.isDigit = true)
    (all' : ∀ c ∈ fraction, c.isDigit = true) :
    parseFloat (digits ++ '.' :: fraction) =
      ofRat (decimal digits + decimal fraction / 10 ^ fraction.length) := by
  have dot : ∀ c ∈ ('.' :: fraction).head?, c.isDigit = false := by
    rintro c ⟨⟩
    rfl
  obtain ⟨taken, dropped⟩ := takeWhile_digits _ all dot
  have decimals := (takeWhile_digits [] all' nofun).1
  rw [List.append_nil] at decimals
  simp only [parseFloat, taken, dropped, decimals]
  rw [if_neg fun empty => nonempty empty.1]

end Texts

/-! ### Safe integers -/

/-- A number from `2 ^ 53` on, which is no safe integer. -/
def Large : Number → Prop
  | .finite x => 2 ^ 53 ≤ x
  | .infinity => True
  | .nan => False

section Large

variable {x : Number} {n m : Nat}

theorem large_ofRat {x : ℚ} (large : 2 ^ 53 ≤ x) : Large (ofRat x) := by
  have rounded := zpow_le_nearest (k := 53) (by exact_mod_cast large) (by norm_num)
  unfold ofRat
  split
  · exact_mod_cast rounded
  · trivial

theorem Large.mul_natCast (large : Large x) (pos : 0 < n) : Large (x * .finite n) := by
  have least : (1 : ℚ) ≤ n := by exact_mod_cast pos
  cases x with
  | finite x =>
      refine large_ofRat ?_
      calc (2 : ℚ) ^ 53 ≤ x := large
        _ ≤ x * n := le_mul_of_one_le_right (le_trans (by norm_num) large) least
  | infinity =>
      have product : (.infinity * .finite (n : ℚ) : Number) = .infinity := if_neg (by positivity)
      rw [product]
      trivial
  | nan => exact large

theorem Large.add_natCast (large : Large x) : Large (x + .finite n) := by
  cases x with
  | finite x => exact large_ofRat (le_add_of_le_of_nonneg large n.cast_nonneg)
  | infinity => trivial
  | nan => exact large

theorem Large.not_safe (large : Large x) : isSafeInteger x = false := by
  cases x with
  | finite x =>
      refine decide_eq_false fun safe => ?_
      have most := (le_abs_self x).trans safe.2
      have least : (2 : ℚ) ^ 53 ≤ x := large
      linarith
  | infinity => rfl
  | nan => rfl

theorem isSafeInteger_natCast (small : n < 2 ^ 53) : isSafeInteger (.finite n) = true := by
  have most : (n : ℚ) ≤ 2 ^ 53 - 1 := by
    rw [le_sub_iff_add_le]
    exact_mod_cast small
  refine decide_eq_true ⟨?_, ?_⟩
  · rw [Int.floor_natCast]
    rfl
  · rwa [Nat.abs_cast]

end Large

/-! ### Hundredths -/

section Hundredths

variable {n m : Nat}

theorem ofRat_eq {x : ℚ} (nonneg : 0 ≤ x) (small : x < 2 ^ (53 : Int)) :
    ofRat x = .finite (nearest x) := by
  have off := abs_le.mp (abs_nearest_sub_le nonneg small (by norm_num))
  norm_num at off small
  refine if_pos ?_
  calc nearest x < 2 ^ 54 := by linarith [off.2]
    _ < 2 ^ 1024 := pow_lt_pow_right₀ one_lt_two (by norm_num)

theorem ofRat_natCast (small : n ≤ 2 ^ 53) : ofRat n = .finite n := by
  rw [ofRat, nearest_natCast small]
  refine if_pos ?_
  calc (n : ℚ) ≤ 2 ^ 53 := by exact_mod_cast small
    _ < 2 ^ 1024 := pow_lt_pow_right₀ one_lt_two (by norm_num)

theorem add_natCast (small : n + m ≤ 2 ^ 53) :
    (.finite n + .finite m : Number) = .finite (n + m : Nat) := by
  change ofRat (n + m) = _
  rw [← Nat.cast_add, ofRat_natCast small]

/-- A number of hundredths below `2 ^ k` is rounded by half a unit in the last place. -/
theorem nearest_hundredths {k : Nat} (small : n < 100 * 2 ^ k) (few : k ≤ 53) :
    ofRat (n / 100) = .finite (nearest (n / 100)) ∧
      |nearest (n / 100) - n / 100| ≤ 2 ^ ((k : Int) - 54) := by
  have nonneg : (0 : ℚ) ≤ n / 100 := by positivity
  have cast : (n : ℚ) < 2 ^ (k : Int) * 100 := by
    rw [mul_comm]
    exact_mod_cast small
  have below : (n : ℚ) / 100 < 2 ^ (k : Int) := (div_lt_iff₀ (by norm_num)).mpr cast
  have least : (2 : ℚ) ^ (k : Int) ≤ 2 ^ (53 : Int) :=
    zpow_le_zpow_right₀ one_le_two (by omega)
  exact ⟨ofRat_eq nonneg (below.trans_le least), abs_nearest_sub_le nonneg below (by omega)⟩

theorem div_finite {x y : ℚ} (nonzero : y ≠ 0) :
    (.finite x / .finite y : Number) = ofRat (x / y) := by
  change Number.div _ _ = _
  rw [Number.div, if_neg nonzero]

theorem hundred_eq : (100 : Number) = .finite (100 : Nat) := ofRat_natCast (by norm_num)

theorem div_hundred : (.finite n / 100 : Number) = ofRat (n / 100) := by
  rw [hundred_eq, div_finite (by norm_num), Nat.cast_ofNat]

theorem mul_hundred (small : n * 100 ≤ 2 ^ 53) :
    (.finite n * 100 : Number) = .finite (n * 100 : Nat) := by
  rw [hundred_eq]
  change ofRat (n * (100 : Nat)) = _
  rw [← Nat.cast_mul, ofRat_natCast small]

/-- Hundreds and units make a safe integer exactly. -/
theorem hundreds_of_lt (small : n * 100 + m < 2 ^ 53) :
    ofRat n * 100 + ofRat m = .finite (n * 100 + m : Nat) := by
  rw [ofRat_natCast (by omega), mul_hundred (by omega), ofRat_natCast (by omega),
    add_natCast (by omega)]

/-- Hundreds and units beyond the safe integers stay there, however they are rounded. -/
theorem hundreds_of_le (large : 2 ^ 53 ≤ n * 100 + m) (few : m < 100) :
    Large (ofRat n * 100 + ofRat m) := by
  rw [ofRat_natCast (n := m) (by omega)]
  rcases le_or_gt (n * 100) (2 ^ 53) with exact_ | beyond
  · rw [ofRat_natCast (by omega), mul_hundred exact_]
    refine large_ofRat ?_
    exact_mod_cast large
  · refine Large.add_natCast ?_
    rw [hundred_eq]
    rcases le_or_gt n (2 ^ 53) with exact_ | beyond'
    · rw [ofRat_natCast exact_]
      refine large_ofRat ?_
      exact_mod_cast beyond.le
    · refine Large.mul_natCast (large_ofRat ?_) (by norm_num)
      exact_mod_cast beyond'.le

/-- `Math.floor` of a quotient by 100 is exact although the quotient is rounded. -/
theorem mathFloor_hundredths (small : n ≤ 2 ^ 53) :
    mathFloor (.finite n / 100) = .finite (n / 100 : Nat) := by
  obtain ⟨read, off⟩ := nearest_hundredths (n := n) (k := 47) (by omega) (by norm_num)
  have off := abs_le.mp off
  norm_num at off
  have parts : (n : ℚ) = 100 * (n / 100 : Nat) + (n % 100 : Nat) := by
    exact_mod_cast (Nat.div_add_mod n 100).symm
  have whole : ⌊nearest (n / 100)⌋ = ((n / 100 : Nat) : Int) := by
    rcases Nat.eq_zero_or_pos (n % 100) with exact_ | pos
    · have same : (n : ℚ) / 100 = (n / 100 : Nat) := by
        rw [parts, exact_]
        norm_num
      rw [same, nearest_natCast (by omega), Int.floor_natCast]
    · have least : (1 : ℚ) ≤ (n % 100 : Nat) := by exact_mod_cast pos
      have last : ((n % 100 : Nat) : ℚ) ≤ 99 := by
        exact_mod_cast Nat.le_of_lt_succ (Nat.mod_lt n (by norm_num))
      rw [Int.floor_eq_iff, Int.cast_natCast]
      constructor
      · linarith [off.1]
      · linarith [off.2]
  rw [div_hundred, read, mathFloor, whole]
  rfl

theorem mod_hundred (n : Nat) : (.finite n % 100 : Number) = .finite (n % 100 : Nat) := by
  have whole : ⌊(n : ℚ) / (100 : Nat)⌋ = ((n / 100 : Nat) : Int) := by
    rw [Rat.floor_natCast_div_natCast]
    rfl
  rw [hundred_eq]
  change Number.mod _ _ = _
  rw [Number.mod, if_neg (by norm_num), whole]
  have parts : (n : ℚ) = (100 : Nat) * (n / 100 : Nat) + (n % 100 : Nat) := by
    exact_mod_cast (Nat.div_add_mod n 100).symm
  refine congrArg Number.finite ?_
  rw [Int.cast_natCast]
  linarith

/-- `Math.round(x * 100)` recovers the hundredths that `x` was read from. -/
theorem mathRound_hundredths (small : n < 100 * 2 ^ 45) :
    mathRound (ofRat (n / 100) * 100) = .finite n := by
  obtain ⟨read, off⟩ := nearest_hundredths small (by norm_num)
  have off := abs_le.mp off
  have most : (n : ℚ) < 3518437208883200 := by exact_mod_cast small
  have nonneg : 0 ≤ nearest (n / 100) * 100 :=
    mul_nonneg (nearest_nonneg (by positivity)) (by norm_num)
  norm_num at off
  have below : nearest (n / 100) * 100 < 2 ^ (52 : Int) := by
    norm_num
    linarith [off.2]
  have product : (.finite (nearest (n / 100)) * 100 : Number) =
      .finite (nearest (nearest (n / 100) * 100)) := by
    rw [hundred_eq]
    exact_mod_cast ofRat_eq nonneg (below.trans (by norm_num))
  have off' := abs_le.mp (abs_nearest_sub_le nonneg below (by norm_num))
  norm_num at off'
  have whole : ⌊nearest (nearest (n / 100) * 100) + 1 / 2⌋ = (n : Int) := by
    rw [Int.floor_eq_iff]
    push_cast
    constructor
    · linarith [off.1, off'.1]
    · linarith [off.2, off'.2]
  rw [read, product, mathRound, whole]
  rfl

/-- `toFixed(2)` of a quotient by 100 writes the hundredths. -/
theorem toFixed_hundredths (small : n < 100 * 2 ^ 45) :
    toFixed 2 (.finite n / 100) = fixedText 2 n := by
  obtain ⟨read, off⟩ := nearest_hundredths small (by norm_num)
  have off := abs_le.mp off
  have most : (n : ℚ) < 3518437208883200 := by exact_mod_cast small
  norm_num at off
  have below : nearest (n / 100) < 10 ^ 21 := by
    norm_num
    linarith [off.2]
  have whole : ⌊nearest (n / 100) * 10 ^ 2 + 1 / 2⌋ = (n : Int) := by
    rw [Int.floor_eq_iff]
    push_cast
    constructor
    · linarith [off.1]
    · linarith [off.2]
  have written : toFixed 2 (.finite (nearest (n / 100))) =
      fixedText 2 ⌊nearest (n / 100) * 10 ^ 2 + 1 / 2⌋.toNat := if_pos below
  rw [div_hundred, read, written, whole, Int.toNat_natCast]

end Hundredths

/-! ### Texts of integers -/

section Whole

variable {n : Nat}

/-- Even integers are numbers up to `2 ^ 54`. -/
theorem nearest_even {m : Nat} (small : 2 * m < 2 ^ 54) : nearest (2 * m) = 2 * m := by
  rcases Nat.eq_zero_or_pos m with rfl | pos
  · simp
  have positive : (0 : ℚ) < 2 * m := by positivity
  have place : lastPlace (2 * m : ℚ) ≤ 1 :=
    lastPlace_le (k := 54) positive (by exact_mod_cast small) (by norm_num)
  obtain ⟨d, hd⟩ := Int.exists_add_of_le place
  have unit : (2 : ℚ) ^ lastPlace (2 * m : ℚ) ≠ 0 := (zpow_pos two_pos _).ne'
  have whole : (2 * m : ℚ) / 2 ^ lastPlace (2 * m : ℚ) = ((m * 2 ^ d : Nat) : Int) := by
    have exponent : lastPlace (2 * m : ℚ) = 1 - d := by omega
    rw [exponent, zpow_sub₀ two_ne_zero, zpow_one, zpow_natCast]
    push_cast
    field_simp
  rw [nearest, whole, roundEven_intCast, ← whole, div_mul_cancel₀ _ unit]

/-- Multiples of powers of ten are numbers up to `10 ^ 16`. -/
theorem nearest_tens {m e : Nat} (small : m * 10 ^ (e + 1) ≤ 10 ^ 16) :
    nearest (m * 10 ^ (e + 1)) = m * 10 ^ (e + 1) := by
  have half : 2 * (m * 10 ^ e * 5) = m * 10 ^ (e + 1) := by
    rw [pow_succ]
    ring
  have even := nearest_even (m := m * 10 ^ e * 5) (by omega)
  have same : (m * 10 ^ (e + 1) : ℚ) = 2 * (m * 10 ^ e * 5 : Nat) := by
    push_cast
    ring
  rw [same, even]

/-- What is tried for the digits of a safe integer is exact when it is read back. -/
theorem eq_of_nearest_eq {L k : Nat} (short : n < 10 ^ (L + 1)) (few : L < 16)
    (places : k ≤ L + 1)
    (back : nearest ((roundEven (n / 10 ^ (L + 1 - k))).toNat * 10 ^ (L + 1 - k)) = n) :
    (roundEven (n / 10 ^ (L + 1 - k))).toNat * 10 ^ (L + 1 - k) = n := by
  obtain ⟨e, he⟩ := Nat.exists_eq_add_of_le places
  have exponent : L + 1 - k = e := by omega
  rw [exponent] at back ⊢
  cases e with
  | zero => rw [pow_zero, div_one, pow_zero, mul_one, ← Int.cast_natCast, roundEven_intCast]; rfl
  | succ e =>
      have tens : (0 : ℚ) < 10 ^ (e + 1) := by positivity
      have below : (n : ℚ) / 10 ^ (e + 1) < 10 ^ k := by
        rw [div_lt_iff₀ tens, ← pow_add, ← he]
        exact_mod_cast short
      have off := abs_le.mp (abs_roundEven_sub_le ((n : ℚ) / 10 ^ (e + 1)))
      have most : roundEven ((n : ℚ) / 10 ^ (e + 1)) < 10 ^ k + 1 := by
        have real : (roundEven ((n : ℚ) / 10 ^ (e + 1)) : ℚ) < 10 ^ k + 1 := by linarith [off.2]
        exact_mod_cast real
      have within : (roundEven ((n : ℚ) / 10 ^ (e + 1))).toNat ≤ 10 ^ k := by
        rw [Int.toNat_le]
        push_cast
        omega
      have bounded : (roundEven ((n : ℚ) / 10 ^ (e + 1))).toNat * 10 ^ (e + 1) ≤ 10 ^ 16 :=
        calc _ ≤ 10 ^ k * 10 ^ (e + 1) := Nat.mul_le_mul_right _ within
          _ = 10 ^ (L + 1) := by rw [← pow_add, ← he]
          _ ≤ 10 ^ 16 := Nat.pow_le_pow_right (by norm_num) few
      rw [nearest_tens bounded] at back
      exact_mod_cast back

/-- The digits of a safe integer, and the zeros behind them. -/
theorem shortest_natCast (pos : 0 < n) (small : n < 2 ^ 53) :
    ∃ m e : Nat, shortest n = (m, (e : Int)) ∧ m * 10 ^ e = n := by
  have log : Int.log 10 (n : ℚ) = (Nat.log 10 n : Int) := Int.log_natCast 10 n
  have short : n < 10 ^ (Nat.log 10 n + 1) := Nat.lt_pow_succ_log_self (by norm_num) n
  have few : Nat.log 10 n < 16 := Nat.log_lt_of_lt_pow pos.ne' (by omega)
  obtain ⟨L, hL⟩ : ∃ L, L = Nat.log 10 n := ⟨_, rfl⟩
  rw [← hL] at log short few
  let least := fun k : Nat =>
    let e := (L : Int) + 1 - k
    ((roundEven (n / 10 ^ e)).toNat, e)
  let named := fun d : Nat × Int => decide (nearest (d.1 * 10 ^ d.2) = n)
  have written : shortest n =
      (((List.range' 1 17).map least).find? named).getD (least 17) := by
    rw [shortest, log]
  have place : ∀ k ≤ L + 1, least k =
      ((roundEven (n / 10 ^ (L + 1 - k))).toNat, ((L + 1 - k : Nat) : Int)) := by
    intro k le
    have exponent : (L : Int) + 1 - k = ((L + 1 - k : Nat) : Int) := by omega
    simp only [least, exponent, zpow_natCast]
  -- All its digits read back, so that no fewer places than those of the units are tried.
  have units : named (least (L + 1)) = true := by
    rw [place _ le_rfl, Nat.sub_self, pow_zero, div_one, ← Int.cast_natCast n, roundEven_intCast]
    simpa [named] using nearest_natCast small.le
  have split : (List.range' 1 17).map least =
      (List.range' 1 (L + 1)).map least ++ (List.range' (1 + (L + 1)) (16 - L)).map least := by
    rw [← List.map_append, List.range'_append_1]
    congr 2
    omega
  have listed : L + 1 ∈ List.range' 1 (L + 1) := List.mem_range'_1.mpr ⟨by omega, by omega⟩
  have there : (((List.range' 1 (L + 1)).map least).find? named).isSome :=
    List.find?_isSome.mpr ⟨least (L + 1), List.mem_map_of_mem listed, units⟩
  obtain ⟨d, hd⟩ := Option.isSome_iff_exists.mp there
  obtain ⟨k, mem, rfl⟩ := List.mem_map.mp (List.mem_of_find?_eq_some hd)
  have le : k ≤ L + 1 := by
    have := List.mem_range'_1.mp mem
    omega
  have back : named (least k) = true := List.find?_some hd
  rw [place k le] at back
  have back := of_decide_eq_true back
  rw [zpow_natCast] at back
  rw [written, split, List.find?_append, hd, Option.some_or, Option.getD_some, place k le]
  exact ⟨_, _, rfl, eq_of_nearest_eq short few le back⟩

/-- Zeros behind the digits of a number. -/
theorem toDigits_tens {m : Nat} (pos : 0 < m) (e : Nat) :
    Nat.toDigits 10 (m * 10 ^ e) = Nat.toDigits 10 m ++ List.replicate e '0' := by
  induction e with
  | zero => simp
  | succ e ih =>
      have next : m * 10 ^ (e + 1) = 10 * (m * 10 ^ e) + 0 := by
        rw [pow_succ]
        ring
      have more : 0 < m * 10 ^ e := Nat.mul_pos pos (by positivity)
      rw [next, ← Nat.toDigits_append_toDigits (by norm_num) more (by norm_num), ih,
        List.append_assoc, List.replicate_succ']
      rfl

/-- A safe integer is shown with its digits. -/
theorem wholeText_natCast (small : n < 2 ^ 53) : wholeText (.finite n) = Nat.toDigits 10 n := by
  rcases Nat.eq_zero_or_pos n with zero | pos
  · rw [zero, Nat.cast_zero]
    rfl
  obtain ⟨m, e, digits, whole⟩ := shortest_natCast pos small
  have nonzero : (n : ℚ) ≠ 0 := by positivity
  have below : (n : ℚ) < 10 ^ 21 := by exact_mod_cast small.trans (by norm_num)
  have nonzero' : 0 < m := by
    refine Nat.pos_of_ne_zero ?_
    rintro rfl
    omega
  have finite : wholeText (.finite n) = if (n : ℚ) < 10 ^ 21 then
      Nat.toDigits 10 (shortest n).1 ++ List.replicate (shortest n).2.toNat '0'
      else exponentText n := if_neg nonzero
  rw [finite, if_pos below, digits, Int.toNat_natCast, ← toDigits_tens nonzero', whole]

end Whole

end Number

end Binary64
