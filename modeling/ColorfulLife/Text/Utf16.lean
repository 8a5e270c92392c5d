/-
UTF-16 code units, which ECMAScript compares texts by.

The encoding is injective (`units_injective`): the units of a character outside the
basic plane are surrogates, which no other character has for its unit. So the
lexicographic order of the units is a linear order of texts.
-/

import Mathlib.Data.List.Lex
import Mathlib.Data.String.Basic

namespace Utf16

/-- The code units of a character. -/
def charUnits (c : Char) : List Nat :=
  if c.toNat < 0x10000 then [c.toNat]
  else [0xD800 + (c.toNat - 0x10000) / 0x400, 0xDC00 + (c.toNat - 0x10000) % 0x400]

/-- The code units of a text. -/
def units (s : String) : List Nat := s.toList.flatMap charUnits

/-- No character is a surrogate. -/
theorem not_surrogate (c : Char) : c.toNat < 0xD800 ∨ 0xE000 ≤ c.toNat := by
  rcases c.valid with below | ⟨above, -⟩
  · exact .inl below
  · exact .inr above

theorem toNat_lt (c : Char) : c.toNat < 0x110000 := by
  rcases c.valid with below | ⟨-, above⟩
  · exact below.trans (by decide)
  · exact above

theorem charUnits_ne_nil (c : Char) : charUnits c ≠ [] := by
  unfold charUnits
  split <;> exact List.cons_ne_nil _ _

/-- The first character can be read off the units. -/
theorem charUnits_append_inj {c d : Char} {us vs : List Nat}
    (same : charUnits c ++ us = charUnits d ++ vs) : c = d ∧ us = vs := by
  have hc := not_surrogate c
  have hd := not_surrogate d
  have mc := toNat_lt c
  have md := toNat_lt d
  by_cases basic : c.toNat < 0x10000 <;> by_cases basic' : d.toNat < 0x10000
  · rw [charUnits, if_pos basic, charUnits, if_pos basic'] at same
    obtain ⟨unit, rest⟩ := List.cons.inj same
    exact ⟨Char.toNat_inj.mp unit, rest⟩
  · rw [charUnits, if_pos basic, charUnits, if_neg basic'] at same
    obtain ⟨unit, -⟩ := List.cons.inj same
    omega
  · rw [charUnits, if_neg basic, charUnits, if_pos basic'] at same
    obtain ⟨unit, -⟩ := List.cons.inj same
    omega
  · rw [charUnits, if_neg basic, charUnits, if_neg basic'] at same
    obtain ⟨high, same⟩ := List.cons.inj same
    obtain ⟨low, rest⟩ := List.cons.inj same
    exact ⟨Char.toNat_inj.mp (by omega), rest⟩

theorem units_injective : Function.Injective units := by
  have lists : ∀ l l' : List Char, l.flatMap charUnits = l'.flatMap charUnits → l = l' := by
    intro l
    induction l with
    | nil =>
        intro l' same
        cases l' with
        | nil => rfl
        | cons d l' =>
            exact absurd (List.append_eq_nil_iff.mp same.symm).1 (charUnits_ne_nil d)
    | cons c l ih =>
        intro l' same
        cases l' with
        | nil => exact absurd (List.append_eq_nil_iff.mp same).1 (charUnits_ne_nil c)
        | cons d l' =>
            obtain ⟨rfl, rest⟩ := charUnits_append_inj same
            rw [ih l' rest]
  exact fun s t same => String.toList_injective (lists _ _ same)

end Utf16
