import Mathlib.Data.List.Basic
import ServiceRoute.Stop

/-!
# What decimal text is made of

The text of a double consists of digits, a point, a sign, and the letters of the texts for what is
not finite. No comma is among them, so the text of a place can be taken apart again at its comma.
No semicolon is, so neither does a place have one in its text.
-/

namespace ServiceRoute

namespace Number

/-- The characters of decimal text besides the digits. -/
def marks : List Char :=
  ['.', '-', 'N', 'a', 'i', 'n', 'f']

theorem isDigit_of_mem_padded {width n : Nat} {c : Char} (h : c ∈ padded width n) :
    c.isDigit = true := by
  rcases List.mem_append.mp h with front | digit
  · rw [List.eq_of_mem_replicate front]
    decide
  · exact Nat.isDigit_of_mem_toDigits (by decide) (by decide) digit

theorem mem_fixed_dyadic {places : Nat} {x : Dyadic} {c : Char} (h : c ∈ x.fixed places) :
    c.isDigit = true ∨ c ∈ marks := by
  rcases List.mem_append.mp h with whole | rest
  · exact Or.inl (Nat.isDigit_of_mem_toDigits (by decide) (by decide) whole)
  · rcases List.mem_cons.mp rest with rfl | fraction
    · exact Or.inr (by decide)
    · exact Or.inl (isDigit_of_mem_padded fraction)

theorem mem_signed {negative : Bool} {digits : List Char} {c : Char}
    (h : c ∈ (signed negative digits).toList) : c = '-' ∨ c ∈ digits := by
  rw [signed, String.toList_ofList] at h
  split at h
  · exact List.mem_cons.mp h
  · exact Or.inr h

theorem mem_fixed {places : Nat} {x : Float} {c : Char} (h : c ∈ (fixed places x).toList) :
    c.isDigit = true ∨ c ∈ marks := by
  have sign : '-' ∈ marks := by decide
  unfold fixed at h
  split at h
  · have letters : "NaN".toList ⊆ marks := by decide
    exact Or.inr (letters h)
  · rcases mem_signed h with rfl | letter
    · exact Or.inr sign
    · have letters : ['i', 'n', 'f'] ⊆ marks := by decide
      exact Or.inr (letters letter)
  · rcases mem_signed h with rfl | character
    · exact Or.inr sign
    · exact mem_fixed_dyadic character

theorem notMem_fixed {c : Char} (digit : c.isDigit = false) (mark : c ∉ marks) (places : Nat)
    (x : Float) : c ∉ (fixed places x).toList := by
  intro h
  rcases mem_fixed h with isDigit | isMark
  · exact absurd isDigit (Bool.not_eq_true _ ▸ digit)
  · exact mark isMark

theorem comma_notMem_fixed (places : Nat) (x : Float) : ',' ∉ (fixed places x).toList :=
  notMem_fixed (by decide) (by decide) places x

end Number

namespace Coordinate

theorem toList_text (c : Coordinate) : c.text.toList =
    (Number.fixed 6 c.lon).toList ++ ',' :: (Number.fixed 6 c.lat).toList := by
  simp [text]

theorem text_eq_iff {c d : Coordinate} :
    c.text = d.text ↔ Number.fixed 6 c.lon = Number.fixed 6 d.lon ∧
      Number.fixed 6 c.lat = Number.fixed 6 d.lat := by
  rw [← String.toList_inj, toList_text, toList_text, List.append_cons_inj_of_notMem
    (Number.comma_notMem_fixed 6 c.lon) (Number.comma_notMem_fixed 6 c.lat)]
  simp [String.toList_inj]

theorem toList_text_ne_nil (c : Coordinate) : c.text.toList ≠ [] := by
  simp [toList_text]

theorem semicolon_notMem_text (c : Coordinate) : ';' ∉ c.text.toList := by
  have absent : ∀ x, ';' ∉ (Number.fixed 6 x).toList :=
    Number.notMem_fixed (by decide) (by decide) 6
  rw [toList_text, List.mem_append, List.mem_cons]
  rintro (lon | comma | lat)
  · exact absent c.lon lon
  · exact absurd comma (by decide)
  · exact absent c.lat lat

end Coordinate

end ServiceRoute
