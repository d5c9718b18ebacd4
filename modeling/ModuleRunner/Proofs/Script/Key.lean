import ModuleRunner.Proofs.Decimal.Word
import ModuleRunner.Script.Property

/-!
# Keys of elements

An element of an array or a text has its number, printed, as its key.  Two keys that are not equal do not
print the same number.  There is one more spelling, though: a plus sign may stand before the digits.  Such
a key prints no number, and it is the only way for two different keys to lead to one element.

* `IsNumber`, `Signed` — keys that print a number, and keys with a plus sign.
* `arrayIndex?_eq_some_iff` — the keys of an element.
* `arrayIndex?_toString` — the digits of a number are the key of that element.
* `SameElement`, `eq_or_signed` — two keys of one element.
-/

namespace ModuleRunner.Script

/-- A word that is no numeral is not the digits of a number. -/
lemma toString_ne {word : String} (h : word.toList.all Decimal.isDigit = false) (n : Nat) :
    toString n ≠ word := by
  rintro rfl
  rw [Decimal.toList_toString, Decimal.all_isDigit_toDigits] at h
  cases h

/-- A key prints a number of at most 64 bits. -/
def IsNumber (key : String) (i : Nat) : Prop := i < 2 ^ 64 ∧ key = toString i

/-- A key is a plus sign before the digits of a number of at most 64 bits. -/
def Signed (key : String) (i : Nat) : Prop := ∃ digits, key.toList = '+' :: digits ∧ Decimal.Word digits i

lemma arrayIndex?_of_padded {key : String} (h : Decimal.Padded key.toList) : arrayIndex? key = none := by
  obtain ⟨c, rest, hpadded⟩ := h
  rw [arrayIndex?, hpadded]
  rfl

lemma arrayIndex?_of_not_padded {key : String} (h : ¬ Decimal.Padded key.toList) :
    arrayIndex? key = Decimal.word? (Decimal.unsigned key.toList) := by
  unfold arrayIndex?
  split
  · next hnil =>
    rw [hnil]
    rfl
  · next hpadded => exact absurd ⟨_, _, hpadded⟩ h
  · rw [Nat.pow_eq, Decimal.word?_eq_ite]
    dsimp only
    split
    · next rest hsign =>
      rw [hsign]
      rfl
    · next hbare => rw [Decimal.unsigned_of_ne hbare]

/-- The keys of an element: the number of the element, printed, or a plus sign and its digits. -/
theorem arrayIndex?_eq_some_iff {key : String} {i : Nat} :
    arrayIndex? key = some i ↔ IsNumber key i ∨ Signed key i := by
  have hprinted : key = toString i ↔ key.toList = Nat.toDigits 10 i := by
    rw [← Decimal.toList_toString, String.toList_inj]
  rw [IsNumber, hprinted, Signed, ← Decimal.spells_iff]
  by_cases hpad : Decimal.Padded key.toList
  · rw [arrayIndex?_of_padded hpad]
    simp [hpad]
  · rw [arrayIndex?_of_not_padded hpad, Decimal.word?_eq_some_iff, Decimal.spells_iff_word]
    simp [hpad]

/-- A key with a plus sign prints no number. -/
lemma Signed.ne_toString {key : String} {i : Nat} (h : Signed key i) (n : Nat) : key ≠ toString n := by
  obtain ⟨digits, hsigned, -⟩ := h
  rintro rfl
  rw [Decimal.toList_toString] at hsigned
  have hall := Decimal.all_isDigit_toDigits n
  rw [hsigned] at hall
  simp [Decimal.isDigit] at hall

lemma toString_injective {n i : Nat} (h : toString n = toString i) : n = i := by
  have hdigits := congrArg (fun s : String => Decimal.valueOf s.toList) h
  simpa only [Decimal.toList_toString, Decimal.valueOf_toDigits] using hdigits

/-- The digits of a number are the key of that element. -/
lemma arrayIndex?_toString (n : Nat) :
    arrayIndex? (toString n) = if n < Nat.pow 2 64 then some n else none := by
  rw [Nat.pow_eq]
  split
  · next hfits => exact arrayIndex?_eq_some_iff.mpr (.inl ⟨hfits, rfl⟩)
  · next hlarge =>
    rw [Option.eq_none_iff_forall_ne_some]
    intro i hi
    rcases arrayIndex?_eq_some_iff.mp hi with ⟨hfits, hprinted⟩ | hsigned
    · obtain rfl := toString_injective hprinted
      exact hlarge hfits
    · exact hsigned.ne_toString n rfl

/-- Two keys lead to one element. -/
def SameElement (key other : String) : Prop :=
  ∃ i, arrayIndex? key = some i ∧ arrayIndex? other = some i

/-- Two keys of one element are the same, or one has a plus sign. -/
lemma eq_or_signed {key other : String} {i : Nat} (h : arrayIndex? key = some i)
    (hother : arrayIndex? other = some i) : key = other ∨ Signed key i ∨ Signed other i := by
  rcases arrayIndex?_eq_some_iff.mp h with ⟨-, rfl⟩ | hsigned
  · rcases arrayIndex?_eq_some_iff.mp hother with ⟨-, rfl⟩ | hsigned
    · exact .inl rfl
    · exact .inr (.inr hsigned)
  · exact .inr (.inl hsigned)

end ModuleRunner.Script
