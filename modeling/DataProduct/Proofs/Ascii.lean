/-!
# ASCII character classes

The character classes of the patterns the program matches with: ASCII digits and ASCII letters,
stated as ranges of characters. Core's `Char.isDigit` and `Char.isAlphanum` are these classes and
no wider: a digit or a letter of another script is in neither.

* `Char.isDigit_iff_ascii`, `Char.isAlphanum_iff_ascii`: core's tests decide the two classes;
* `Char.toNat_lt_of_isAlphanum`: so a letter or digit is below 128, and the code's explicit bound
  changes nothing (`Char.isAlphanum_and_ascii_iff`).
-/

namespace DataProduct

/-- An ASCII digit, `0` to `9`. -/
def AsciiDigit (c : Char) : Prop := '0' ≤ c ∧ c ≤ '9'

/-- An ASCII letter, `A` to `Z` or `a` to `z`. -/
def AsciiLetter (c : Char) : Prop := ('A' ≤ c ∧ c ≤ 'Z') ∨ ('a' ≤ c ∧ c ≤ 'z')

instance : DecidablePred AsciiDigit := fun c => inferInstanceAs (Decidable ('0' ≤ c ∧ c ≤ '9'))

instance : DecidablePred AsciiLetter := fun c =>
  inferInstanceAs (Decidable (('A' ≤ c ∧ c ≤ 'Z') ∨ ('a' ≤ c ∧ c ≤ 'z')))

theorem Char.isDigit_iff_ascii (c : Char) : c.isDigit = true ↔ AsciiDigit c := by
  delta Char.isDigit AsciiDigit
  simp [Char.le_def]

theorem Char.isDigit_eq_false_iff_ascii (c : Char) : c.isDigit = false ↔ ¬ AsciiDigit c := by
  rw [← Char.isDigit_iff_ascii, Bool.not_eq_true]

theorem Char.isAlphanum_iff_ascii (c : Char) : c.isAlphanum = true ↔ AsciiLetter c ∨ AsciiDigit c := by
  delta Char.isAlphanum Char.isAlpha Char.isUpper Char.isLower Char.isDigit AsciiLetter AsciiDigit
  simp [Char.le_def]

/-- Letters and digits are ASCII: below 128. -/
theorem Char.toNat_lt_of_isAlphanum {c : Char} (h : c.isAlphanum = true) : c.toNat < 128 := by
  delta Char.isAlphanum Char.isAlpha Char.isUpper Char.isLower Char.isDigit at h
  simp [UInt32.le_iff_toNat_le] at h
  omega

/-- A test for letters and digits below 128 is the test for letters and digits. -/
theorem Char.isAlphanum_and_ascii_iff (c : Char) :
    c.isAlphanum = true ∧ c.toNat < 128 ↔ AsciiLetter c ∨ AsciiDigit c := by
  rw [and_iff_left_of_imp Char.toNat_lt_of_isAlphanum, Char.isAlphanum_iff_ascii]

/-- An Arabic-Indic digit is no digit here. -/
example : ¬ AsciiDigit '١' := by decide

end DataProduct
