import DataProduct.SemVer
import DataProduct.Proofs.Ascii

/-!
# The grammar of semantic versions

`SemVer.accepts` reads a version by cutting it: at its first `+`, then what stands before that at
its first `-`, then each piece at its dots. The grammar of Semantic Versioning 2.0.0 says instead
how a version is built. Its core is three numeric identifiers joined by dots; an optional
pre-release part follows after `-`, and an optional build part after `+`; each part is a non-empty
list of identifiers joined by dots, and nothing stands after the last part. A numeric identifier
is `0` or has no leading zero, numbers have no size limit, and every character class is ASCII.

The cuts give the grammar's pieces back because no piece holds the character it is cut at: a core
holds digits and dots only, and an identifier holds neither `+` nor `.`.

* `SemVer.Version`: the grammar, stated on its own;
* `SemVer.splitFirst_eq_iff`: what the cut at the first `c` gives;
* `SemVer.dotted_iff`, `SemVer.isCore_iff`: the pieces each check accepts;
* `SemVer.accepts_iff_version`: the check accepts exactly the versions of the grammar.
-/

namespace DataProduct.SemVer

/-! ## The grammar -/

/-- A character of a pre-release or build identifier: an ASCII letter or digit, or `-`. -/
def IdentChar (c : Char) : Prop := AsciiLetter c ∨ AsciiDigit c ∨ c = '-'

instance : DecidablePred IdentChar := fun c =>
  inferInstanceAs (Decidable (AsciiLetter c ∨ AsciiDigit c ∨ c = '-'))

/-- A numeric identifier: `0`, or a nonzero digit followed by any number of digits. -/
def Numeric (s : List Char) : Prop :=
  s = ['0'] ∨ ∃ d ds, s = d :: ds ∧ AsciiDigit d ∧ d ≠ '0' ∧ ∀ c ∈ ds, AsciiDigit c

/-- A non-empty run of identifier characters. -/
def Word (s : List Char) : Prop := s ≠ [] ∧ ∀ c ∈ s, IdentChar c

/-- A pre-release identifier: numeric, or a word with a character that is not a digit. -/
def PreReleaseId (s : List Char) : Prop := Numeric s ∨ (Word s ∧ ∃ c ∈ s, ¬ AsciiDigit c)

/-- A non-empty list of identifiers, each of them `P`, joined by dots. -/
def DotList (P : List Char → Prop) (s : List Char) : Prop :=
  ∃ ids : List (List Char), ids ≠ [] ∧ (∀ i ∈ ids, P i) ∧ s = ['.'].intercalate ids

/-- A semantic version: `major.minor.patch`, then `-` and a pre-release part if there is one,
then `+` and a build part if there is one, and nothing after them. -/
def Version (v : List Char) : Prop :=
  ∃ (major minor patch : List Char) (pre build : Option (List Char)),
    Numeric major ∧ Numeric minor ∧ Numeric patch ∧
    (∀ p ∈ pre, DotList PreReleaseId p) ∧ (∀ b ∈ build, DotList Word b) ∧
    v = major ++ '.' :: minor ++ '.' :: patch ++ pre.elim [] ('-' :: ·) ++ build.elim [] ('+' :: ·)

/-! ## Characters of the pieces -/

theorem digits_of_numeric {s : List Char} (h : Numeric s) : ∀ c ∈ s, AsciiDigit c := by
  rcases h with rfl | ⟨d, ds, rfl, hd, -, hds⟩
  · simp only [List.mem_singleton, forall_eq]
    decide
  · rintro c (_ | ⟨_, hc⟩)
    · exact hd
    · exact hds c hc

theorem identChars_of_preReleaseId {s : List Char} (h : PreReleaseId s) : ∀ c ∈ s, IdentChar c := by
  rcases h with h | ⟨⟨-, h⟩, -⟩
  · exact fun c hc => .inr (.inl (digits_of_numeric h c hc))
  · exact h

/-- A character of members joined by dots is a dot or a character of a member. -/
theorem mem_intercalate_dot {ids : List (List Char)} {c : Char} (h : c ∈ ['.'].intercalate ids) :
    c = '.' ∨ ∃ i ∈ ids, c ∈ i := by
  induction ids with
  | nil => simp [List.intercalate_nil] at h
  | cons i ids ih =>
    cases ids with
    | nil => exact .inr ⟨i, .head _, by simpa using h⟩
    | cons j js =>
      rw [List.intercalate_cons_cons] at h
      simp only [List.mem_append, List.mem_singleton] at h
      rcases h with (h | h) | h
      · exact .inr ⟨i, .head _, h⟩
      · exact .inl h
      · rcases ih h with h | ⟨k, hk, hc⟩
        · exact .inl h
        · exact .inr ⟨k, .tail _ hk, hc⟩

/-- A dot-separated list holds dots and the characters of its members. -/
theorem mem_of_dotList {P : List Char → Prop} {good : Char → Prop} (hP : ∀ s, P s → ∀ c ∈ s, good c)
    {s : List Char} (h : DotList P s) : ∀ c ∈ s, c = '.' ∨ good c := by
  obtain ⟨ids, -, hids, rfl⟩ := h
  intro c hc
  rcases mem_intercalate_dot hc with hc | ⟨i, hi, hc⟩
  · exact .inl hc
  · exact .inr (hP i (hids i hi) c hc)

theorem dot_not_mem_of_numeric {s : List Char} (h : Numeric s) : '.' ∉ s :=
  fun hc => absurd (digits_of_numeric h _ hc) (by decide)

theorem dot_not_mem_of_identChars {s : List Char} (h : ∀ c ∈ s, IdentChar c) : '.' ∉ s :=
  fun hc => absurd (h _ hc) (by decide)

/-! ## The checks of the pieces -/

theorem isIdentChar_iff (c : Char) : isIdentChar c = true ↔ IdentChar c := by
  simp [isIdentChar, IdentChar, Char.isAlphanum_iff_ascii, or_assoc]

theorem isNumeric_iff (s : List Char) : isNumeric s = true ↔ Numeric s := by
  unfold isNumeric Numeric
  split
  · simp
  · -- a text other than `0` that starts with `c`
    rename_i c cs hne
    have h0 : c :: cs ≠ ['0'] := fun h => hne (List.cons.inj h).1 (List.cons.inj h).2
    simp [h0, Char.isDigit_iff_ascii, and_assoc]
  · simp

theorem isPreRelease_iff (s : List Char) : isPreRelease s = true ↔ PreReleaseId s := by
  simp [isPreRelease, PreReleaseId, Word, isNumeric_iff, isIdentChar_iff, Char.isDigit_eq_false_iff_ascii,
    and_assoc]

theorem isBuild_iff (s : List Char) : isBuild s = true ↔ Word s := by
  simp [isBuild, Word, isIdentChar_iff]

/-- A check of every member of a dot-separated list accepts exactly the lists of members it
accepts one by one, when no member it accepts holds a dot. -/
theorem dotted_iff {ok : List Char → Bool} {P : List Char → Prop} (hok : ∀ s, ok s = true ↔ P s)
    (hdot : ∀ s, P s → '.' ∉ s) (s : List Char) : dotted ok s = true ↔ DotList P s := by
  unfold dotted DotList
  constructor
  · intro h
    exact ⟨s.splitOn '.', List.splitOn_ne_nil _ _,
      fun i hi => (hok i).mp (List.all_eq_true.mp h i hi), (List.intercalate_splitOn '.').symm⟩
  · rintro ⟨ids, hne, hP, rfl⟩
    rw [List.splitOn_intercalate '.' (fun i hi => hdot i (hP i hi)) hne]
    exact List.all_eq_true.mpr fun i hi => (hok i).mpr (hP i hi)

/-- The core is three numeric identifiers joined by dots. -/
theorem isCore_iff (s : List Char) :
    isCore s = true ↔
      ∃ major minor patch, Numeric major ∧ Numeric minor ∧ Numeric patch ∧
        s = major ++ '.' :: minor ++ '.' :: patch := by
  unfold isCore
  constructor
  · intro h
    split at h
    · rename_i major minor patch hs
      simp only [Bool.and_eq_true, isNumeric_iff] at h
      refine ⟨major, minor, patch, h.1.1, h.1.2, h.2, ?_⟩
      have hj : ['.'].intercalate (s.splitOn '.') = s := List.intercalate_splitOn '.'
      rw [hs] at hj
      simpa [List.intercalate] using hj.symm
    · cases h
  · rintro ⟨major, minor, patch, hma, hmi, hpa, rfl⟩
    have hs : (major ++ '.' :: minor ++ '.' :: patch).splitOn '.' = [major, minor, patch] := by
      have := List.splitOn_intercalate '.'
        (show ∀ l ∈ [major, minor, patch], '.' ∉ l by simp [dot_not_mem_of_numeric, hma, hmi, hpa])
        (by simp)
      simpa [List.intercalate] using this
    rw [hs]
    simp [isNumeric_iff, hma, hmi, hpa]

/-! ## The cut at the first occurrence -/

/-- Cutting at the first `c` gives a text without `c`, and what follows the first `c` when there
is one: the text is the first part, then `c` and the second part if there is one. -/
theorem splitFirst_eq_iff (c : Char) (l a : List Char) (r : Option (List Char)) :
    splitFirst c l = (a, r) ↔ c ∉ a ∧ l = a ++ r.elim [] (c :: ·) := by
  induction l generalizing a r with
  | nil => cases a <;> cases r <;> simp [splitFirst]
  | cons d ds ih =>
    by_cases hd : d = c
    · -- the first `c` is here: the first part is empty
      subst hd
      cases a <;> cases r <;> simp [splitFirst] <;> grind
    · -- the first `c` is further on: the first part starts with `d`
      have hsplit : splitFirst c (d :: ds) = (d :: (splitFirst c ds).1, (splitFirst c ds).2) := by
        simp [splitFirst, hd]
      rw [hsplit]
      rcases a with _ | ⟨a, as⟩
      · cases r <;> simp [hd]
      · have hrest := ih as r
        rw [Prod.ext_iff] at hrest
        simp only [Prod.mk.injEq, List.cons.injEq, List.cons_append, List.mem_cons, not_or, and_assoc,
          hrest]
        constructor
        · rintro ⟨rfl, hc, hds⟩
          exact ⟨Ne.symm hd, hc, rfl, hds⟩
        · rintro ⟨-, hc, rfl, hds⟩
          exact ⟨rfl, hc, hds⟩

theorem acceptsChars_of_cuts {v main core : List Char} {pre build : Option (List Char)}
    (hb : splitFirst '+' v = (main, build)) (hp : splitFirst '-' main = (core, pre)) :
    acceptsChars v = (isCore core && pre.all (dotted isPreRelease) && build.all (dotted isBuild)) := by
  simp only [acceptsChars, hb, hp]

/-! ## The grammar is what the check accepts -/

theorem all_dotted_iff {ok : List Char → Bool} {P : List Char → Prop} (hok : ∀ s, ok s = true ↔ P s)
    (hdot : ∀ s, P s → '.' ∉ s) (o : Option (List Char)) :
    o.all (dotted ok) = true ↔ ∀ p ∈ o, DotList P p := by
  cases o <;> simp [dotted_iff hok hdot]

section Core

variable {major minor patch : List Char} (hma : Numeric major) (hmi : Numeric minor)
  (hpa : Numeric patch)
include hma hmi hpa

/-- A core is made of digits and dots. -/
theorem mem_core : ∀ c ∈ major ++ '.' :: minor ++ '.' :: patch, c = '.' ∨ AsciiDigit c := by
  simp only [List.append_assoc, List.cons_append, List.mem_append, List.mem_cons]
  rintro c (hc | rfl | hc | rfl | hc)
  all_goals first
    | exact .inl rfl
    | exact .inr (digits_of_numeric ‹_› c hc)

theorem minus_not_mem_core : '-' ∉ major ++ '.' :: minor ++ '.' :: patch := fun hc => by
  rcases mem_core hma hmi hpa _ hc with h | h <;> revert h <;> decide

/-- The first `+` of a version is the one before its build part. -/
theorem plus_not_mem_main {pre : Option (List Char)} (hpr : ∀ p ∈ pre, DotList PreReleaseId p) :
    '+' ∉ major ++ '.' :: minor ++ '.' :: patch ++ pre.elim [] ('-' :: ·) := by
  intro hc
  rcases List.mem_append.mp hc with hc | hc
  · rcases mem_core hma hmi hpa _ hc with h | h <;> revert h <;> decide
  · cases pre with
    | none => cases hc
    | some p =>
      rcases List.mem_cons.mp hc with h | hc
      · revert h; decide
      · rcases mem_of_dotList (fun _ => identChars_of_preReleaseId) (hpr p rfl) _ hc with h | h <;>
          revert h <;> decide

end Core

/-- The check accepts exactly the versions of the grammar: `accepts v` holds if and only if `v` is
a core of three numeric identifiers, then optionally `-` and a pre-release part, then optionally
`+` and a build part, with nothing after. -/
theorem accepts_iff_version (v : String) : accepts v = true ↔ Version v.toList := by
  have hpre := all_dotted_iff isPreRelease_iff fun _ h => dot_not_mem_of_identChars (identChars_of_preReleaseId h)
  have hbuild := all_dotted_iff isBuild_iff fun _ h => dot_not_mem_of_identChars h.2
  unfold accepts
  constructor
  · rcases hb : splitFirst '+' v.toList with ⟨main, build⟩
    rcases hp : splitFirst '-' main with ⟨core, pre⟩
    rw [acceptsChars_of_cuts hb hp, Bool.and_eq_true, Bool.and_eq_true, isCore_iff, hpre, hbuild]
    rintro ⟨⟨⟨major, minor, patch, hma, hmi, hpa, rfl⟩, hpr⟩, hbu⟩
    obtain ⟨-, hv⟩ := (splitFirst_eq_iff _ _ _ _).mp hb
    obtain ⟨-, rfl⟩ := (splitFirst_eq_iff _ _ _ _).mp hp
    exact ⟨major, minor, patch, pre, build, hma, hmi, hpa, hpr, hbu, by simpa using hv⟩
  · rintro ⟨major, minor, patch, pre, build, hma, hmi, hpa, hpr, hbu, hv⟩
    have hb := (splitFirst_eq_iff '+' v.toList _ build).mpr ⟨plus_not_mem_main hma hmi hpa hpr, hv⟩
    have hp := (splitFirst_eq_iff '-' _ _ pre).mpr ⟨minus_not_mem_core hma hmi hpa, rfl⟩
    rw [acceptsChars_of_cuts hb hp, Bool.and_eq_true, Bool.and_eq_true, isCore_iff, hpre, hbuild]
    exact ⟨⟨⟨major, minor, patch, hma, hmi, hpa, rfl⟩, hpr⟩, hbu⟩

/-- `$` ends the text: a trailing newline makes a version invalid. -/
example : accepts "1.2.3\n" = false := by decide

end DataProduct.SemVer
