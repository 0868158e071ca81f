import DataProduct.Template
import DataProduct.Proofs.Ascii

/-!
# Substitution is one pass from the left

A template is read from the left for placeholders `${name}`, a name being a non-empty run of ASCII
letters and digits, `_`, `.` and `-`. At each position either a placeholder begins there, and
reading resumes after its closing brace, or none does, and reading resumes one character later;
so `$${a}` and `${${a}}` both hold the placeholder `${a}`. A text is thus its gaps and its
placeholders in turn, `s₀ m₁ s₁ … mₖ sₖ`, where no placeholder begins inside a gap (`Cut`), and
there is one such cut of each text.

Substitution writes each gap as it is, and in place of each placeholder its bound value, or the
placeholder itself when its name is unbound. The values are written as they are and never read
again, so a value that holds a placeholder leaves it in the result.

* `Template.Cut`: the cut of a text into gaps and placeholders, stated on its own;
* `Template.segments_of_cut`: the reader finds exactly the placeholders of a cut;
* `Template.exists_cut`: every text has a cut;
* `Template.substitute_one_pass`: what substitution leaves of a text, read through its cut.
-/

namespace DataProduct.Template

/-! ## Placeholders and cuts -/

/-- A character of a placeholder's name: an ASCII letter or digit, `_`, `.` or `-`. -/
def NameChar (c : Char) : Prop := AsciiLetter c ∨ AsciiDigit c ∨ c = '_' ∨ c = '.' ∨ c = '-'

instance : DecidablePred NameChar := fun c =>
  inferInstanceAs (Decidable (AsciiLetter c ∨ AsciiDigit c ∨ c = '_' ∨ c = '.' ∨ c = '-'))

/-- A placeholder's name: a non-empty run of name characters. -/
def IsName (n : List Char) : Prop := n ≠ [] ∧ ∀ c ∈ n, NameChar c

/-- A placeholder begins at the front of the text: `${`, a name, then `}`. -/
def PlaceholderAhead (l : List Char) : Prop :=
  ∃ n rest, IsName n ∧ l = Segment.text (.placeholder n) ++ rest

/-- A cut of a text into gaps and placeholders: `t` is, for each item of `ps` in turn, its gap and
then the placeholder it names, and last `last`; and no placeholder begins at a position of a gap,
whatever follows that position. -/
def Cut : List Char → List (List Char × List Char) → List Char → Prop
  | t, [], last => t = last ∧ ∀ j < last.length, ¬ PlaceholderAhead (t.drop j)
  | t, x :: ps, last => ∃ rest, t = x.1 ++ Segment.text (.placeholder x.2) ++ rest ∧ IsName x.2 ∧
      (∀ j < x.1.length, ¬ PlaceholderAhead (t.drop j)) ∧ Cut rest ps last

/-- What one pass writes for the placeholder named `n`: its bound value, or the placeholder itself
when `n` is unbound. -/
def replacement (bindings : Json.Members String) (n : List Char) : List Char :=
  ((bindings.lookup (String.ofList n)).map String.toList).getD (Segment.text (.placeholder n))

theorem isNameChar_iff (c : Char) : isNameChar c = true ↔ NameChar c := by
  simp only [isNameChar, NameChar, Bool.or_eq_true, Bool.and_eq_true, decide_eq_true_eq,
    Char.isAlphanum_and_ascii_iff, beq_iff_eq, or_assoc]

theorem not_nameChar_brace : ¬ NameChar '\x7d' := by decide

@[simp] theorem text_placeholder (n : List Char) :
    Segment.text (.placeholder n) = '$' :: '\x7b' :: (n ++ ['\x7d']) := by
  simp [Segment.text]

/-! ## The name and its closing brace -/

/-- A run of name characters closed by `}` is read as the name and what follows the brace. -/
theorem nameThenBrace_append {n : List Char} (hn : ∀ c ∈ n, NameChar c) (a : List Char) :
    nameThenBrace (n ++ '\x7d' :: a) = some (n, a) := by
  induction n with
  | nil => simp [nameThenBrace]
  | cons c cs ih =>
    have hc : NameChar c := hn c (.head _)
    have hne : c ≠ '\x7d' := fun h => not_nameChar_brace (h ▸ hc)
    simp [nameThenBrace, hne, (isNameChar_iff c).mpr hc, ih fun x hx => hn x (.tail _ hx)]

/-- What `nameThenBrace` reads is a run of name characters closed by `}`. -/
theorem eq_of_nameThenBrace {l n a : List Char} (h : nameThenBrace l = some (n, a)) :
    (∀ c ∈ n, NameChar c) ∧ l = n ++ '\x7d' :: a := by
  induction l generalizing n a with
  | nil => simp [nameThenBrace] at h
  | cons c cs ih =>
    unfold nameThenBrace at h
    by_cases hc : c = '\x7d'
    · simp only [hc, ↓reduceIte, Option.some.injEq, Prod.mk.injEq] at h
      obtain ⟨rfl, rfl⟩ := h
      simp [hc]
    · simp only [hc, ↓reduceIte] at h
      split at h
      · rename_i hname
        obtain ⟨⟨n', a'⟩, h', heq⟩ := Option.map_eq_some_iff.mp h
        simp only [Prod.mk.injEq] at heq
        obtain ⟨rfl, rfl⟩ := heq
        obtain ⟨hn', rfl⟩ := ih h'
        refine ⟨fun x hx => ?_, rfl⟩
        rcases List.mem_cons.mp hx with rfl | hx
        · exact (isNameChar_iff x).mp hname
        · exact hn' x hx
      · cases h

/-! ## One step of the reader -/

/-- The reader takes a placeholder at the front whole and resumes after it. -/
theorem segments_placeholder {n : List Char} (hn : IsName n) (rest : List Char) :
    segments (Segment.text (.placeholder n) ++ rest) = .placeholder n :: segments rest := by
  have hread := nameThenBrace_append hn.2 rest
  simp only [text_placeholder, List.cons_append, List.append_assoc, List.nil_append]
  rw [segments.eq_2]
  split
  · rename_i name after h
    rw [hread, Option.some.injEq, Prod.mk.injEq] at h
    obtain ⟨rfl, rfl⟩ := h
    simp [hn.1]
  · rename_i h
    rw [hread] at h
    cases h

/-- Where no placeholder begins, the reader takes one character and resumes after it. -/
theorem segments_cons {c : Char} {r : List Char} (h : ¬ PlaceholderAhead (c :: r)) :
    segments (c :: r) = .char c :: segments r := by
  by_cases hd : ∃ rest, c = '$' ∧ r = '\x7b' :: rest
  · obtain ⟨rest, rfl, rfl⟩ := hd
    rw [segments.eq_2]
    split
    · rename_i name after hread
      split
      · rfl
      · -- a non-empty name closed by a brace would begin a placeholder here
        rename_i hname
        obtain ⟨hn, rfl⟩ := eq_of_nameThenBrace hread
        exact absurd ⟨name, after, ⟨by simpa using hname, hn⟩, by simp⟩ h
    · rfl
  · exact segments.eq_3 c r fun rest hc hr => hd ⟨rest, hc, hr⟩

/-- A gap is read character by character. -/
theorem segments_gap {g : List Char} (r : List Char)
    (h : ∀ j < g.length, ¬ PlaceholderAhead ((g ++ r).drop j)) :
    segments (g ++ r) = g.map .char ++ segments r := by
  induction g with
  | nil => rfl
  | cons c g ih =>
    have h0 := h 0 (by simp)
    rw [List.drop_zero, List.cons_append] at h0
    rw [List.cons_append, segments_cons h0, ih fun j hj => h (j + 1) (by simpa using hj)]
    rfl

/-! ## Cuts and the reader -/

/-- The reader finds exactly the placeholders of a cut, with the gaps between them character by
character. -/
theorem segments_of_cut {t : List Char} {ps : List (List Char × List Char)} {last : List Char}
    (h : Cut t ps last) :
    segments t = ps.flatMap (fun x => x.1.map .char ++ [.placeholder x.2]) ++ last.map .char := by
  induction ps generalizing t with
  | nil =>
    obtain ⟨rfl, hgap⟩ := h
    simpa [segments.eq_1] using segments_gap [] (by simpa using hgap)
  | cons x ps ih =>
    obtain ⟨rest, rfl, hname, hgap, hcut⟩ := h
    rw [List.append_assoc, segments_gap _ (by simpa [List.append_assoc] using hgap),
      segments_placeholder hname, ih hcut]
    simp

/-- A cut spells its text out: each gap, then the placeholder, and last the final gap. -/
theorem eq_of_cut {t : List Char} {ps : List (List Char × List Char)} {last : List Char}
    (h : Cut t ps last) : t = ps.flatMap (fun x => x.1 ++ Segment.text (.placeholder x.2)) ++ last := by
  induction ps generalizing t with
  | nil => exact h.1
  | cons x ps ih =>
    obtain ⟨rest, rfl, -, -, hcut⟩ := h
    rw [ih hcut]
    simp

/-- A character where no placeholder begins joins the first gap of the cut after it. -/
theorem cut_cons {c : Char} {r : List Char} (h : ¬ PlaceholderAhead (c :: r))
    {ps : List (List Char × List Char)} {last : List Char} (hcut : Cut r ps last) :
    ∃ ps' last', Cut (c :: r) ps' last' := by
  -- the positions of the longer gap are its first one and those of the old gap
  have shift : ∀ n, (∀ j < n, ¬ PlaceholderAhead (r.drop j)) →
      ∀ j < n + 1, ¬ PlaceholderAhead ((c :: r).drop j) := by
    intro n hr j hj
    cases j with
    | zero => exact h
    | succ j => exact hr j (by omega)
  cases ps with
  | nil =>
    obtain ⟨rfl, hgap⟩ := hcut
    exact ⟨[], c :: r, rfl, shift _ hgap⟩
  | cons x ps =>
    obtain ⟨rest, hr, hname, hgap, hcut⟩ := hcut
    refine ⟨(c :: x.1, x.2) :: ps, last, rest, by simp [hr], hname, ?_, hcut⟩
    exact shift _ (by simpa using hgap)

/-- Every text has a cut. -/
theorem exists_cut : (t : List Char) → ∃ ps last, Cut t ps last
  | [] => ⟨[], [], rfl, by simp⟩
  | c :: r => by
    by_cases hp : PlaceholderAhead (c :: r)
    · obtain ⟨name, rest, hname, heq⟩ := hp
      -- the placeholder is not empty, so the rest is shorter than the text
      have : rest.length < r.length + 1 := by
        have hlen := congrArg List.length heq
        simp only [List.length_cons, List.length_append, text_placeholder] at hlen
        omega
      obtain ⟨ps, last, hcut⟩ := exists_cut rest
      exact ⟨([], name) :: ps, last, rest, by simpa using heq, hname, by simp, hcut⟩
    · obtain ⟨ps, last, hcut⟩ := exists_cut r
      exact cut_cons hp hcut
termination_by t => t.length

/-! ## Substitution -/

/-- Substitution writes the gaps of a cut as they are, and its placeholders replaced. -/
theorem substitute_of_cut {t : String} (b : Json.Members String) {ps : List (List Char × List Char)}
    {last : List Char} (h : Cut t.toList ps last) :
    (substitute t b).content.toList = ps.flatMap (fun x => x.1 ++ replacement b x.2) ++ last := by
  simp only [substitute, String.toList_ofList]
  rw [segments_of_cut h]
  simp only [List.flatMap_append, List.flatMap_assoc, List.flatMap_map, List.flatMap_singleton',
    List.flatMap_singleton]
  congr 2
  funext x
  congr 1
  unfold replacement
  cases b.lookup (String.ofList x.2) <;> rfl

/-- Substitution is one pass from the left, writing values as they are. Every text `t` has a cut
`s₀ m₁ s₁ … mₖ sₖ` into gaps and placeholders in which no placeholder begins inside a gap; for
every such cut, substitution leaves `s₀ r₁ s₁ … rₖ sₖ`, where `rᵢ` is the value bound to the name
of `mᵢ`, or `mᵢ` itself when that name is unbound; and when no name of the cut is bound, the text
is left as it was. -/
theorem substitute_one_pass (t : String) (b : Json.Members String) :
    (∃ ps last, Cut t.toList ps last) ∧
      ∀ ps last, Cut t.toList ps last →
        (substitute t b).content.toList = ps.flatMap (fun x => x.1 ++ replacement b x.2) ++ last ∧
          ((∀ x ∈ ps, b.lookup (String.ofList x.2) = none) → (substitute t b).content = t) := by
  refine ⟨exists_cut t.toList, fun ps last h => ⟨substitute_of_cut b h, fun hunbound => ?_⟩⟩
  apply String.ext
  rw [substitute_of_cut b h, eq_of_cut h]
  simp only [List.flatMap_def]
  congr 2
  refine List.map_congr_left fun x hx => ?_
  simp [replacement, hunbound x hx]

end DataProduct.Template
