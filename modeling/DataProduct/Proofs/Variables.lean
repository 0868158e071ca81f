import DataProduct.Proofs.Placeholders

/-!
# The variables of a template

The variables of a text are the names of the placeholders its reader finds, each kept where it
first appears. Through the cut of the text (`Cut`), that is: the names of the cut's placeholders,
later repetitions removed. Since the reader misses no placeholder, a text has no variables exactly
when no placeholder is written anywhere in it, even one that overlaps a `${` the reader passed
over; so a substitution is complete exactly when its content has no placeholder left.

What a substitution leaves unresolved is read from its content, not from the template: a name
there is either a placeholder of the template whose name is unbound, or a placeholder written
across the place where a bound value went in, inside the value or joining it to the text around
it (`${` from the text, the value, then `}`), which the value alone need not hold.

* `HasPlaceholder`: a placeholder written somewhere in a text;
* `variables_first_appearances`: the variables are the names of the cut, each once, in order of
  first appearance, and there are none exactly when no placeholder is written;
* `kept_of_apart`: a placeholder of the content that meets no inserted value was in the template,
  unbound;
* `unresolved_sources`: where each unresolved name comes from.
-/

namespace DataProduct.Template

/-! ## First occurrences -/

section FirstOccurrences

variable {α : Type} [BEq α] [LawfulBEq α]

/-- Keeping the entries that pass a test keeps the order of their first appearances. -/
theorem idxOf_filter_lt_iff {p : α → Bool} {x y : α} (hx : p x = true) (hy : p y = true)
    (l : List α) : (l.filter p).idxOf x < (l.filter p).idxOf y ↔ l.idxOf x < l.idxOf y := by
  induction l with
  | nil => simp
  | cons a l ih =>
    by_cases hpa : p a = true
    · rw [List.filter_cons_of_pos hpa]
      simp only [List.idxOf_cons]
      by_cases hax : a = x <;> by_cases hay : a = y
      · subst hax hay
        simp
      · subst hax
        simp [beq_false_of_ne hay]
      · subst hay
        simp [beq_false_of_ne hax]
      · simp [beq_false_of_ne hax, beq_false_of_ne hay, ih]
    · -- `a` fails the test, so it is neither `x` nor `y`, and only shifts both indices
      have hax : a ≠ x := fun h => hpa (h ▸ hx)
      have hay : a ≠ y := fun h => hpa (h ▸ hy)
      rw [List.filter_cons_of_neg hpa]
      simp [List.idxOf_cons, beq_false_of_ne hax, beq_false_of_ne hay, ih]

/-- Erasing repetitions leaves each entry once. -/
theorem nodup_eraseDups (l : List α) : l.eraseDups.Nodup := by
  cases l with
  | nil => simp
  | cons a as =>
    rw [List.eraseDups_cons, List.nodup_cons, List.mem_eraseDups]
    refine ⟨fun h => by simp at h, nodup_eraseDups _⟩
termination_by l.length
decreasing_by exact Nat.lt_succ_of_le (List.length_filter_le _ _)

/-- Erasing repetitions keeps the order of first appearances. -/
theorem idxOf_eraseDups_lt_iff (x y : α) (l : List α) :
    l.eraseDups.idxOf x < l.eraseDups.idxOf y ↔ l.idxOf x < l.idxOf y := by
  cases l with
  | nil => simp
  | cons a as =>
    rw [List.eraseDups_cons]
    simp only [List.idxOf_cons]
    by_cases hax : a = x <;> by_cases hay : a = y
    · subst hax hay
      simp
    · subst hax
      simp [beq_false_of_ne hay]
    · subst hay
      simp [beq_false_of_ne hax]
    · -- past the head, the rest is erased from the entries other than `a`
      have hx : (!x == a) = true := by simpa using Ne.symm hax
      have hy : (!y == a) = true := by simpa using Ne.symm hay
      simp only [beq_false_of_ne hax, beq_false_of_ne hay, cond_false, Nat.add_lt_add_iff_right]
      rw [idxOf_eraseDups_lt_iff x y, @idxOf_filter_lt_iff _ _ _ (fun b => !b == a) x y hx hy as]
termination_by l.length
decreasing_by exact Nat.lt_succ_of_le (List.length_filter_le _ _)

end FirstOccurrences

/-! ## Placeholders written anywhere -/

/-- A placeholder is written somewhere in the text. -/
def HasPlaceholder (l : List Char) : Prop :=
  ∃ pre n post, IsName n ∧ l = pre ++ Segment.text (.placeholder n) ++ post

/-- The names of the placeholders of a cut, in order. -/
def cutNames (ps : List (List Char × List Char)) : List String := ps.map fun x => String.ofList x.2

/-- The placeholders of a text are those of its cut. -/
theorem placeholders_of_cut {t : String} {ps : List (List Char × List Char)} {last : List Char}
    (h : Cut t.toList ps last) : placeholders t = cutNames ps := by
  -- the characters between placeholders give no names
  have hchars : ∀ l : List Char, l.filterMap (fun _ => (none : Option String)) = [] :=
    fun l => List.filterMap_eq_nil_iff.2 fun _ _ => rfl
  rw [placeholders, segments_of_cut h, cutNames]
  simp only [List.filterMap_append, List.filterMap_flatMap, List.filterMap_map, Function.comp_def]
  simp only [hchars, List.nil_append, List.append_nil, List.filterMap_cons, List.filterMap_nil]
  rw [List.map_eq_flatMap]

/-- A placeholder is never written inside a gap of a cut: the gap would have a position where a
placeholder begins. -/
theorem not_placeholder_in_gap {g r A B n : List Char}
    (hgap : ∀ j < g.length, ¬ PlaceholderAhead ((g ++ r).drop j)) (hn : IsName n)
    (hg : g = A ++ Segment.text (.placeholder n) ++ B) : False := by
  refine hgap A.length ?_ ⟨n, B ++ r, hn, ?_⟩
  · rw [hg]
    simp
  · rw [hg]
    simp

/-- The names a cut finds are placeholders written in the text. -/
theorem hasPlaceholder_of_mem_cut {t : List Char} {ps : List (List Char × List Char)}
    {last : List Char} (h : Cut t ps last) {x : List Char × List Char} (hx : x ∈ ps) :
    ∃ A B, IsName x.2 ∧ t = A ++ Segment.text (.placeholder x.2) ++ B := by
  induction ps generalizing t with
  | nil => cases hx
  | cons y ps ih =>
    obtain ⟨rest, rfl, hname, -, hcut⟩ := h
    rcases List.mem_cons.1 hx with rfl | hx
    · exact ⟨x.1, rest, hname, rfl⟩
    · obtain ⟨A, B, hx, rfl⟩ := ih hcut hx
      exact ⟨y.1 ++ Segment.text (.placeholder y.2) ++ A, B, hx, by simp⟩

/-- A text has a placeholder written somewhere exactly when its cut finds one: the reader misses
none. -/
theorem hasPlaceholder_iff_of_cut {t : List Char} {ps : List (List Char × List Char)}
    {last : List Char} (h : Cut t ps last) : HasPlaceholder t ↔ ps ≠ [] := by
  constructor
  · rintro ⟨A, n, B, hn, ht⟩ rfl
    obtain ⟨rfl, hgap⟩ := h
    exact not_placeholder_in_gap (r := []) (by simpa using hgap) hn ht
  · intro hps
    obtain ⟨x, hx⟩ := List.exists_mem_of_ne_nil ps hps
    obtain ⟨A, B, hn, ht⟩ := hasPlaceholder_of_mem_cut h hx
    exact ⟨A, x.2, B, hn, ht⟩

/-- A text has no variables exactly when no placeholder is written in it. -/
theorem variables_eq_nil_iff (t : String) : «variables» t = [] ↔ ¬ HasPlaceholder t.toList := by
  obtain ⟨ps, last, h⟩ := exists_cut t.toList
  rw [hasPlaceholder_iff_of_cut h, «variables», placeholders_of_cut h, Decidable.not_not,
    List.eq_nil_iff_forall_not_mem]
  simp only [List.mem_eraseDups, cutNames, List.mem_map, not_exists, not_and]
  constructor
  · intro hnone
    cases ps with
    | nil => rfl
    | cons x ps => exact absurd rfl (hnone _ x (.head _))
  · rintro rfl
    simp

/-- A substitution is complete exactly when no placeholder is written in its content: what is
unresolved is read from the content. -/
theorem complete_iff (t : String) (b : Json.Members String) :
    (substitute t b).complete = true ↔ ¬ HasPlaceholder (substitute t b).content.toList := by
  rw [Substitution.complete, List.isEmpty_iff, ← variables_eq_nil_iff]
  rfl

/-- The variables of a template are the names of the placeholders its reader finds, each once,
in order of first appearance. For every cut of the text (and there is one): they are the cut's
names with later repetitions erased, so the same names, and one comes before another exactly
when its first placeholder comes before the other's. They hold no name twice. There are none
exactly when no placeholder `${name}` is written anywhere in the text, and a substitution is
complete exactly when no placeholder is written anywhere in its content. -/
theorem variables_first_appearances (t : String) :
    (∃ ps last, Cut t.toList ps last) ∧
    (∀ ps last, Cut t.toList ps last →
      «variables» t = (cutNames ps).eraseDups ∧
      (∀ n, n ∈ «variables» t ↔ n ∈ cutNames ps) ∧
      ∀ m n, ((«variables» t).idxOf m < («variables» t).idxOf n ↔
        (cutNames ps).idxOf m < (cutNames ps).idxOf n)) ∧
    («variables» t).Nodup ∧
    («variables» t = [] ↔ ¬ HasPlaceholder t.toList) ∧
    ∀ b, (substitute t b).complete = true ↔ ¬ HasPlaceholder (substitute t b).content.toList := by
  refine ⟨exists_cut t.toList, fun ps last h => ?_, nodup_eraseDups _, variables_eq_nil_iff t,
    complete_iff t⟩
  have hv : «variables» t = (cutNames ps).eraseDups := by
    rw [«variables», placeholders_of_cut h]
  refine ⟨hv, fun n => ?_, fun m n => ?_⟩
  · rw [hv, List.mem_eraseDups]
  · rw [hv, idxOf_eraseDups_lt_iff]

/-! ## What a substitution leaves unresolved -/

/-- `$` opens a placeholder and stands nowhere else in it. -/
theorem dollar_not_mem_tail {n : List Char} (hn : IsName n) :
    '$' ∉ (Segment.text (.placeholder n)).tail := by
  simp only [text_placeholder, List.tail_cons, List.mem_cons, List.mem_append]
  rintro (h | h | h)
  · exact absurd h (by decide)
  · exact absurd (hn.2 _ h) (by decide)
  · exact absurd h (by decide)

/-- Past its first character, what follows inside a placeholder does not start with `$`. -/
theorem drop_placeholder_ne {n : List Char} (hn : IsName n) {k : Nat} (hk0 : 0 < k)
    (hk : k < (Segment.text (.placeholder n)).length) (X Y : List Char) :
    (Segment.text (.placeholder n) ++ X).drop k ≠ '$' :: Y := by
  intro h
  obtain ⟨k, rfl⟩ : ∃ k', k = k' + 1 := ⟨k - 1, by omega⟩
  rw [List.drop_append_of_le_length (by omega)] at h
  -- the character after the drop lies in the placeholder past its `$`
  have hmem : '$' ∈ (Segment.text (.placeholder n)).drop (k + 1) := by
    cases hd : (Segment.text (.placeholder n)).drop (k + 1) with
    | nil => simp only [List.drop_eq_nil_iff] at hd; omega
    | cons c cs =>
      rw [hd, List.cons_append, List.cons.injEq] at h
      exact h.1 ▸ .head _
  rw [text_placeholder, List.drop_succ_cons] at hmem
  exact dollar_not_mem_tail hn (by simpa using List.mem_of_mem_drop hmem)

/-- Two placeholders written at one place are the same placeholder. -/
theorem name_eq_of_text_append {n m B C : List Char} (hn : IsName n) (hm : IsName m)
    (h : Segment.text (.placeholder n) ++ B = Segment.text (.placeholder m) ++ C) : n = m := by
  simp only [text_placeholder, List.cons_append, List.cons.injEq, true_and, List.append_assoc,
    List.nil_append] at h
  have hread := nameThenBrace_append hn.2 B
  rw [h, nameThenBrace_append hm.2 C, Option.some.injEq, Prod.mk.injEq] at hread
  exact hread.1.symm

/-- A piece of a text that ends within its first part lies in that part. -/
theorem eq_append_of_append_eq {g r A M B : List Char} (h : g ++ r = A ++ M ++ B)
    (hle : A.length + M.length ≤ g.length) : ∃ C, g = A ++ M ++ C := by
  rcases List.append_eq_append_iff.1 h with ⟨a', hg, -⟩ | ⟨c', hg, -⟩
  · have hlen := congrArg List.length hg
    simp only [List.length_append] at hlen
    have : a' = [] := List.eq_nil_of_length_eq_zero (by omega)
    exact ⟨[], by simpa [this] using hg.symm⟩
  · exact ⟨c', hg⟩

/-- A piece of a text that starts past its first part lies in the rest. -/
theorem eq_append_of_le {g r A M : List Char} (h : g ++ r = A ++ M) (hle : g.length ≤ A.length) :
    ∃ A', A = g ++ A' ∧ r = A' ++ M := by
  rcases List.append_eq_append_iff.1 h with ⟨a', hA, hr⟩ | ⟨c', hc, hr⟩
  · exact ⟨a', hA, hr⟩
  · have hlen : g.length = A.length + c'.length := by rw [hc, List.length_append]
    have : c' = [] := List.eq_nil_of_length_eq_zero (by omega)
    subst this
    exact ⟨[], by simpa using hc.symm, by simpa using hr.symm⟩

/-- Two placeholders written in one text whose spans overlap are one placeholder: the later one
would start inside the earlier, where no `$` stands. -/
theorem placeholder_eq_of_overlap {A G B W n m : List Char} (hn : IsName n) (hm : IsName m)
    (h : A ++ Segment.text (.placeholder n) ++ B = G ++ Segment.text (.placeholder m) ++ W)
    (h₁ : A.length < G.length + (Segment.text (.placeholder m)).length)
    (h₂ : G.length < A.length + (Segment.text (.placeholder n)).length) :
    A.length = G.length ∧ n = m := by
  -- the text from where each starts
  have hp : (A ++ Segment.text (.placeholder n) ++ B).drop A.length =
      Segment.text (.placeholder n) ++ B := by
    rw [List.append_assoc, List.drop_left]
  have hg : (A ++ Segment.text (.placeholder n) ++ B).drop G.length =
      Segment.text (.placeholder m) ++ W := by
    rw [h, List.append_assoc, List.drop_left]
  rcases Nat.lt_trichotomy A.length G.length with hlt | heq | hgt
  · rw [← Nat.add_sub_cancel' (Nat.le_of_lt hlt), ← List.drop_drop, hp, text_placeholder] at hg
    exact (drop_placeholder_ne hn (by omega) (by omega) _ _ hg).elim
  · rw [heq] at hp
    rw [hp] at hg
    exact ⟨heq, name_eq_of_text_append hn hm hg⟩
  · rw [← Nat.add_sub_cancel' (Nat.le_of_lt hgt), ← List.drop_drop, hg, text_placeholder] at hp
    exact (drop_placeholder_ne hm (by omega) (by omega) _ _ hp).elim

/-- Where the replacement of the placeholder `x` goes in, when the items `ps₁` of the cut come
before it. -/
def insertionAt (b : Json.Members String) (ps₁ : List (List Char × List Char))
    (x : List Char × List Char) : Nat :=
  (ps₁.flatMap (fun y => y.1 ++ replacement b y.2) ++ x.1).length

/-- The `len` characters from `p` meet the `k` characters inserted at `s`; an empty insertion
meets the spans that hold its place strictly inside them. -/
def Meets (p len s k : Nat) : Prop := p < s + k ∧ s < p + len

theorem meets_shift (K p len s k : Nat) : Meets (K + p) len (K + s) k ↔ Meets p len s k := by
  simp only [Meets]
  omega

theorem insertionAt_cons (b : Json.Members String) (x : List Char × List Char)
    (ps₁ : List (List Char × List Char)) (y : List Char × List Char) :
    insertionAt b (x :: ps₁) y = (x.1 ++ replacement b x.2).length + insertionAt b ps₁ y := by
  simp only [insertionAt, List.flatMap_cons, List.length_append]
  omega

/-- A placeholder written in what one pass writes for a cut, meeting no inserted value, is a
placeholder of the cut left in place because its name is unbound. By induction on the cut: the
placeholder either starts past the first replacement, and is one of the rest, or it starts
before; then it cannot lie in the gap, cannot meet a value, and overlaps the placeholder kept
there, so it is that placeholder. -/
theorem kept_of_apart {b : Json.Members String} {t : List Char} {ps : List (List Char × List Char)}
    {last : List Char} (h : Cut t ps last) {A B n : List Char} (hn : IsName n)
    (ho : ps.flatMap (fun x => x.1 ++ replacement b x.2) ++ last =
      A ++ Segment.text (.placeholder n) ++ B)
    (hapart : ∀ ps₁ x ps₂ v, ps = ps₁ ++ x :: ps₂ → b.lookup (String.ofList x.2) = some v →
      ¬ Meets A.length (Segment.text (.placeholder n)).length (insertionAt b ps₁ x) v.length) :
    ∃ x ∈ ps, x.2 = n ∧ b.lookup (String.ofList x.2) = none := by
  induction ps generalizing t A with
  | nil =>
    obtain ⟨rfl, hgap⟩ := h
    rw [List.flatMap_nil, List.nil_append] at ho
    exact (not_placeholder_in_gap (r := []) (by simpa using hgap) hn ho).elim
  | cons x ps ih =>
    obtain ⟨rest, rfl, hname, hgap, hcut⟩ := h
    -- what is written: the gap, the replacement, then what the rest of the cut writes
    have hL : x.1 ++ replacement b x.2 ++ (ps.flatMap (fun x => x.1 ++ replacement b x.2) ++ last) =
        A ++ Segment.text (.placeholder n) ++ B := by
      simpa [List.append_assoc] using ho
    by_cases hafter : (x.1 ++ replacement b x.2).length ≤ A.length
    · -- past the first replacement: one of the rest of the cut
      rw [List.append_assoc A] at hL
      obtain ⟨A', rfl, hrest⟩ := eq_append_of_le hL hafter
      obtain ⟨y, hy, hyn, hyb⟩ := ih hcut (by rw [hrest, List.append_assoc])
        fun ps₁ y ps₂ v hps hv hm => by
          refine hapart (x :: ps₁) y ps₂ v (by rw [hps]; rfl) hv ?_
          rw [insertionAt_cons, List.length_append, meets_shift]
          exact hm
      exact ⟨y, .tail _ hy, hyn, hyb⟩
    by_cases hend : A.length + (Segment.text (.placeholder n)).length ≤ x.1.length
    · -- within the gap, where no placeholder begins
      rw [List.append_assoc x.1] at hL
      obtain ⟨C, hC⟩ := eq_append_of_append_eq hL hend
      exact (not_placeholder_in_gap (by simpa [List.append_assoc] using hgap) hn hC).elim
    cases hb : b.lookup (String.ofList x.2) with
    | some v =>
      -- it meets the value inserted for `x`
      have hR : replacement b x.2 = v.toList := by simp [replacement, hb]
      rw [hR, List.length_append, String.length_toList] at hafter
      refine (hapart [] x ps v rfl hb ⟨?_, ?_⟩).elim <;>
        simp only [insertionAt, List.flatMap_nil, List.nil_append] <;> omega
    | none =>
      -- it overlaps the placeholder kept there, so it is that placeholder
      have hR : replacement b x.2 = Segment.text (.placeholder x.2) := by simp [replacement, hb]
      rw [hR] at hL hafter
      rw [List.length_append] at hafter
      obtain ⟨-, hnx⟩ := placeholder_eq_of_overlap hn hname hL.symm (by omega) (by omega)
      exact ⟨x, .head _, hnx.symm, hb⟩

/-- Where each unresolved name comes from. For every cut of the template (and there is one), a
name left unresolved is the name of a placeholder of the cut whose name is unbound, or the name
of a placeholder written in the content that meets the place where a bound value went in: it
overlaps the inserted characters or, for an empty value, holds their place inside it. The second
kind need not lie in the value alone: `${` from the text, the value, then `}`. -/
theorem unresolved_sources (t : String) (b : Json.Members String) :
    (∃ ps last, Cut t.toList ps last) ∧
    ∀ ps last, Cut t.toList ps last → ∀ n ∈ (substitute t b).unresolved,
      (∃ x ∈ ps, String.ofList x.2 = n ∧ b.lookup n = none) ∨
      ∃ A B, (substitute t b).content.toList = A ++ Segment.text (.placeholder n.toList) ++ B ∧
        ∃ ps₁ x ps₂ v, ps = ps₁ ++ x :: ps₂ ∧ b.lookup (String.ofList x.2) = some v ∧
          Meets A.length (Segment.text (.placeholder n.toList)).length (insertionAt b ps₁ x)
            v.length := by
  refine ⟨exists_cut _, fun ps last h n hn => ?_⟩
  -- an unresolved name is the name of a placeholder of the content's own cut
  have hmem : n ∈ placeholders (substitute t b).content := List.mem_eraseDups.1 hn
  obtain ⟨ps', last', h'⟩ := exists_cut (substitute t b).content.toList
  rw [placeholders_of_cut h', cutNames] at hmem
  obtain ⟨y, hy, rfl⟩ := List.mem_map.1 hmem
  obtain ⟨A, B, hname, hA⟩ := hasPlaceholder_of_mem_cut h' hy
  rw [String.toList_ofList]
  by_cases hmeet : ∃ ps₁ x ps₂ v, ps = ps₁ ++ x :: ps₂ ∧ b.lookup (String.ofList x.2) = some v ∧
      Meets A.length (Segment.text (.placeholder y.2)).length (insertionAt b ps₁ x) v.length
  · exact .inr ⟨A, B, hA, hmeet⟩
  · obtain ⟨x, hx, hxn, hxb⟩ := kept_of_apart h hname (by rw [← substitute_of_cut b h]; exact hA)
      fun ps₁ x ps₂ v hps hv hm => hmeet ⟨ps₁, x, ps₂, v, hps, hv, hm⟩
    exact .inl ⟨x, hx, by rw [hxn], by rw [← hxn]; exact hxb⟩

/-- A placeholder can form across an inserted value. In `${${a}}` with `a` bound to `x`, the only
placeholder of the template is `${a}`, which is bound, and the value `x` holds no placeholder;
yet the value joins the `${` before it and the `}` after it into `${x}`, left unresolved. -/
theorem unresolved_across_insertion :
    (substitute "$\x7b$\x7ba\x7d\x7d" [("a", "x")]).unresolved = ["x"] ∧
      placeholders "$\x7b$\x7ba\x7d\x7d" = ["a"] ∧ List.lookup "a" [("a", "x")] = some "x" ∧
      «variables» "x" = [] := by
  decide +kernel

end DataProduct.Template
