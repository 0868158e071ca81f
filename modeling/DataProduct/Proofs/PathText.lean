import DataProduct.Validation.Report

/-!
# The text of a path gives the path back

Reports name a field by the text of its path (`Path.render`): its keys joined by `.`, its indices
in brackets. Read from the left, the text of a step ends where the next step's text begins with a
`.` or a `[`, and an index ends at its `]`. So the text determines the path as long as no key can
be taken for a separator: every key is *plain*, not empty and without `.` or `[`. The walk keeps
to that everywhere but in one place: the key of a reusable component may be any text, but it
comes last, after the fixed names of `components` and of its map.

* `PathStep.render_append_inj`: a step's text, followed by a text that starts at a separator, is
  read back uniquely;
* `Path.render_inj_of_plain`: plain paths with the same text are equal;
* `Path.render_inj_of_readable`: the same for every path a walk reports at (`Path.Readable`).
-/

namespace DataProduct

/-- A step whose text cannot run into the next one: an index, or a key that is not empty and has
no `.` and no `[`. -/
def PathStep.Plain : PathStep → Prop
  | .key k => k ≠ "" ∧ '.' ∉ k.toList ∧ '[' ∉ k.toList
  | .index _ => True

instance : DecidablePred PathStep.Plain := fun s =>
  match s with
  | .key _ => inferInstanceAs (Decidable (_ ∧ _))
  | .index _ => inferInstanceAs (Decidable True)

/-- The characters at which the text of a step after the first begins. -/
def Separator (c : Char) : Prop := c = '.' ∨ c = '['

/-- A word followed by a text that is empty or starts at a separator: the word is the text up to
its first separator, and the rest is what follows. -/
theorem word_append_inj {sep : Char → Prop} {w₁ w₂ r₁ r₂ : List Char}
    (hw₁ : ∀ c ∈ w₁, ¬sep c) (hw₂ : ∀ c ∈ w₂, ¬sep c)
    (hr₁ : ∀ c ∈ r₁.head?, sep c) (hr₂ : ∀ c ∈ r₂.head?, sep c)
    (h : w₁ ++ r₁ = w₂ ++ r₂) : w₁ = w₂ ∧ r₁ = r₂ := by
  induction w₁ generalizing w₂ with
  | nil =>
    cases w₂ with
    | nil => exact ⟨rfl, h⟩
    | cons c w₂ =>
      -- the second word's first letter would start the first rest
      subst h
      exact absurd (hr₁ c (by simp)) (hw₂ c (.head _))
  | cons c w₁ ih =>
    cases w₂ with
    | nil =>
      simp only [List.nil_append] at h
      subst h
      exact absurd (hr₂ c (by simp)) (hw₁ c (.head _))
    | cons d w₂ =>
      simp only [List.cons_append, List.cons.injEq] at h
      obtain ⟨rfl, h⟩ := h
      obtain ⟨hw, hr⟩ := ih (fun x hx => hw₁ x (.tail _ hx)) (fun x hx => hw₂ x (.tail _ hx)) h
      exact ⟨by rw [hw], hr⟩

/-! ## Steps -/

namespace PathStep

@[simp] theorem toList_render_key (first : Bool) (k : String) :
    ((PathStep.key k).render first).toList = if first then k.toList else '.' :: k.toList := by
  cases first <;> simp [render]

@[simp] theorem toList_render_index (first : Bool) (i : Nat) :
    ((PathStep.index i).render first).toList = '[' :: (Nat.toDigits 10 i ++ [']']) := by
  simp [render, Nat.toList_repr]

theorem not_separator_of_plain {k : String} (h : (PathStep.key k).Plain) :
    ∀ c ∈ k.toList, ¬Separator c := by
  rintro c hc (rfl | rfl)
  · exact h.2.1 hc
  · exact h.2.2 hc

/-- Only the text of a first key can begin other than at a separator, and it does not begin at
a `[`. -/
theorem head_ne_bracket_of_plain {k : String} (h : (PathStep.key k).Plain) :
    ∃ c cs, k.toList = c :: cs ∧ c ≠ '[' := by
  obtain ⟨hk, -, hb⟩ := h
  match hl : k.toList with
  | [] => exact absurd (String.toList_eq_nil_iff.mp hl) hk
  | c :: cs =>
    refine ⟨c, cs, rfl, ?_⟩
    rintro rfl
    exact hb (by simp [hl])

theorem render_ne_nil {s : PathStep} (h : s.Plain) (first : Bool) : (s.render first).toList ≠ [] := by
  cases s with
  | key k =>
    obtain ⟨c, cs, hk, -⟩ := head_ne_bracket_of_plain h
    cases first <;> simp [hk]
  | index i => simp

/-- The text of an index names it: its digits stop at the `]`. -/
theorem index_append_inj {i₁ i₂ : Nat} {T₁ T₂ : List Char}
    (h : Nat.toDigits 10 i₁ ++ ']' :: T₁ = Nat.toDigits 10 i₂ ++ ']' :: T₂) : i₁ = i₂ ∧ T₁ = T₂ := by
  have hd : ∀ i, ∀ c ∈ Nat.toDigits 10 i, ¬c = ']' := by
    rintro i c hc rfl
    exact absurd (Nat.isDigit_of_mem_toDigits (by decide) (by decide) hc) (by decide)
  obtain ⟨hw, hr⟩ := word_append_inj (hd i₁) (hd i₂) (by simp) (by simp) h
  refine ⟨?_, (List.cons.inj hr).2⟩
  calc i₁ = Nat.ofDigitChars 10 (Nat.toDigits 10 i₁) 0 := Nat.ofDigitChars_ten_toDigits.symm
    _ = Nat.ofDigitChars 10 (Nat.toDigits 10 i₂) 0 := by rw [hw]
    _ = i₂ := Nat.ofDigitChars_ten_toDigits

/-- A plain step's text followed by a text that is empty or starts at a separator is read back
uniquely. -/
theorem render_append_inj {first : Bool} {s₁ s₂ : PathStep} {T₁ T₂ : List Char}
    (h₁ : s₁.Plain) (h₂ : s₂.Plain) (hT₁ : ∀ c ∈ T₁.head?, Separator c)
    (hT₂ : ∀ c ∈ T₂.head?, Separator c)
    (h : (s₁.render first).toList ++ T₁ = (s₂.render first).toList ++ T₂) : s₁ = s₂ ∧ T₁ = T₂ := by
  cases s₁ with
  | key k₁ =>
    cases s₂ with
    | key k₂ =>
      have hk : k₁.toList ++ T₁ = k₂.toList ++ T₂ := by
        cases first <;> simpa using h
      obtain ⟨hw, hr⟩ := word_append_inj (not_separator_of_plain h₁) (not_separator_of_plain h₂)
        hT₁ hT₂ hk
      exact ⟨congrArg PathStep.key (String.toList_injective hw), hr⟩
    | index i₂ =>
      -- a key's text begins with `.`, or, as the first step, with a letter that is no `[`
      obtain ⟨c, cs, hk, hc⟩ := head_ne_bracket_of_plain h₁
      cases first <;> simp [hk, hc] at h
  | index i₁ =>
    cases s₂ with
    | key k₂ =>
      obtain ⟨c, cs, hk, hc⟩ := head_ne_bracket_of_plain h₂
      cases first <;> simp [hk, Ne.symm hc] at h
    | index i₂ =>
      simp only [toList_render_index, List.cons_append, List.append_assoc, List.cons.injEq,
        true_and] at h
      obtain ⟨hi, hT⟩ := index_append_inj h
      exact ⟨congrArg PathStep.index hi, hT⟩

end PathStep

/-! ## Paths -/

namespace Path

/-- The text of the steps after the first, as characters. -/
def tailText (r : Path) : List Char := r.flatMap fun s => (s.render false).toList

@[simp] theorem tailText_nil : tailText [] = [] := rfl

@[simp] theorem tailText_cons (s : PathStep) (r : Path) :
    tailText (s :: r) = (s.render false).toList ++ tailText r := rfl

theorem toList_render_cons (s : PathStep) (r : Path) :
    (Path.render (s :: r)).toList = (s.render true).toList ++ tailText r := by
  simp [render, tailText, String.toList_join, List.flatMap_map]

/-- A key put at the end of a path puts its own text there: after a dot, unless it is the first
step. -/
theorem toList_render_append_key (p : Path) (k : String) :
    (Path.render (p ++ [.key k])).toList =
      (Path.render p).toList ++ ((PathStep.key k).render p.isEmpty).toList := by
  cases p with
  | nil => simp [render]
  | cons s r =>
    rw [List.cons_append, toList_render_cons, toList_render_cons]
    simp [tailText]

/-- Paths that differ only in their last key have different texts. -/
theorem render_append_key_inj {p : Path} {a b : String}
    (h : Path.render (p ++ [.key a]) = Path.render (p ++ [.key b])) : a = b := by
  have h' := congrArg String.toList h
  rw [toList_render_append_key, toList_render_append_key, List.append_cancel_left_eq] at h'
  apply String.toList_inj.1
  by_cases hp : p = [] <;> simpa [PathStep.render, String.toList_append, hp] using h'

/-- The text after the first step begins at a separator. -/
theorem tailText_head (r : Path) : ∀ c ∈ (tailText r).head?, Separator c := by
  cases r with
  | nil => simp
  | cons s r =>
    cases s <;> simp [Separator]

theorem tailText_inj_of_plain {r₁ r₂ : Path} (h₁ : ∀ t ∈ r₁, t.Plain) (h₂ : ∀ t ∈ r₂, t.Plain)
    (h : tailText r₁ = tailText r₂) : r₁ = r₂ := by
  induction r₁ generalizing r₂ with
  | nil =>
    cases r₂ with
    | nil => rfl
    | cons s r₂ =>
      simp only [tailText_nil, tailText_cons, List.nil_eq, List.append_eq_nil_iff] at h
      exact absurd h.1 (PathStep.render_ne_nil (h₂ s (.head _)) false)
  | cons s₁ r₁ ih =>
    cases r₂ with
    | nil =>
      simp only [tailText_nil, tailText_cons, List.append_eq_nil_iff] at h
      exact absurd h.1 (PathStep.render_ne_nil (h₁ s₁ (.head _)) false)
    | cons s₂ r₂ =>
      obtain ⟨hs, hr⟩ := PathStep.render_append_inj (h₁ s₁ (.head _)) (h₂ s₂ (.head _))
        (tailText_head r₁) (tailText_head r₂) h
      rw [hs, ih (fun t ht => h₁ t (.tail _ ht)) (fun t ht => h₂ t (.tail _ ht)) hr]

/-- Plain paths with the same text are equal. -/
theorem render_inj_of_plain {p₁ p₂ : Path} (h₁ : ∀ t ∈ p₁, t.Plain) (h₂ : ∀ t ∈ p₂, t.Plain)
    (h : p₁.render = p₂.render) : p₁ = p₂ := by
  have hl := congrArg String.toList h
  cases p₁ with
  | nil =>
    cases p₂ with
    | nil => rfl
    | cons s r =>
      rw [toList_render_cons] at hl
      simp only [render, String.toList_empty, List.nil_eq, List.append_eq_nil_iff] at hl
      exact absurd hl.1 (PathStep.render_ne_nil (h₂ s (.head _)) true)
  | cons s₁ r₁ =>
    cases p₂ with
    | nil =>
      rw [toList_render_cons] at hl
      simp only [render, String.toList_empty, List.append_eq_nil_iff] at hl
      exact absurd hl.1 (PathStep.render_ne_nil (h₁ s₁ (.head _)) true)
    | cons s₂ r₂ =>
      rw [toList_render_cons, toList_render_cons] at hl
      obtain ⟨hs, hr⟩ := PathStep.render_append_inj (h₁ s₁ (.head _)) (h₂ s₂ (.head _))
        (tailText_head r₁) (tailText_head r₂) hl
      rw [hs, tailText_inj_of_plain (fun t ht => h₁ t (.tail _ ht)) (fun t ht => h₂ t (.tail _ ht)) hr]

/-- The path of a map of reusable components, or of a key in it when `k` is given. -/
def component (m : String) (k : Option String) : Path :=
  .key "components" :: .key m :: (k.map PathStep.key).toList

/-- The paths a walk reports at: plain paths outside `components`, and the paths of a map of
reusable components and of its keys, where a key may be any text. -/
def Readable (p : Path) : Prop :=
  ((∀ t ∈ p, t.Plain) ∧ p.head? ≠ some (.key "components")) ∨
    ∃ m k, (PathStep.key m).Plain ∧ p = component m k

theorem toList_render_component (m : String) (k : Option String) :
    (component m k).render.toList =
      ((PathStep.key "components").render true).toList ++ tailText (.key m :: (k.map .key).toList) :=
  toList_render_cons _ _

/-- A plain path outside `components` is not written as one under it. -/
theorem render_ne_component {p : Path} (h : ∀ t ∈ p, t.Plain)
    (hc : p.head? ≠ some (.key "components")) (m : String) (k : Option String) :
    p.render ≠ (component m k).render := by
  intro heq
  have hl := congrArg String.toList heq
  rw [toList_render_component] at hl
  cases p with
  | nil =>
    simp only [render, String.toList_empty, List.nil_eq, List.append_eq_nil_iff] at hl
    exact PathStep.render_ne_nil (show (PathStep.key "components").Plain by decide) true hl.1
  | cons s r =>
    rw [toList_render_cons] at hl
    obtain ⟨hs, -⟩ := PathStep.render_append_inj (h s (.head _)) (by decide) (tailText_head _)
      (tailText_head _) hl
    exact hc (by rw [hs]; rfl)

/-- The paths of reusable components are read back: the map's name is plain, and the key, if
any, is what follows it. -/
theorem component_inj {m₁ m₂ : String} (h₁ : (PathStep.key m₁).Plain) (h₂ : (PathStep.key m₂).Plain)
    {k₁ k₂ : Option String} (h : (component m₁ k₁).render = (component m₂ k₂).render) :
    component m₁ k₁ = component m₂ k₂ := by
  have hl := congrArg String.toList h
  rw [toList_render_component, toList_render_component, List.append_cancel_left_eq, tailText_cons,
    tailText_cons] at hl
  obtain ⟨hm, hk⟩ := PathStep.render_append_inj h₁ h₂ (tailText_head _) (tailText_head _) hl
  cases hm
  cases k₁ <;> cases k₂ <;> simp_all [tailText, component, String.toList_inj]

/-- No two paths a walk reports at have the same text. -/
theorem render_inj_of_readable {p₁ p₂ : Path} (h₁ : p₁.Readable) (h₂ : p₂.Readable)
    (h : p₁.render = p₂.render) : p₁ = p₂ := by
  rcases h₁ with ⟨hp₁, hc₁⟩ | ⟨m₁, k₁, hm₁, rfl⟩ <;> rcases h₂ with ⟨hp₂, hc₂⟩ | ⟨m₂, k₂, hm₂, rfl⟩
  · exact render_inj_of_plain hp₁ hp₂ h
  · exact absurd h (render_ne_component hp₁ hc₁ m₂ k₂)
  · exact absurd h.symm (render_ne_component hp₂ hc₂ m₁ k₁)
  · exact component_inj hm₁ hm₂ h

end Path

end DataProduct
