import DataProduct.Proofs.Json.Forward
import DataProduct.Proofs.Json.Decoded
import DataProduct.Proofs.Variables

/-!
# What reading takes from a clean text

A text is clean when no placeholder `${name}` is written in it and none of its characters is
written as a `\u` escape. Every string that reading gives is read from a stretch of its text: its
characters are the text's own, except where a short escape (`\n`, `\"`, `\\` and the like) stands
for one, and no short escape stands for a character a placeholder can hold. A placeholder in such
a string would have to be written in the text itself, so there is none.

* `hasPlaceholder_append_cons`: a placeholder written across a character that no placeholder
  holds is written on one side of it;
* `readString_clean`: a string read from a clean text holds no placeholder;
* `Draws m Q`: whenever `m` succeeds it leaves a suffix of its text, and from a clean text its
  answer satisfies `Q`;
* `readValue_draws`: no string and no key of a value read from a clean text holds a placeholder;
* `record_draws`, `readText_draws`: records read field by field, and whole texts.
-/

namespace DataProduct

/-- A prefix of `P ++ x :: B` without `x` is a prefix of `P`. -/
theorem List.prefix_of_prefix_append_cons {α : Type} {t P B : List α} {x : α} (hx : x ∉ t)
    (h : t <+: P ++ x :: B) : t <+: P := by
  induction P generalizing t with
  | nil =>
    rcases List.prefix_cons_iff.1 h with rfl | ⟨t', rfl, -⟩
    · exact List.nil_prefix
    · exact absurd List.mem_cons_self hx
  | cons a P ih =>
    rcases List.prefix_cons_iff.1 h with rfl | ⟨t', rfl, ht'⟩
    · exact List.nil_prefix
    · exact List.cons_prefix_cons.2 ⟨rfl, ih (fun h => hx (List.mem_cons_of_mem _ h)) ht'⟩

/-- A piece of `A ++ x :: B` without `x` is a piece of `A` or of `B`. -/
theorem List.infix_of_infix_append_cons {α : Type} {t A B : List α} {x : α} (hx : x ∉ t)
    (h : t <:+: A ++ x :: B) : t <:+: A ∨ t <:+: B := by
  induction A with
  | nil =>
    rcases List.infix_cons_iff.1 h with hp | hi
    · rcases List.prefix_cons_iff.1 hp with rfl | ⟨t', rfl, -⟩
      · exact .inl List.nil_infix
      · exact absurd List.mem_cons_self hx
    · exact .inr hi
  | cons a A ih =>
    rcases List.infix_cons_iff.1 h with hp | hi
    · exact .inl (List.prefix_of_prefix_append_cons hx hp).isInfix
    · exact (ih hi).imp_left List.infix_cons

namespace Template

/-! ## Where a placeholder can be written -/

/-- Whether a character can stand in a placeholder: `$`, a brace, or a character of a name. -/
def isPlaceholderChar (c : Char) : Bool := c == '$' || c == '\x7b' || c == '\x7d' || isNameChar c

/-- No placeholder is written in a string. -/
def Clean (s : String) : Prop := ¬ HasPlaceholder s.toList

theorem isPlaceholderChar_of_mem {n : List Char} (hn : IsName n) {c : Char}
    (h : c ∈ Segment.text (.placeholder n)) : isPlaceholderChar c = true := by
  simp only [text_placeholder, List.mem_cons, List.mem_append, List.not_mem_nil, or_false] at h
  rcases h with rfl | rfl | h | rfl
  · rfl
  · rfl
  · simp [isPlaceholderChar, (isNameChar_iff c).2 (hn.2 c h)]
  · rfl

theorem HasPlaceholder.mono {l l' : List Char} (hp : HasPlaceholder l) (h : l <:+: l') :
    HasPlaceholder l' := by
  obtain ⟨pre, n, post, hn, rfl⟩ := hp
  obtain ⟨s, t, rfl⟩ := h
  exact ⟨s ++ pre, n, post ++ t, hn, by simp⟩

/-- A placeholder written across a character that no placeholder holds is written on one side of
it. -/
theorem hasPlaceholder_append_cons {A B : List Char} {x : Char} (hx : isPlaceholderChar x = false)
    (h : HasPlaceholder (A ++ x :: B)) : HasPlaceholder A ∨ HasPlaceholder B := by
  obtain ⟨pre, n, post, hn, heq⟩ := h
  have hxn : x ∉ Segment.text (.placeholder n) := fun hm => by
    rw [isPlaceholderChar_of_mem hn hm] at hx
    cases hx
  rcases List.infix_of_infix_append_cons hxn ⟨pre, post, heq.symm⟩ with ⟨s, t, hA⟩ | ⟨s, t, hB⟩
  · exact .inl ⟨s, n, t, hn, hA.symm⟩
  · exact .inr ⟨s, n, t, hn, hB.symm⟩

/-- A placeholder opens with `$`. -/
theorem clean_of_dollar_not_mem {s : String} (h : '$' ∉ s.toList) : Clean s := by
  rintro ⟨pre, n, post, -, heq⟩
  exact h (heq ▸ by simp)

/-- Characters read so far end where no placeholder goes on: at the start, or after a character
that no placeholder holds. -/
def Closed (A : List Char) : Prop := ∀ c ∈ A.getLast?, isPlaceholderChar c = false

theorem not_hasPlaceholder_append {A R : List Char} (hc : Closed A) (hA : ¬ HasPlaceholder A)
    (hR : ¬ HasPlaceholder R) : ¬ HasPlaceholder (A ++ R) := by
  intro h
  rcases List.eq_nil_or_concat A with rfl | ⟨A', x, rfl⟩
  · exact hR (by simpa using h)
  · have hx : isPlaceholderChar x = false := hc x (by simp)
    rw [List.concat_eq_append, List.append_assoc, List.singleton_append] at h
    rcases hasPlaceholder_append_cons hx h with h | h
    · exact hA (h.mono (List.prefix_concat x A').isInfix)
    · exact hR h

theorem not_hasPlaceholder_nil : ¬ HasPlaceholder [] := by
  rintro ⟨pre, n, post, -, heq⟩
  simp at heq

/-- A character outside every placeholder closes a text. -/
theorem closed_append_singleton {L : List Char} {c : Char} (hx : isPlaceholderChar c = false) :
    Closed (L ++ [c]) := by
  intro y hy
  simp only [List.getLast?_append, List.getLast?_singleton, Option.some_or, Option.mem_def,
    Option.some.injEq] at hy
  exact hy ▸ hx

/-- A closed text and a text with no placeholder, then a character outside every placeholder:
no placeholder runs across either seam. -/
theorem not_hasPlaceholder_close {A R : List Char} {c : Char} (hc : Closed A)
    (hA : ¬ HasPlaceholder A) (hR : ¬ HasPlaceholder R) (hx : isPlaceholderChar c = false) :
    ¬ HasPlaceholder (A ++ R ++ [c]) := by
  rw [List.append_assoc]
  refine not_hasPlaceholder_append hc hA fun hp => ?_
  rcases hasPlaceholder_append_cons hx (by simpa using hp) with hp | hp
  · exact hR hp
  · exact not_hasPlaceholder_nil hp

end Template

namespace Json

open Reader Decoder Template

variable {α β γ : Type}

/-! ## Clean texts and the strings read from them -/

/-- Whether a text writes a character as a `\u` escape, read from the left as a string body is
read: a backslash goes with the character after it, so in `\\u` the `u` follows an escaped
backslash and starts no escape. -/
def hasUnicodeEscape : List Char → Bool
  | '\\' :: 'u' :: _ => true
  | '\\' :: _ :: cs => hasUnicodeEscape cs
  | _ :: cs => hasUnicodeEscape cs
  | [] => false

theorem hasUnicodeEscape_char {c : Char} (hc : c ≠ '\\') (cs : List Char) :
    hasUnicodeEscape (c :: cs) = hasUnicodeEscape cs := by
  simp [hasUnicodeEscape, hc]

theorem hasUnicodeEscape_escape {e : Char} (he : e ≠ 'u') (cs : List Char) :
    hasUnicodeEscape ('\\' :: e :: cs) = hasUnicodeEscape cs := by
  simp [hasUnicodeEscape]

theorem hasUnicodeEscape_u (cs : List Char) : hasUnicodeEscape ('\\' :: 'u' :: cs) = true := by
  simp [hasUnicodeEscape]

/-- After characters that are no backslash, a `\u` escape is seen. -/
theorem hasUnicodeEscape_chars_u {R : List Char} (hR : ∀ c ∈ R, c ≠ '\\') (t : List Char) :
    hasUnicodeEscape (R ++ '\\' :: 'u' :: t) = true := by
  induction R with
  | nil => exact hasUnicodeEscape_u t
  | cons c R ih =>
    rw [List.cons_append, hasUnicodeEscape_char (hR c List.mem_cons_self)]
    exact ih fun d hd => hR d (List.mem_cons_of_mem _ hd)

/-- A text that writes a `\u` escape has a backslash followed by `u` in it, so a text with no
such pair writes none. -/
theorem infix_of_hasUnicodeEscape {cs : List Char} (h : hasUnicodeEscape cs = true) :
    ['\\', 'u'] <:+: cs := by
  fun_induction hasUnicodeEscape cs with
  | case1 t => exact ⟨[], t, rfl⟩
  | case2 e cs _ ih => exact List.infix_cons (List.infix_cons (ih h))
  | case3 c cs _ _ ih => exact List.infix_cons (ih h)
  | case4 => cases h

/-- What is left of a text with no `\u` escape, after whole characters and escapes, has none. -/
theorem Aligned.noUnicodeEscape {cs rest : List Char} (h : Aligned cs rest)
    (hu : hasUnicodeEscape cs = false) : hasUnicodeEscape rest = false := by
  induction h with
  | refl => exact hu
  | char hc _ ih => exact ih (by rwa [hasUnicodeEscape_char hc] at hu)
  | escape e _ ih =>
    by_cases he : e = 'u'
    · subst he
      rw [hasUnicodeEscape_u] at hu
      cases hu
    · exact ih (by rwa [hasUnicodeEscape_escape he] at hu)

/-- A text is clean when none of its characters is written as a `\u` escape and no placeholder is
written in it. -/
def CleanText (cs : List Char) : Prop := hasUnicodeEscape cs = false ∧ ¬ HasPlaceholder cs

theorem CleanText.of_aligned {cs rest : List Char} (h : CleanText cs) (ha : Aligned cs rest) :
    CleanText rest :=
  ⟨ha.noUnicodeEscape h.1, fun hp => h.2 (hp.mono ha.suffix.isInfix)⟩

/-- A short escape stands for a quote, a slash, a backslash or a control character. -/
theorem isPlaceholderChar_shortEscape {e c : Char} (h : shortEscape e = some c) :
    isPlaceholderChar c = false := by
  unfold shortEscape at h
  split at h <;> cases h <;> rfl

/-- A string body read from a clean text. The characters read so far are `A`, where no placeholder
goes on, then `R`, which are the text's own, none of them a backslash, and with the text after them
are clean. A short escape closes what was read; a `\u` escape cannot stand in a clean text. -/
theorem readStringFrom_clean (acc cs : List Char) (p : Position) :
    ∀ A R, acc.reverse = A ++ R → Closed A → ¬ HasPlaceholder A → (∀ c ∈ R, c ≠ '\\') →
      CleanText (R ++ cs) → ∀ s rest p', readStringFrom acc cs p = .ok (s, rest, p') → Clean s := by
  fun_induction readStringFrom acc cs p
  case case2 acc rest p =>
    intro A R hacc hc hA _ hR s rest' p' h
    cases h
    rw [Clean, String.toList_ofList, hacc]
    exact not_hasPlaceholder_append hc hA fun hp => hR.2 (hp.mono List.infix_append_left)
  case case5 =>
    intro A R _ _ _ hRb hR
    exact absurd hR.1 (by simp [hasUnicodeEscape_chars_u hRb])
  case case8 =>
    intro A R _ _ _ hRb hR
    exact absurd hR.1 (by simp [hasUnicodeEscape_chars_u hRb])
  case case15 acc e rest p _ _ c hesc ih =>
    intro A R hacc hc hA hRb hR
    -- what was read, and the character the escape stands for, is closed
    have hx := isPlaceholderChar_shortEscape hesc
    have hR' : ¬ HasPlaceholder R := fun hp => hR.2 (hp.mono List.infix_append_left)
    refine ih (A ++ R ++ [c]) [] (by simp [hacc]) (closed_append_singleton hx)
      (not_hasPlaceholder_close hc hA hR' hx) (by simp) ?_
    exact hR.of_aligned (.chars hRb (.escape e (.refl rest)))
  case case19 acc c rest p _ _ _ hcons hnil _ ih =>
    intro A R hacc hc hA hRb hR
    have hcb := ne_backslash_of_not_escape hnil hcons
    exact ih A (R ++ [c]) (by simp [hacc]) hc hA
      (fun d hd => (List.mem_append.1 hd).elim (hRb d) fun h => List.mem_singleton.1 h ▸ hcb)
      (by simpa using hR)
  all_goals
    intro A R _ _ _ _ _ s rest p' h
    cases h

/-- A string read from a clean text holds no placeholder. -/
theorem readString_clean {cs : List Char} (hcs : CleanText cs) {p : Position} {s : String}
    {rest : List Char} {p' : Position} (h : readString cs p = .ok (s, rest, p')) : Clean s :=
  readStringFrom_clean [] cs p [] [] rfl (fun _ h => nomatch h) not_hasPlaceholder_nil (by simp)
    (by simpa using hcs) s rest p' h

/-! ## Strings and keys of a value -/

mutual

/-- The strings of a value and the keys of its objects, in order. -/
def Value.texts : Value → List String
  | .null | .bool _ | .number _ => []
  | .string s => [s]
  | .array vs => itemsTexts vs
  | .object ms => membersTexts ms

/-- The strings and keys of the items of an array. -/
def itemsTexts : List Value → List String
  | [] => []
  | v :: vs => v.texts ++ itemsTexts vs

/-- The keys of the members of an object, each with the strings and keys of its value. -/
def membersTexts : List (String × Value) → List String
  | [] => []
  | (k, v) :: ms => k :: (v.texts ++ membersTexts ms)

end

theorem mem_itemsTexts {t : String} {vs : List Value} :
    t ∈ itemsTexts vs ↔ ∃ v ∈ vs, t ∈ v.texts := by
  induction vs with
  | nil => simp [itemsTexts]
  | cons v vs ih => simp [itemsTexts, ih]

theorem mem_membersTexts {t : String} {ms : List (String × Value)} :
    t ∈ membersTexts ms ↔ ∃ m ∈ ms, t = m.1 ∨ t ∈ m.2.texts := by
  induction ms with
  | nil => simp [membersTexts]
  | cons m ms ih =>
    obtain ⟨k, v⟩ := m
    simp only [membersTexts, List.mem_cons, List.mem_append, ih, exists_eq_or_imp, or_assoc]

/-- No string and no key of a value holds a placeholder. -/
def Value.Clean (v : Value) : Prop := ∀ t ∈ v.texts, Template.Clean t

mutual

/-- Sorting writes no new string or key: a later member of an object replaces an earlier one with
its key, and nothing else changes. -/
theorem Value.texts_sorted : ∀ v : Value, ∀ t ∈ v.sorted.texts, t ∈ v.texts
  | .null, _, h | .bool _, _, h | .number _, _, h | .string _, _, h => h
  | .array vs, t, h => itemsTexts_sorted vs t h
  | .object ms, t, h => membersTexts_sorted ms t h

theorem itemsTexts_sorted : ∀ vs : List Value, ∀ t ∈ itemsTexts (sortedItems vs), t ∈ itemsTexts vs
  | [], _, h => h
  | v :: vs, t, h => by
    rw [sortedItems, itemsTexts, List.mem_append] at h
    rw [itemsTexts, List.mem_append]
    exact h.imp (v.texts_sorted t) (itemsTexts_sorted vs t)

theorem membersTexts_sorted :
    ∀ ms : List (String × Value), ∀ t ∈ membersTexts (sortedMembers ms), t ∈ membersTexts ms
  | [], _, h => h
  | (k, v) :: ms, t, h => by
    obtain ⟨m, hm, ht⟩ := mem_membersTexts.1 h
    rw [membersTexts, List.mem_cons, List.mem_append]
    -- the member is the one inserted last, or one of the members sorted before it
    rcases Members.mem_insert hm with rfl | hm
    · exact ht.imp id fun ht => .inl (v.texts_sorted t ht)
    · exact .inr (.inr (membersTexts_sorted ms t (mem_membersTexts.2 ⟨m, hm, ht⟩)))

end

theorem Value.Clean.sorted {v : Value} (h : v.Clean) : v.sorted.Clean :=
  fun t ht => h t (v.texts_sorted t ht)

/-! ## Readers that draw from their text -/

/-- Whenever `m` succeeds, it leaves what is left of its text after whole characters and escapes,
and when that text is clean its answer satisfies `Q`. -/
def Draws (m : Reader α) (Q : α → Prop) : Prop :=
  ∀ c a c', m.run c = .ok (a, c') → Aligned c.rest c'.rest ∧ (CleanText c.rest → Q a)

/-- `m` draws from its text when it starts where the next character satisfies `P`: a reader that
passes over a character it peeked, which it may do alone only when that is no backslash. -/
def DrawsAt (P : Option Char → Prop) (m : Reader α) (Q : α → Prop) : Prop :=
  ∀ c a c', P c.rest.head? → m.run c = .ok (a, c') →
    Aligned c.rest c'.rest ∧ (CleanText c.rest → Q a)

/-- Whenever `m` succeeds from a text whose next character satisfies `P`, `H` holds of its answer
and of the next character of what it leaves. -/
def LeavesAt (P : Option Char → Prop) (m : Reader α) (H : α → Option Char → Prop) : Prop :=
  ∀ c a c', P c.rest.head? → m.run c = .ok (a, c') → H a c'.rest.head?

theorem Draws.at {m : Reader α} {Q : α → Prop} (h : Draws m Q) (P : Option Char → Prop) :
    DrawsAt P m Q :=
  fun c a c' _ hr => h c a c' hr

namespace Draws

variable {m : Reader α} {Q R : α → Prop}

theorem mono (h : Draws m Q) (hQR : ∀ a, Q a → R a) : Draws m R := fun c a c' hr =>
  (h c a c' hr).imp_right fun hq hc => hQR a (hq hc)

theorem pure {a : α} (h : Q a) : Draws (Pure.pure a) Q := by
  intro c a' c' hr
  cases hr
  exact ⟨.refl _, fun _ => h⟩

end Draws

namespace DrawsAt

variable {P : Option Char → Prop} {m : Reader α} {Q : α → Prop}

theorem mono {R : α → Prop} (h : DrawsAt P m Q) (hQR : ∀ a, Q a → R a) : DrawsAt P m R :=
  fun c a c' hP hr => (h c a c' hP hr).imp_right fun hq hc => hQR a (hq hc)

/-- The second part of a composite reader starts where the first stopped, in the rest of a clean
text, which is clean. -/
theorem bind {f : α → Reader β} {R : β → Prop} (hm : DrawsAt P m Q)
    (hf : ∀ a, Draws (f a) fun b => Q a → R b) : DrawsAt P (m >>= f) R := by
  intro c b c' hP hr
  obtain ⟨a, c₁, h₁, h₂⟩ := Reader.run_bind_eq_ok hr
  obtain ⟨hs₁, hq⟩ := hm c a c₁ hP h₁
  obtain ⟨hs₂, hr₂⟩ := hf a c₁ b c' h₂
  exact ⟨hs₁.trans hs₂, fun hc => hr₂ (hc.of_aligned hs₁) (hq hc)⟩

/-- After a reader that answers nothing of interest. -/
theorem keep_bind {n : Reader β} {f : β → Reader α} (hn : DrawsAt P n fun _ => True)
    (hf : ∀ b, Draws (f b) Q) : DrawsAt P (n >>= f) Q :=
  hn.bind fun b => (hf b).mono fun _ h _ => h

end DrawsAt

namespace Draws

variable {m : Reader α} {Q R : α → Prop}

theorem bind {f : α → Reader β} {R : β → Prop} (hm : Draws m Q)
    (hf : ∀ a, Draws (f a) fun b => Q a → R b) : Draws (m >>= f) R :=
  fun c b c' hr => (hm.at (fun _ => True) |>.bind hf) c b c' trivial hr

/-- After a reader that answers nothing of interest. -/
theorem keep_bind {n : Reader β} {f : β → Reader α} (hn : Draws n fun _ => True)
    (hf : ∀ b, Draws (f b) Q) : Draws (n >>= f) Q :=
  hn.bind fun b => (hf b).mono fun _ h _ => h

/-- The second part starts at what the first leaves, which `H` tells of by the first's answer. -/
theorem bind_leaves {f : α → Reader β} {R : β → Prop} {H : α → Option Char → Prop}
    (hm : Draws m Q) (hl : LeavesAt (fun _ => True) m H)
    (hf : ∀ a, DrawsAt (H a) (f a) fun b => Q a → R b) : Draws (m >>= f) R := by
  intro c b c' hr
  obtain ⟨a, c₁, h₁, h₂⟩ := Reader.run_bind_eq_ok hr
  obtain ⟨hs₁, hq⟩ := hm c a c₁ h₁
  obtain ⟨hs₂, hr₂⟩ := hf a c₁ b c' (hl c a c₁ trivial h₁) h₂
  exact ⟨hs₁.trans hs₂, fun hc => hr₂ (hc.of_aligned hs₁) (hq hc)⟩

theorem keep_bind_leaves {n : Reader β} {f : β → Reader α} {H : β → Option Char → Prop}
    (hn : Draws n fun _ => True) (hl : LeavesAt (fun _ => True) n H)
    (hf : ∀ b, DrawsAt (H b) (f b) Q) : Draws (n >>= f) Q :=
  hn.bind_leaves hl fun b => (hf b).mono fun _ h _ => h

end Draws


namespace LeavesAt

variable {P : Option Char → Prop} {m : Reader α} {H : α → Option Char → Prop}

theorem pure {a : α} (h : ∀ x, P x → H a x) : LeavesAt P (Pure.pure a) H := by
  intro c a' c' hP hr
  cases hr
  exact h _ hP

/-- What a composite reader leaves is what its last part leaves. -/
theorem bind {f : β → Reader α} {n : Reader β} (hf : ∀ b, LeavesAt (fun _ => True) (f b) H) :
    LeavesAt P (n >>= f) H := by
  intro c a c' _ hr
  obtain ⟨b, c₁, -, h₂⟩ := Reader.run_bind_eq_ok hr
  exact hf b c₁ a c' trivial h₂

end LeavesAt

theorem Fails.draws {m : Reader α} (h : Fails m) (Q : α → Prop) : Draws m Q :=
  fun c a c' hr => absurd hr (h c a c')

theorem Fails.drawsAt {m : Reader α} (h : Fails m) (P : Option Char → Prop) (Q : α → Prop) :
    DrawsAt P m Q :=
  (h.draws Q).at P

theorem Fails.leavesAt {m : Reader α} (h : Fails m) (P : Option Char → Prop)
    (H : α → Option Char → Prop) : LeavesAt P m H :=
  fun c a c' _ hr => absurd hr (h c a c')

/-! ## Steps over the text -/

theorem get_draws : Draws (get : Reader Cursor) fun _ => True := by
  intro c a c' hr
  cases hr
  exact ⟨.refl _, fun _ => trivial⟩

theorem peekBlank_draws : Draws peekBlank fun _ => True := by
  intro c a c' hr
  cases hr
  exact ⟨skipBlank_aligned _ _, fun _ => trivial⟩

/-- A peek answers the next character of what it leaves. -/
theorem peekBlank_leaves : LeavesAt (fun _ => True) peekBlank fun x h => h = x := by
  intro c a c' _ hr
  cases hr
  rfl

/-- After a peek, a reader that draws from the text at the character peeked. -/
theorem Draws.peek_bind {f : Option Char → Reader α} {Q : α → Prop}
    (hf : ∀ x, DrawsAt (· = x) (f x) Q) : Draws (peekBlank >>= f) Q :=
  peekBlank_draws.keep_bind_leaves peekBlank_leaves hf

theorem LeavesAt.peek_bind {P : Option Char → Prop} {f : Option Char → Reader α}
    {H : α → Option Char → Prop} (hf : ∀ x, LeavesAt (· = x) (f x) H) :
    LeavesAt P (peekBlank >>= f) H := by
  intro c a c' _ hr
  obtain ⟨x, c₁, h₁, h₂⟩ := Reader.run_bind_eq_ok hr
  exact hf x c₁ a c' (peekBlank_leaves c x c₁ trivial h₁) h₂

/-- A character peeked that is no backslash. -/
theorem ne_backslash_of_peeked {c : Char} (hc : c ≠ '\\') :
    ∀ x : Option Char, x = some c → x ≠ some '\\' := by
  rintro _ rfl h
  exact hc (Option.some.inj h)

/-- Passing over the next character alone, when it is no backslash. -/
theorem bump_drawsAt {P : Option Char → Prop} (hP : ∀ x, P x → x ≠ some '\\') :
    DrawsAt P bump fun _ => True := by
  rintro ⟨rest, pos, depth⟩ a c' hx hr
  cases rest with
  | nil =>
    cases hr
    exact ⟨.refl _, fun _ => trivial⟩
  | cons ch rest =>
    cases hr
    exact ⟨.char (fun h => hP _ hx (by simp [h])) (.refl _), fun _ => trivial⟩

/-- Passing over a character peeked that is no backslash. -/
theorem bump_peeked {c : Char} (hc : c ≠ '\\') : DrawsAt (· = some c) bump fun _ => True :=
  bump_drawsAt (ne_backslash_of_peeked hc)

/-- A token reader that moves forward, and whose answers from a clean text satisfy `Q`. -/
theorem lex_draws {f : List Char → Position → Lexed α} {Q : α → Prop}
    (hf : ∀ cs p, Forward cs (f cs p))
    (hq : ∀ cs p a rest p', CleanText cs → f cs p = .ok (a, rest, p') → Q a) :
    Draws (lex f) Q := by
  intro c a c' hr
  cases hfc : f c.rest c.pos with
  | error e =>
    simp [lex, hfc] at hr
    cases hr
  | ok r =>
    obtain ⟨b, rest, p'⟩ := r
    simp [lex, hfc] at hr
    cases hr
    exact ⟨hf _ _ _ _ _ hfc, fun hc => hq _ _ _ _ _ hc hfc⟩

/-- A token reader that moves forward, read for its syntax only. -/
theorem lex_forward {f : List Char → Position → Lexed α} (hf : ∀ cs p, Forward cs (f cs p)) :
    Draws (lex f) fun _ => True :=
  lex_draws hf fun _ _ _ _ _ _ _ => trivial

/-- A string read from a clean text holds no placeholder. -/
theorem lex_readString_draws : Draws (lex readString) Template.Clean :=
  lex_draws (fun cs p => readStringFrom_forward [] cs p) fun _ _ _ _ _ hc h => readString_clean hc h

/-- Opening a container changes its depth only. -/
theorem enter_rest {c c' : Cursor} {u : Unit} (h : enter.run c = .ok (u, c')) : c'.rest = c.rest := by
  obtain ⟨c₀, c₀', hget, h⟩ := Reader.run_bind_eq_ok h
  cases hget
  by_cases hd : c.depth ≤ 1
  · rw [if_pos hd] at h
    exact absurd h (fail_peekPos_fails _ _ _ _)
  · rw [if_neg hd] at h
    cases h
    rfl

/-- What comes after a container is opened starts at the same next character. -/
theorem enter_bind_drawsAt {P : Option Char → Prop} {f : Unit → Reader α} {Q : α → Prop}
    (hf : DrawsAt P (f ()) Q) : DrawsAt P (enter >>= f) Q := by
  intro c a c' hP hr
  obtain ⟨u, c₁, h₁, h₂⟩ := Reader.run_bind_eq_ok hr
  have hrest := enter_rest h₁
  rw [← hrest]
  exact hf c₁ a c' (hrest ▸ hP) h₂

theorem leave_draws : Draws leave fun _ => True := by
  intro c u c' h
  cases h
  exact ⟨.refl _, fun _ => trivial⟩

/-- A literal word whose first letter was peeked: none of its letters is a backslash. -/
theorem literal_peeked {c : Char} {w : String} (hc : c ≠ '\\')
    (hw : ∀ d ∈ w.toList.drop 1, d ≠ '\\') : DrawsAt (· = some c) (literal w) fun _ => True :=
  (bump_peeked hc).keep_bind fun _ => lex_forward (readLiteral_forward _ hw)

theorem colon_draws : Draws colon fun _ => True := by
  refine Draws.peek_bind fun x => ?_
  split
  · exact bump_peeked (by decide)
  · exact (fail_peekPos_fails _).drawsAt _ _
  · exact (fail_peekPos_fails _).drawsAt _ _

/-- The separators between items keep to the text: each branch passes over characters, peeks
past blanks, answers or fails. After the first peek or a comma, a closing bracket is an error and
anything else an item. -/
theorem nextItem_draws (first : Bool) : Draws (nextItem first) fun _ => True := by
  unfold nextItem
  refine Draws.peek_bind fun x => ?_
  dsimp only
  split
  · exact (Draws.pure trivial).at _
  · split
    · refine (Draws.keep_bind (Draws.pure trivial) fun next => ?_).at _
      split
      · exact (fail_peekPos_fails _).draws _
      · exact Draws.pure trivial
      · exact (fail_peekPos_fails _).draws _
    · refine (bump_peeked (by decide)).keep_bind fun _ =>
        Draws.keep_bind peekBlank_draws fun next => ?_
      split
      · exact (fail_peekPos_fails _).draws _
      · exact Draws.pure trivial
      · exact (fail_peekPos_fails _).draws _
  · split
    · refine (Draws.keep_bind (Draws.pure trivial) fun next => ?_).at _
      split
      · exact (fail_peekPos_fails _).draws _
      · exact Draws.pure trivial
      · exact (fail_peekPos_fails _).draws _
    · exact (fail_then_fails _).drawsAt _ _
  · exact (fail_then_fails _).drawsAt _ _

/-- Only a closing bracket, peeked, tells that no item follows: past a separator an item is
announced or the reading fails. -/
theorem nextItem_leaves (first : Bool) :
    LeavesAt (fun _ => True) (nextItem first) fun b x => b = false → x = some ']' := by
  unfold nextItem
  refine LeavesAt.peek_bind fun x => ?_
  dsimp only
  split
  · exact LeavesAt.pure fun _ hx _ => hx
  · split
    · refine LeavesAt.bind fun next => ?_
      split
      · exact (fail_peekPos_fails _).leavesAt _ _
      · exact LeavesAt.pure fun _ _ h => absurd h (by decide)
      · exact (fail_peekPos_fails _).leavesAt _ _
    · refine LeavesAt.bind fun _ => LeavesAt.peek_bind fun next => ?_
      split
      · exact (fail_peekPos_fails _).leavesAt _ _
      · exact LeavesAt.pure fun _ _ h => absurd h (by decide)
      · exact (fail_peekPos_fails _).leavesAt _ _
  · split
    · refine LeavesAt.bind fun next => ?_
      split
      · exact (fail_peekPos_fails _).leavesAt _ _
      · exact LeavesAt.pure fun _ _ h => absurd h (by decide)
      · exact (fail_peekPos_fails _).leavesAt _ _
    · exact (fail_then_fails _).leavesAt _ _
  · exact (fail_then_fails _).leavesAt _ _

theorem DrawsAt.after_pure {P : Option Char → Prop} {a : β} {f : β → Reader α} {Q : α → Prop}
    (h : DrawsAt P (f a) Q) : DrawsAt P (Pure.pure a >>= f) Q := by
  rwa [pure_bind]

/-- The key of the next member, when there is one, is a string read from the text after its
quote, peeked. -/
theorem nextKey_draws (first : Bool) :
    Draws (nextKey first) fun key => ∀ k ∈ key, Template.Clean k := by
  unfold nextKey
  refine Draws.peek_bind fun x => ?_
  dsimp only
  have key : ∀ P : Option Char → Prop, (∀ y, P y → y ≠ some '\\') →
      DrawsAt P (do bump; return some (← lex readString)) fun key =>
        ∀ k ∈ key, Template.Clean k := fun P hP =>
    (bump_drawsAt hP).keep_bind fun _ => lex_readString_draws.bind fun s =>
      Draws.pure fun hs k hk => Option.some_inj.1 hk ▸ hs
  have none_key : Draws (Pure.pure none : Reader (Option String)) fun key =>
      ∀ k ∈ key, Template.Clean k :=
    Draws.pure fun _ h => nomatch h
  split
  · exact none_key.at _
  · split
    · refine DrawsAt.after_pure ?_
      split
      · rename_i heq
        simp at heq
      · exact (fail_peekPos_fails _).drawsAt _ _
      · exact (fail_peekPos_fails _).drawsAt _ _
      · exact (fail_peekPos_fails _).drawsAt _ _
    · refine (bump_peeked (by decide)).keep_bind fun _ =>
        Draws.peek_bind fun next => ?_
      split
      · exact key _ (ne_backslash_of_peeked (by decide))
      · exact (fail_peekPos_fails _).drawsAt _ _
      · exact (fail_peekPos_fails _).drawsAt _ _
      · exact (fail_peekPos_fails _).drawsAt _ _
  · split
    · refine DrawsAt.after_pure ?_
      split
      · -- the character peeked is the key's quote
        rename_i heq
        cases heq
        exact key _ (ne_backslash_of_peeked (by decide))
      · exact (fail_peekPos_fails _).drawsAt _ _
      · exact (fail_peekPos_fails _).drawsAt _ _
      · exact (fail_peekPos_fails _).drawsAt _ _
    · exact (fail_then_fails _).drawsAt _ _
  · exact (fail_then_fails _).drawsAt _ _

/-- Only a closing brace, peeked, tells that no member follows: past a separator a key is read or
the reading fails. -/
theorem nextKey_leaves (first : Bool) :
    LeavesAt (fun _ => True) (nextKey first) fun key x => key = none → x = some '}' := by
  unfold nextKey
  refine LeavesAt.peek_bind fun x => ?_
  dsimp only
  -- a key read answers `some`, which no closing brace has to follow
  have key : LeavesAt (fun _ => True) (do bump; return some (← lex readString))
      fun key x => key = none → x = some '}' :=
    LeavesAt.bind fun _ => LeavesAt.bind fun _ =>
      LeavesAt.pure fun _ _ h => absurd h (Option.some_ne_none _)
  split
  · exact LeavesAt.pure fun _ hx _ => hx
  · split
    · rw [pure_bind]
      split
      · rename_i heq
        simp at heq
      · exact (fail_peekPos_fails _).leavesAt _ _
      · exact (fail_peekPos_fails _).leavesAt _ _
      · exact (fail_peekPos_fails _).leavesAt _ _
    · refine LeavesAt.bind fun _ => LeavesAt.peek_bind fun next => ?_
      split
      · exact fun c a c' _ => key c a c' trivial
      · exact (fail_peekPos_fails _).leavesAt _ _
      · exact (fail_peekPos_fails _).leavesAt _ _
      · exact (fail_peekPos_fails _).leavesAt _ _
  · split
    · rw [pure_bind]
      split
      · exact fun c a c' _ => key c a c' trivial
      · exact (fail_peekPos_fails _).leavesAt _ _
      · exact (fail_peekPos_fails _).leavesAt _ _
      · exact (fail_peekPos_fails _).leavesAt _ _
    · exact (fail_then_fails _).leavesAt _ _
  · exact (fail_then_fails _).leavesAt _ _

/-! ## Items, entries and values -/

section Loops

variable {d : Decoder α} {G : α → Prop}

theorem items_draws : ∀ F, (∀ F' < F, Draws (d F') G) → ∀ (first : Bool) (acc : List α),
    Draws (Decoder.items d F first acc) fun xs => (∀ x ∈ acc, G x) → ∀ x ∈ xs, G x
  | 0, _, _, _ => (fail_here_fails _).draws _
  | F + 1, hd, first, acc => by
    rw [Decoder.items]
    refine (nextItem_draws first).keep_bind_leaves (nextItem_leaves first) fun b => ?_
    split
    · refine ((hd F (Nat.lt_succ_self F)).bind fun x => ?_).at _
      refine (items_draws F (fun F' h => hd F' (by omega)) false (x :: acc)).mono ?_
      intro xs h hx hacc
      exact h fun y hy => (List.mem_cons.1 hy).elim (fun h => h ▸ hx) (hacc y)
    · -- no item follows, so the bracket closing the array is next
      rename_i hb
      refine (bump_drawsAt fun x hx => ?_).keep_bind fun _ => Draws.pure ?_
      · exact ne_backslash_of_peeked (show ']' ≠ '\\' by decide) x (hx (by simpa using hb))
      · intro hacc x hx
        exact hacc x (List.mem_reverse.1 hx)

/-- The entries of an object: each key is read from the text, and each value by the decoder. -/
theorem entries_draws : ∀ F, (∀ F' < F, Draws (d F') G) → ∀ (first : Bool) (acc : Map α),
    Draws (Decoder.entries d F first acc) fun es =>
      (∀ e ∈ acc.entries, Template.Clean e.1 ∧ G e.2) → ∀ e ∈ es.entries, Template.Clean e.1 ∧ G e.2
  | 0, _, _, _ => (fail_here_fails _).draws _
  | F + 1, hd, first, acc => by
    rw [Decoder.entries]
    refine (nextKey_draws first).bind_leaves (nextKey_leaves first) fun key => ?_
    split
    · rename_i k
      refine (Draws.keep_bind colon_draws fun _ =>
        (hd F (Nat.lt_succ_self F)).bind fun v => ?_).at _
      refine (entries_draws F (fun F' h => hd F' (by omega)) false (acc.insert k v)).mono ?_
      intro es h hv hk hacc
      refine h fun e he => ?_
      rcases Members.mem_insert he with rfl | he
      · exact ⟨hk _ rfl, hv⟩
      · exact hacc e he
    · -- no member follows, so the brace closing the object is next
      refine (bump_drawsAt fun x hx => ?_).keep_bind fun _ => Draws.pure fun _ hacc => hacc
      exact ne_backslash_of_peeked (show '}' ≠ '\\' by decide) x (hx rfl)

end Loops

/-- A value read from a clean text: neither its strings nor its keys hold a placeholder. -/
theorem readValue_draws (F : Nat) : Draws (readValue F) Value.Clean := by
  induction F using Nat.strong_induction_on with
  | _ F ih =>
  cases F with
  | zero => exact (fail_here_fails _).draws _
  | succ F =>
  have hitems : Draws (readItems F true []) fun vs => ∀ v ∈ vs, v.Clean := by
    rw [readItems_eq]
    exact (items_draws F (fun F' h => ih F' (by omega)) true []).mono fun vs h => h nofun
  have hmembers : Draws (readMembers F true .empty) fun ms =>
      ∀ m ∈ ms.entries, Template.Clean m.1 ∧ m.2.Clean := by
    rw [readMembers_eq]
    exact (entries_draws F (fun F' h => ih F' (by omega)) true .empty).mono fun ms h => h nofun
  -- a value with no strings and no keys
  have scalar : ∀ v : Value, v.texts = [] → v.Clean := fun v hv t ht => by
    rw [hv] at ht
    exact absurd ht List.not_mem_nil
  rw [readValue]
  refine Draws.peek_bind fun x => ?_
  split
  · exact (fail_peekPos_fails _).drawsAt _ _
  · exact (literal_peeked (by decide) (by simp)).keep_bind fun _ => Draws.pure (scalar _ rfl)
  · exact (literal_peeked (by decide) (by simp)).keep_bind fun _ => Draws.pure (scalar _ rfl)
  · exact (literal_peeked (by decide) (by simp)).keep_bind fun _ => Draws.pure (scalar _ rfl)
  · refine (bump_peeked (by decide)).keep_bind fun _ =>
      lex_readString_draws.bind fun s => Draws.pure ?_
    intro hs t ht
    rw [List.mem_singleton.1 ht]
    exact hs
  · refine enter_bind_drawsAt <| (bump_peeked (by decide)).keep_bind fun _ =>
      hitems.bind fun vs => Draws.keep_bind leave_draws fun _ => Draws.pure ?_
    intro hvs t ht
    obtain ⟨v, hv, ht⟩ := mem_itemsTexts.1 ht
    exact hvs v hv t ht
  · refine enter_bind_drawsAt <| (bump_peeked (by decide)).keep_bind fun _ =>
      hmembers.bind fun ms => Draws.keep_bind leave_draws fun _ => Draws.pure ?_
    intro hms t ht
    obtain ⟨m, hm, rfl | ht⟩ := mem_membersTexts.1 ht
    · exact (hms m hm).1
    · exact (hms m hm).2 t ht
  · split
    · exact ((lex_forward readNumber_forward).bind fun _ => Draws.pure fun _ => scalar _ rfl).at _
    · exact (fail_peekPos_fails _).drawsAt _ _

/-! ## Values passed over -/

section Skipping

/-! Each skipper takes one step and hands on to the skippers at one less fuel; a step draws from
its text whenever those do. A skipper passes over a character alone only after it has peeked
it and seen a comma, a colon, a quote or a bracket. -/

variable {F : Nat}

theorem skipRest_succ_draws
    (hrest : ∀ frames afterValue, Draws (skipRest F frames afterValue) fun _ => True)
    (hmember : ∀ frames, Draws (skipMember F frames) fun _ => True) (frames : List Char)
    (afterValue : Bool) : Draws (skipRest (F + 1) frames afterValue) fun _ => True := by
  cases frames with
  | nil => exact Draws.pure trivial
  | cons frame outer =>
    rw [skipRest]
    refine Draws.peek_bind fun next => ?_
    dsimp only
    split
    · -- a comma
      rename_i hcomma
      refine (bump_drawsAt ?_).keep_bind fun _ => hmember _
      rintro _ rfl rfl
      simp at hcomma
    split
    · -- a closing bracket or brace
      rename_i hcloses
      refine (bump_drawsAt ?_).keep_bind fun _ => hrest _ _
      rintro _ rfl rfl
      simp at hcloses
    split
    · exact (fail_peekPos_fails _).drawsAt _ _
    split
    · exact (fail_peekPos_fails _).drawsAt _ _
    · exact (hmember _).at _

theorem skipMember_succ_draws (hat : ∀ frames, Draws (skipAt F frames) fun _ => True)
    (frames : List Char) : Draws (skipMember (F + 1) frames) fun _ => True := by
  rw [skipMember]
  dsimp only
  -- past a key and its colon, or at an item, what follows is a value
  split
  · refine Draws.peek_bind fun key => ?_
    split
    · refine (bump_peeked (by decide)).keep_bind fun _ =>
        Draws.keep_bind (lex_forward skipString_forward) fun _ => Draws.peek_bind fun colon => ?_
      split
      · exact (bump_peeked (by decide)).keep_bind fun _ => hat _
      · exact (fail_then_fails _).drawsAt _ _
      · exact (fail_then_fails _).drawsAt _ _
    · exact (fail_then_fails _).drawsAt _ _
    · exact (fail_then_fails _).drawsAt _ _
  · exact hat _

theorem skipAt_succ_draws
    (hrest : ∀ frames afterValue, Draws (skipRest F frames afterValue) fun _ => True)
    (frames : List Char) : Draws (skipAt (F + 1) frames) fun _ => True := by
  rw [skipAt]
  refine Draws.peek_bind fun next => ?_
  split
  · exact (fail_peekPos_fails _).drawsAt _ _
  · exact (literal_peeked (by decide) (by simp)).keep_bind fun _ => hrest _ _
  · exact (literal_peeked (by decide) (by simp)).keep_bind fun _ => hrest _ _
  · exact (literal_peeked (by decide) (by simp)).keep_bind fun _ => hrest _ _
  · exact (bump_peeked (by decide)).keep_bind fun _ =>
      Draws.keep_bind (lex_forward skipString_forward) fun _ => hrest _ _
  · exact (bump_peeked (by decide)).keep_bind fun _ => hrest _ _
  · exact (bump_peeked (by decide)).keep_bind fun _ => hrest _ _
  · split
    · exact (Draws.keep_bind (lex_forward skipNumber_forward) fun _ => hrest _ _).at _
    · exact (fail_peekPos_fails _).drawsAt _ _

end Skipping

/-- Passing over values keeps to the text, whatever the containers it is in, at every fuel. -/
theorem skip_draws (F : Nat) :
    (∀ frames afterValue, Draws (skipRest F frames afterValue) fun _ => True) ∧
      (∀ frames, Draws (skipMember F frames) fun _ => True) ∧
      ∀ frames, Draws (skipAt F frames) fun _ => True := by
  induction F with
  | zero =>
    refine ⟨fun _ _ => ?_, fun _ => ?_, fun _ => ?_⟩ <;>
      exact (fail_here_fails _).draws _
  | succ F ih =>
    obtain ⟨hrest, hmember, hat⟩ := ih
    exact ⟨skipRest_succ_draws hrest hmember, skipMember_succ_draws hat, skipAt_succ_draws hrest⟩

theorem skipValue_draws : Draws skipValue fun _ => True :=
  Draws.keep_bind get_draws fun _ => (skip_draws _).2.2 _

/-! ## Typed reading -/

theorem string_draws (F : Nat) : Draws (string F) Template.Clean := by
  dsimp only [Decoder.string]
  refine Draws.peek_bind fun x => ?_
  split
  · exact (fail_peekPos_fails _).drawsAt _ _
  · exact (bump_peeked (by decide)).keep_bind fun _ => lex_readString_draws
  · exact (invalidType_fails _).drawsAt _ _

/-- A value read from a clean text, its objects sorted: sorting writes no new string or key. -/
theorem value_draws (F : Nat) : Draws (value F) fun v => v.val.Clean :=
  (readValue_draws F).bind fun _ => Draws.pure fun hv => hv.sorted

theorem option_draws {d : Decoder α} {G : α → Prop} {F : Nat} (hd : Draws (d F) G) :
    Draws (option d F) fun o => ∀ a ∈ o, G a := by
  dsimp only [Decoder.option]
  refine Draws.peek_bind fun x => ?_
  split
  · exact (literal_peeked (by decide) (by simp)).keep_bind fun _ => Draws.pure fun a h => nomatch h
  · exact (hd.bind fun a => Draws.pure fun ha b hb => Option.some_inj.1 hb ▸ ha).at _

theorem list_draws {d : Decoder α} {G : α → Prop} (hd : ∀ F, Draws (d F) G) (F : Nat) :
    Draws (list d F) fun xs => ∀ x ∈ xs, G x := by
  dsimp only [Decoder.list]
  refine Draws.peek_bind fun x => ?_
  split
  · exact (fail_peekPos_fails _).drawsAt _ _
  · exact enter_bind_drawsAt <| (bump_peeked (by decide)).keep_bind fun _ =>
      (items_draws F (fun F' _ => hd F') true []).bind fun xs =>
        Draws.keep_bind leave_draws fun _ => Draws.pure fun h => h nofun
  · exact (invalidType_fails _).drawsAt _ _

theorem dict_draws {d : Decoder α} {G : α → Prop} (hd : ∀ F, Draws (d F) G) (F : Nat) :
    Draws (dict d F) fun es => ∀ e ∈ es.entries, Template.Clean e.1 ∧ G e.2 := by
  dsimp only [Decoder.dict]
  refine Draws.peek_bind fun x => ?_
  split
  · exact (fail_peekPos_fails _).drawsAt _ _
  · exact enter_bind_drawsAt <| (bump_peeked (by decide)).keep_bind fun _ =>
      (entries_draws F (fun F' _ => hd F') true .empty).bind fun es =>
        Draws.keep_bind leave_draws fun _ => Draws.pure fun h => h nofun
  · exact (invalidType_fails _).drawsAt _ _

/-! ## Records -/

/-- A change to a record keeps `Inv`. -/
def Preserves (Inv : β → Prop) (u : β → β) : Prop := ∀ r, Inv r → Inv (u r)

/-- A field whose value, read from a clean text, keeps the invariant when it is set. -/
theorem field_draws {key : String} {d : Decoder γ} {set : γ → β → β} {G : γ → Prop}
    {Inv : β → Prop} (hd : ∀ F, Draws (d F) G) (hset : ∀ x r, G x → Inv r → Inv (set x r))
    (F : Nat) : Draws ((field key d set).read F) (Preserves Inv) :=
  (hd F).bind fun x => Draws.pure fun hx r hr => hset x r hx hr

section Fields

variable {Inv : β → Prop}

theorem positional_draws {F : Nat} : ∀ (fields : List (Decoder.Field β)),
    (∀ f ∈ fields, Draws (f.read F) (Preserves Inv)) → ∀ (first : Bool) (r : β),
    Draws (positional F fields first r) fun r' => Inv r → Inv r'
  | [], _, _, _ => Draws.pure fun h => h
  | f :: fs, hf, first, r => by
    rw [positional]
    refine Draws.keep_bind (nextItem_draws first) fun b => ?_
    split
    · refine (hf f List.mem_cons_self).bind fun u => ?_
      refine (positional_draws fs (fun g hg => hf g (List.mem_cons_of_mem _ hg)) false (u r)).mono ?_
      intro r' h hu hr
      exact h (hu r hr)
    · exact Draws.pure fun h => h

theorem keyed_draws {fields : List (Decoder.Field β)}
    (hf : ∀ f ∈ fields, ∀ F, Draws (f.read F) (Preserves Inv)) :
    ∀ (F : Nat) (seen : List String) (first : Bool) (r : β),
    Draws (keyed fields F seen first r) fun r' => Inv r → Inv r'
  | 0, _, _, _ => (fail_here_fails _).draws _
  | F + 1, seen, first, r => by
    rw [keyed]
    -- the keys name fields and are not kept
    refine Draws.keep_bind_leaves ((nextKey_draws first).mono fun _ _ => trivial)
      (nextKey_leaves first) fun key => ?_
    split
    · refine (bump_drawsAt fun x hx => ?_).keep_bind fun _ => Draws.pure fun h => h
      exact ne_backslash_of_peeked (show '}' ≠ '\\' by decide) x (hx rfl)
    · refine Draws.at ?_ _
      split
      · rename_i f hfind
        split
        · exact (duplicate_fails _).draws _
        · refine Draws.keep_bind colon_draws fun _ =>
            (hf f (List.mem_of_find?_eq_some hfind) F).bind fun u => ?_
          refine (keyed_draws hf F _ false (u r)).mono ?_
          intro r' h hu hr
          exact h (hu r hr)
      · refine Draws.keep_bind colon_draws fun _ => Draws.keep_bind skipValue_draws fun _ => ?_
        exact keyed_draws hf F seen false r

end Fields

theorem endPositional_draws : Draws endPositional fun _ => True := by
  unfold endPositional
  refine Draws.peek_bind fun x => ?_
  split
  · exact bump_peeked (by decide)
  · refine (bump_peeked (by decide)).keep_bind fun _ => Draws.keep_bind peekBlank_draws fun y => ?_
    split
    · exact (fail_peekPos_fails _).draws _
    · exact (fail_peekPos_fails _).draws _
  · exact (fail_peekPos_fails _).drawsAt _ _
  · exact (fail_peekPos_fails _).drawsAt _ _

/-- A record read from a clean text: every field keeps the invariant, which the start holds, so
the record read from an array or an object holds it. -/
theorem record_draws {name : String} {init : β} {fields : List (Decoder.Field β)}
    (Inv : β → Prop) (hinit : Inv init)
    (hfields : List.Forall (fun f => ∀ F, Draws (Decoder.Field.read f F) (Preserves Inv)) fields)
    (F : Nat) : Draws (record name init fields F) Inv := by
  have hf := List.forall_iff_forall_mem.1 hfields
  dsimp only [Decoder.record]
  refine Draws.peek_bind fun x => ?_
  split
  · exact (fail_peekPos_fails _).drawsAt _ _
  · exact enter_bind_drawsAt <| (bump_peeked (by decide)).keep_bind fun _ =>
      (positional_draws fields (fun f hf' => hf f hf' F) true init).bind fun r =>
        Draws.keep_bind endPositional_draws fun _ => Draws.keep_bind leave_draws fun _ =>
          Draws.pure fun h => h hinit
  · exact enter_bind_drawsAt <| (bump_peeked (by decide)).keep_bind fun _ =>
      (keyed_draws hf F [] true init).bind fun r =>
        Draws.keep_bind leave_draws fun _ => Draws.pure fun h => h hinit
  · exact (invalidType_fails _).drawsAt _ _

/-! ## Whole texts -/

/-- What a whole clean text read by a decoder that draws holds satisfies what the decoder
promises. -/
theorem readText_draws {d : Decoder α} {G : α → Prop} (hd : ∀ F, Draws (d F) G) {s : String}
    {a : α} (h : readText d s = .ok a) (hs : CleanText s.toList) : G a := by
  unfold readText at h
  rw [StateT.run'_eq] at h
  cases hr : (d (budget s) >>= fun x => do finish; Pure.pure x).run (Cursor.ofString s) with
  | error e => rw [hr] at h; cases h
  | ok p =>
    rw [hr] at h
    cases h
    obtain ⟨x, c₁, h₁, h₂⟩ := Reader.run_bind_eq_ok hr
    have hx : (finish >>= fun _ => Pure.pure x : Reader α).run c₁ = .ok (p.1, p.2) := h₂
    obtain ⟨_, _, -, hx⟩ := Reader.run_bind_eq_ok hx
    cases hx
    exact (hd _ _ _ c₁ h₁).2 hs

end Json

end DataProduct
