import DataProduct.Json.Token

/-!
# Token readers move forward

A token reader reads from the front of its characters and hands back the ones after the token.
It reads whole characters and whole escapes: a backslash is read together with the character
after it. So what it leaves is `Aligned` in what it was given (`Forward`), in particular a suffix
of it, and no escape is ever cut in two. The readers of values are built from these and from steps
over single characters, so they too only move forward through their text.

* `Aligned`: what is left after whole characters and whole escapes;
* `skipBlank_aligned`, `readLiteral_forward`: blanks and the letters of a literal;
* `readStringFrom_forward`, `skipString_forward`: a string body, decoded or checked;
* `readNumber_forward`, `skipNumber_forward`: a number, through each of its parts.
-/

namespace DataProduct.Json

variable {α : Type}

/-- `rest` is what is left of `cs` once whole characters and whole escapes are read from its front:
a character read alone is no backslash, and a backslash is read with the character after it. -/
inductive Aligned : List Char → List Char → Prop
  | refl (cs : List Char) : Aligned cs cs
  | char {c : Char} {cs rest : List Char} : c ≠ '\\' → Aligned cs rest → Aligned (c :: cs) rest
  | escape (e : Char) {cs rest : List Char} : Aligned cs rest → Aligned ('\\' :: e :: cs) rest

namespace Aligned

theorem suffix {cs rest : List Char} (h : Aligned cs rest) : rest <:+ cs := by
  induction h with
  | refl => exact List.suffix_refl _
  | char _ _ ih => exact ih.trans (List.suffix_cons _ _)
  | escape e _ ih => exact ih.trans (List.suffix_append ['\\', e] _)

theorem trans {cs₁ cs₂ cs₃ : List Char} (h₁ : Aligned cs₁ cs₂) (h₂ : Aligned cs₂ cs₃) :
    Aligned cs₁ cs₃ := by
  induction h₁ with
  | refl => exact h₂
  | char hc _ ih => exact .char hc (ih h₂)
  | escape e _ ih => exact .escape e (ih h₂)

/-- Characters read one by one, none of them a backslash. -/
theorem chars {pre cs rest : List Char} (hpre : ∀ c ∈ pre, c ≠ '\\') (h : Aligned cs rest) :
    Aligned (pre ++ cs) rest := by
  induction pre with
  | nil => exact h
  | cons c pre ih =>
    exact .char (hpre c List.mem_cons_self) (ih fun d hd => hpre d (List.mem_cons_of_mem _ hd))

end Aligned

/-- Every answer of the token reader's result `r`, run on `cs`, leaves what is left of `cs` after
whole characters and whole escapes. -/
def Forward (cs : List Char) (r : Lexed α) : Prop :=
  ∀ a rest p, r = .ok (a, rest, p) → Aligned cs rest

namespace Forward

theorem error {cs : List Char} (e : ReadError) : Forward cs (.error e : Lexed α) := by
  intro a rest p h
  cases h

/-- A reader that reads nothing leaves all it was given. -/
theorem ok_self {cs : List Char} (a : α) (p : Position) : Forward cs (.ok (a, cs, p)) := by
  intro a' rest p' h
  cases h
  exact .refl _

theorem of_aligned {cs cs' : List Char} {r : Lexed α} (h : Forward cs r) (hs : Aligned cs' cs) :
    Forward cs' r :=
  fun a rest p hr => hs.trans (h a rest p hr)

/-- A reader that goes on after characters that are no backslash moves forward from before them. -/
theorem after {cs : List Char} {r : Lexed α} (pre : List Char) (hpre : ∀ c ∈ pre, c ≠ '\\')
    (h : Forward cs r) : Forward (pre ++ cs) r :=
  h.of_aligned (.chars hpre (.refl cs))

theorem char {cs : List Char} {r : Lexed α} {c : Char} (hc : c ≠ '\\') (h : Forward cs r) :
    Forward (c :: cs) r :=
  h.of_aligned (.char hc (.refl cs))

/-- A reader that goes on after an escape moves forward from before it. -/
theorem escape {cs : List Char} {r : Lexed α} (e : Char) (h : Forward cs r) :
    Forward ('\\' :: e :: cs) r :=
  h.of_aligned (.escape e (.refl cs))

end Forward

/-! ## Blanks, literals and strings -/

theorem ne_backslash_of_isBlank {c : Char} (h : isBlank c = true) : c ≠ '\\' := by
  rintro rfl
  exact absurd h (by decide)

theorem skipBlank_aligned (cs : List Char) (p : Position) : Aligned cs (skipBlank cs p).1 := by
  induction cs generalizing p with
  | nil => exact .refl _
  | cons c cs ih =>
    unfold skipBlank
    split
    · exact .char (ne_backslash_of_isBlank ‹_›) (ih _)
    · exact .refl _

/-- The letters of a literal with no backslash among them. -/
theorem readLiteral_forward (es : List Char) (hes : ∀ e ∈ es, e ≠ '\\') (cs : List Char)
    (p : Position) : Forward cs (readLiteral es cs p) := by
  induction es generalizing cs p with
  | nil => exact .ok_self _ _
  | cons e es ih =>
    cases cs with
    | nil => exact .error _
    | cons c cs =>
      unfold readLiteral
      split
      · rename_i hc
        exact (ih (fun d hd => hes d (List.mem_cons_of_mem _ hd)) _ _).char
          (hc ▸ hes e List.mem_cons_self)
      · exact .error _

/-- The four characters of a `\u` escape's code are hex digits, and none is a backslash. -/
theorem hex4_ne_backslash {a b c d : Char} {n : Nat} (h : hex4 a b c d = some n) :
    ∀ x ∈ [a, b, c, d], x ≠ '\\' := by
  have hb : hexValue '\\' = none := by decide
  simp only [List.mem_cons, List.not_mem_nil, or_false]
  rintro x (rfl | rfl | rfl | rfl) rfl <;> simp [hex4, hb] at h

/-- A character that opens no escape, whatever follows it, is no backslash. -/
theorem ne_backslash_of_not_escape {c : Char} {rest : List Char}
    (hnil : c = '\\' → rest = [] → False) (hcons : ∀ e r, c = '\\' → rest = e :: r → False) :
    c ≠ '\\' := fun hc => by
  cases rest with
  | nil => exact hnil hc rfl
  | cons e r => exact hcons e r hc rfl

/-- A string body is read up to its closing quote; each escape and each character is passed over
before the reading goes on. -/
theorem readStringFrom_forward (acc cs : List Char) (p : Position) :
    Forward cs (readStringFrom acc cs p) := by
  fun_induction readStringFrom acc cs p
  case case2 => exact (Forward.ok_self _ _).char (by decide)
  case case5 hhex _ _ ih => exact (ih.after _ (hex4_ne_backslash hhex)).escape 'u'
  case case8 hhex _ _ _ _ _ _ _ _ hhex' _ _ ih =>
    exact ((ih.after _ (hex4_ne_backslash hhex')).escape 'u' |>.after _
      (hex4_ne_backslash hhex)).escape 'u'
  case case15 ih => exact ih.escape _
  case case19 _ _ hcons hnil _ ih => exact ih.char (ne_backslash_of_not_escape hnil hcons)
  all_goals exact .error _

theorem skipString_forward (cs : List Char) (p : Position) : Forward cs (skipString cs p) := by
  fun_induction skipString cs p
  case case2 => exact (Forward.ok_self _ _).char (by decide)
  case case3 hhex ih => exact (ih.after _ (hex4_ne_backslash hhex)).escape 'u'
  case case6 ih => exact ih.escape _
  case case10 _ _ hcons hnil _ ih => exact ih.char (ne_backslash_of_not_escape hnil hcons)
  all_goals exact .error _

/-! ## Numbers -/

theorem ne_backslash_of_isDigit {c : Char} (h : c.isDigit = true) : c ≠ '\\' := by
  rintro rfl
  exact absurd h (by decide)

theorem ne_backslash_of_exponent {c : Char} (h : c = 'e' ∨ c = 'E') : c ≠ '\\' := by
  rcases h with rfl | rfl <;> decide

section Numbers

variable (positive : Bool) (sig : Nat)

theorem finishNumber_forward (e : Int) (cs : List Char) (p : Position) :
    Forward cs (finishNumber positive sig e cs p) := by
  unfold finishNumber
  split
  · exact .ok_self _ _
  · exact .error _

theorem exponentOverflow_forward (nonZero positiveExp : Bool) (cs : List Char) (p : Position) :
    Forward cs (exponentOverflow positive nonZero positiveExp cs p) := by
  fun_induction exponentOverflow positive nonZero positiveExp cs p
  case case2 hd ih => exact ih.char (ne_backslash_of_isDigit hd)
  case case3 => exact .ok_self _ _
  case case5 => exact .ok_self _ _
  all_goals exact .error _

theorem exponentDigits_forward (start : Int) (positiveExp : Bool) (exp : Nat) (cs : List Char)
    (p : Position) : Forward cs (exponentDigits positive sig start positiveExp exp cs p) := by
  fun_induction exponentDigits positive sig start positiveExp exp cs p
  case case1 hd _ _ => exact (exponentOverflow_forward _ _ _ _ _).char (ne_backslash_of_isDigit hd)
  case case2 hd _ _ ih => exact ih.char (ne_backslash_of_isDigit hd)
  all_goals exact finishNumber_forward _ _ _ _ _

theorem readExponent_forward (start : Int) (cs : List Char) (p : Position) :
    Forward cs (readExponent positive sig start cs p) := by
  unfold readExponent
  dsimp only
  split
  · exact .error _
  · rename_i c rest heq
    split
    · rename_i hc
      -- the digits come after the sign, when there is one
      have hd : ∀ pe ex q, Forward (c :: rest) (exponentDigits positive sig start pe ex rest q) :=
        fun pe ex q => (exponentDigits_forward positive sig start pe ex rest q).char
          (ne_backslash_of_isDigit hc)
      split at heq <;> dsimp only at heq ⊢ <;> subst heq
      · exact (hd _ _ _).char (by decide)
      · exact (hd _ _ _).char (by decide)
      · exact hd _ _ _
    · exact .error _

theorem fractionOverflow_forward (e : Int) (cs : List Char) (p : Position) :
    Forward cs (fractionOverflow positive sig e cs p) := by
  fun_induction fractionOverflow positive sig e cs p
  case case1 hd ih => exact ih.char (ne_backslash_of_isDigit hd)
  case case2 he => exact (readExponent_forward _ _ _ _ _).char (ne_backslash_of_exponent he)
  all_goals exact finishNumber_forward _ _ _ _ _

theorem fractionDigits_forward (e : Int) (count : Nat) (cs : List Char) (p : Position) :
    Forward cs (fractionDigits positive sig e count cs p) := by
  fun_induction fractionDigits positive sig e count cs p
  case case1 => exact fractionOverflow_forward _ _ _ _ _
  case case2 hd _ ih => exact ih.char (ne_backslash_of_isDigit hd)
  case case4 he => exact (readExponent_forward _ _ _ _ _).char (ne_backslash_of_exponent he)
  case case5 => exact finishNumber_forward _ _ _ _ _
  case case7 => exact finishNumber_forward _ _ _ _ _
  all_goals exact .error _

theorem longDigits_forward (e : Int) (cs : List Char) (p : Position) :
    Forward cs (longDigits positive sig e cs p) := by
  fun_induction longDigits positive sig e cs p
  case case1 hd ih => exact ih.char (ne_backslash_of_isDigit hd)
  case case2 => exact (fractionDigits_forward _ _ _ _ _ _).char (by decide)
  case case3 he => exact (readExponent_forward _ _ _ _ _).char (ne_backslash_of_exponent he)
  all_goals exact finishNumber_forward _ _ _ _ _

theorem afterInteger_forward (cs : List Char) (p : Position) :
    Forward cs (afterInteger positive sig cs p) := by
  unfold afterInteger
  split
  · exact (fractionDigits_forward _ _ _ _ _ _).char (by decide)
  · exact (readExponent_forward _ _ _ _ _).char (by decide)
  · exact (readExponent_forward _ _ _ _ _).char (by decide)
  · split
    · exact .ok_self _ _
    split
    · exact .ok_self _ _
    split
    · exact .ok_self _ _
    · exact .ok_self _ _

theorem integerDigits_forward (cs : List Char) (p : Position) :
    Forward cs (integerDigits positive sig cs p) := by
  fun_induction integerDigits positive sig cs p
  case case1 => exact longDigits_forward _ _ _ _ _
  case case2 hd _ ih => exact ih.char (ne_backslash_of_isDigit hd)
  all_goals exact afterInteger_forward _ _ _ _

theorem readUnsigned_forward (cs : List Char) (p : Position) :
    Forward cs (readUnsigned positive cs p) := by
  unfold readUnsigned
  split
  · exact .error _
  · split
    · split
      · exact .error _
      · exact (afterInteger_forward _ _ _ _).char (by decide)
    · exact (afterInteger_forward _ _ _ _).char (by decide)
  · split
    · rename_i hd
      exact (integerDigits_forward _ _ _ _).char (ne_backslash_of_isDigit hd)
    · exact .error _

end Numbers

theorem readNumber_forward (cs : List Char) (p : Position) : Forward cs (readNumber cs p) := by
  unfold readNumber
  split
  · exact (readUnsigned_forward _ _ _).char (by decide)
  · exact readUnsigned_forward _ _ _

/-! ## Numbers passed over -/

theorem skipDigits_aligned (cs : List Char) (p : Position) : Aligned cs (skipDigits cs p).1 := by
  induction cs generalizing p with
  | nil => exact .refl _
  | cons c cs ih =>
    unfold skipDigits
    split
    · exact .char (ne_backslash_of_isDigit ‹_›) (ih _)
    · exact .refl _

/-- Digits passed over, and what follows them. -/
theorem forward_skipDigits (cs : List Char) (p : Position) :
    Forward cs (.ok ((), (skipDigits cs p).1, (skipDigits cs p).2)) := by
  intro a rest p' h
  cases h
  exact skipDigits_aligned cs p

theorem skipExponent_forward (cs : List Char) (p : Position) : Forward cs (skipExponent cs p) := by
  unfold skipExponent
  dsimp only
  split
  · rename_i c rest heq
    split
    · rename_i hc
      -- the digits come after the sign, when there is one
      have hd : ∀ q, Forward (c :: rest) (.ok ((), (skipDigits rest q).1, (skipDigits rest q).2)) :=
        fun q => (forward_skipDigits rest q).char (ne_backslash_of_isDigit hc)
      split at heq <;> dsimp only at heq ⊢ <;> subst heq
      · exact (hd _).char (by decide)
      · exact (hd _).char (by decide)
      · exact hd _
    · exact .error _
  · exact .error _

theorem skipAfterInteger_forward (cs : List Char) (p : Position) :
    Forward cs (skipAfterInteger cs p) := by
  unfold skipAfterInteger
  split
  · rename_i rest
    split
    · rename_i c more
      split
      · -- a fraction's digits, then an exponent if one follows
        have hd : Aligned ('.' :: c :: more) (skipDigits (c :: more) (p.right 1)).1 :=
          .char (by decide) (skipDigits_aligned _ _)
        dsimp only
        split
        · rename_i heq
          rw [heq] at hd
          exact ((skipExponent_forward _ _).char (by decide)).of_aligned hd
        · rename_i heq
          rw [heq] at hd
          exact ((skipExponent_forward _ _).char (by decide)).of_aligned hd
        · exact (Forward.ok_self _ _).of_aligned hd
      · exact .error _
    · exact .error _
  · exact (skipExponent_forward _ _).char (by decide)
  · exact (skipExponent_forward _ _).char (by decide)
  · exact .ok_self _ _

theorem skipUnsigned_forward (cs : List Char) (p : Position) : Forward cs (skipUnsigned cs p) := by
  unfold skipUnsigned
  split
  · exact .error _
  · split
    · split
      · exact .error _
      · exact (skipAfterInteger_forward _ _).char (by decide)
    · exact (Forward.ok_self _ _).char (by decide)
  · split
    · rename_i c rest _ hc
      dsimp only
      exact (skipAfterInteger_forward _ _).of_aligned
        (.char (ne_backslash_of_isDigit hc) (skipDigits_aligned rest _))
    · exact .error _

theorem skipNumber_forward (cs : List Char) (p : Position) : Forward cs (skipNumber cs p) := by
  unfold skipNumber
  split
  · exact (skipUnsigned_forward _ _).char (by decide)
  · exact skipUnsigned_forward _ _

end DataProduct.Json
