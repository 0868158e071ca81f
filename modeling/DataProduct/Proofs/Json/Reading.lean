import DataProduct.Proofs.Json.Layout
import DataProduct.Json.Reader

/-!
# Reading written tokens back

`Reads m cs a ok d` says that the reader `m` takes exactly the characters `cs` off the front of a
text and answers `a`, whatever follows them that `ok` admits, wherever the text stands and however
many containers may still be opened, as long as that is `d` or more. Readers in sequence read
the characters in sequence (`Reads.bind`), so what a reader reads back follows from what its
parts read back, down to the tokens:

* blanks, passed over before the next character (`peekBlank_reads`);
* the literal words (`literal_reads`);
* a quoted string, read back as the string (`readString_quote`);
* the text of an integer in the 64-bit ranges, read back as that integer (`readNumber_text`),
  provided what follows cannot continue a number (`Follows`);
* a container, whose reading opens one level and gives it back (`Reads.enclose`).
-/

namespace DataProduct.Json

open Reader

/-- What may follow a value: the end of the text, a comma, a closing bracket or a blank. -/
def Follows (rest : List Char) : Prop :=
  ∀ c ∈ rest.head?, c = ',' ∨ c = ']' ∨ c = '}' ∨ isBlank c = true

/-- `m` takes `cs` off the front of a text and answers `a`, whatever follows that `ok` admits,
wherever the text stands, with `d` or more containers left to open; that number it leaves as it
found it. -/
def Reads {α : Type} (m : Reader α) (cs : List Char) (a : α) (ok : List Char → Prop) (d : Nat) :
    Prop :=
  ∀ rest pos depth, ok rest → d ≤ depth →
    ∃ pos', m.run ⟨cs ++ rest, pos, depth⟩ = .ok (a, ⟨rest, pos', depth⟩)

theorem Reader.run_bind_ok {α β : Type} {m : Reader α} {f : α → Reader β} {c c' : Cursor} {a : α}
    (h : m.run c = .ok (a, c')) : (m >>= f).run c = (f a).run c' := by
  rw [StateT.run_bind, h]
  rfl

namespace Reads

variable {α β : Type} {m : Reader α} {cs cs' : List Char} {a : α} {ok ok' : List Char → Prop}
  {d : Nat}

/-- Readers in sequence read their texts in sequence. -/
theorem bind {f : α → Reader β} {b : β} (hm : Reads m cs a ok d) (hf : Reads (f a) cs' b ok' d)
    (hok : ∀ r, ok' r → ok (cs' ++ r)) : Reads (m >>= f) (cs ++ cs') b ok' d := by
  intro rest pos depth hr hd
  obtain ⟨p₁, h₁⟩ := hm (cs' ++ rest) pos depth (hok rest hr) hd
  obtain ⟨p₂, h₂⟩ := hf rest p₁ depth hr hd
  exact ⟨p₂, by rw [List.append_assoc, Reader.run_bind_ok h₁, h₂]⟩

theorem pure : Reads (Pure.pure a : Reader α) [] a ok d :=
  fun _ pos _ _ _ => ⟨pos, rfl⟩

theorem pure_bind {f : α → Reader β} {b : β} (h : Reads (f a) cs b ok d) :
    Reads (Pure.pure a >>= f) cs b ok d := by
  simpa using h

/-- A reader followed by a function of its answer. -/
theorem map {f : α → β} (hm : Reads m cs a ok d) :
    Reads (m >>= fun x => Pure.pure (f x)) cs (f a) ok d := by
  have h : Reads (m >>= fun x => Pure.pure (f x)) (cs ++ []) (f a) ok d :=
    hm.bind pure (fun r h => h)
  rwa [List.append_nil] at h

theorem mono {d' : Nat} (hm : Reads m cs a ok d) (hok : ∀ r, ok' r → ok r) (hd : d ≤ d') :
    Reads m cs a ok' d' :=
  fun rest pos depth hr hd' => hm rest pos depth (hok rest hr) (Nat.le_trans hd hd')

/-- A reader that looks at nothing past its text reads it before anything. -/
theorem anywhere (hm : Reads m cs a (fun _ => True) d) : Reads m cs a ok d :=
  hm.mono (fun _ _ => trivial) (Nat.le_refl d)

end Reads

/-! ## Blanks and single characters -/

theorem skipBlank_append {bs : List Char} (hbs : ∀ c ∈ bs, isBlank c = true) (cs : List Char)
    (p : Position) : ∃ p', skipBlank (bs ++ cs) p = skipBlank cs p' := by
  induction bs generalizing p with
  | nil => exact ⟨p, rfl⟩
  | cons b bs ih =>
    obtain ⟨p', h⟩ := ih (fun c hc => hbs c (List.mem_cons_of_mem _ hc)) (p.step b)
    refine ⟨p', ?_⟩
    rw [List.cons_append, skipBlank, if_pos (hbs b List.mem_cons_self), h]

theorem skipBlank_of_not_blank {c : Char} (hc : isBlank c = false) (cs : List Char) (p : Position) :
    skipBlank (c :: cs) p = (c :: cs, p) := by
  rw [skipBlank, if_neg (by simp [hc])]

/-- Looking for the next character passes over the blanks before it. -/
theorem peekBlank_reads {bs : List Char} (hbs : ∀ c ∈ bs, isBlank c = true) {c : Char}
    (hc : isBlank c = false) {d : Nat} : Reads peekBlank bs (some c) (fun r => r.head? = some c) d := by
  intro rest pos depth hr _
  obtain ⟨r, rfl⟩ : ∃ r, rest = c :: r := by
    cases rest with
    | nil => cases hr
    | cons c' r => cases hr; exact ⟨r, rfl⟩
  obtain ⟨p', hp⟩ := skipBlank_append hbs (c :: r) pos
  refine ⟨p', ?_⟩
  show Except.ok ((skipBlank _ pos).1.head?, _) = _
  rw [hp, skipBlank_of_not_blank hc]
  rfl

theorem bump_reads (c : Char) {d : Nat} : Reads bump [c] () (fun _ => True) d :=
  fun _ pos _ _ _ => ⟨pos.step c, rfl⟩

/-- A token reader that reads `cs` back, run at the cursor. -/
theorem lex_reads {f : List Char → Position → Lexed α} {cs : List Char} {a : α}
    {ok : List Char → Prop} {d : Nat}
    (h : ∀ rest p, ok rest → ∃ p', f (cs ++ rest) p = .ok (a, rest, p')) :
    Reads (lex f) cs a ok d := by
  intro rest pos depth hr _
  obtain ⟨p', hp⟩ := h rest pos hr
  refine ⟨p', ?_⟩
  simp [lex, hp]
  rfl

/-- A container: its opening bracket takes one level, its contents are read inside, and the level
is given back. -/
theorem Reads.enclose {α β : Type} {inner : Reader β} {cs : List Char} {b : β}
    {ok : List Char → Prop} {d : Nat} (f : β → α) (c : Char) (h : Reads inner cs b ok d)
    (hd : 1 ≤ d) :
    Reads (do enter; bump; let x ← inner; leave; return f x) (c :: cs) (f b) ok (d + 1) := by
  intro rest pos depth hr hdd
  obtain ⟨p', hp⟩ := h rest (pos.step c) (depth - 1) hr (by omega)
  refine ⟨p', ?_⟩
  have henter : StateT.run enter (⟨c :: cs ++ rest, pos, depth⟩ : Cursor) =
      .ok ((), ⟨c :: cs ++ rest, pos, depth - 1⟩) := by
    simp [enter, show ¬depth ≤ 1 by omega]
    rfl
  have hbump : StateT.run bump (⟨c :: cs ++ rest, pos, depth - 1⟩ : Cursor) =
      .ok ((), ⟨cs ++ rest, pos.step c, depth - 1⟩) := rfl
  rw [Reader.run_bind_ok henter, Reader.run_bind_ok hbump, Reader.run_bind_ok hp]
  show Except.ok (f b, (⟨rest, p', depth - 1 + 1⟩ : Cursor)) = _
  rw [Nat.sub_add_cancel (by omega)]

/-! ## Literal words -/

theorem readLiteral_append (es rest : List Char) (p : Position) :
    ∃ p', readLiteral es (es ++ rest) p = .ok ((), rest, p') := by
  induction es generalizing p with
  | nil => exact ⟨p, rfl⟩
  | cons e es ih =>
    obtain ⟨p', h⟩ := ih (p.step e)
    exact ⟨p', by rw [List.cons_append, readLiteral, if_pos rfl, h]⟩

/-- A literal word is read through to its end. -/
theorem literal_reads {w : String} {c : Char} {cs : List Char} (hw : w.toList = c :: cs) {d : Nat} :
    Reads (literal w) (c :: cs) () (fun _ => True) d := by
  have h : Reads (bump >>= fun _ => lex (readLiteral cs)) ([c] ++ cs) () (fun _ => True) d :=
    (bump_reads c).bind (lex_reads fun rest p _ => readLiteral_append cs rest p)
      (fun _ _ => trivial)
  simpa [literal, hw] using h

/-! ## Strings -/

/-- The characters of a string between its quotes. -/
def escaped (s : List Char) : List Char := s.flatMap escapeChar

theorem quote_toList (s : String) : (quote s).toList = '"' :: (escaped s.toList ++ ['"']) := by
  simp [quote, escaped]

/-- The four hex digits of a control character's escape give it back. -/
theorem hex4_escape : ∀ n, n < 0x20 → hex4 '0' '0' (hexChar (n / 16)) (hexChar (n % 16)) = some n := by
  decide

/-- A character written with its escape is read back. -/
theorem readStringFrom_escapeChar (acc : List Char) (c : Char) (cs : List Char) (p : Position) :
    ∃ p', readStringFrom acc (escapeChar c ++ cs) p = readStringFrom (c :: acc) cs p' := by
  unfold escapeChar
  split
  · exact ⟨_, readStringFrom.eq_5 _ _ _ _ (by simp) (by simp)⟩
  · exact ⟨_, readStringFrom.eq_5 _ _ _ _ (by simp) (by simp)⟩
  · exact ⟨_, readStringFrom.eq_5 _ _ _ _ (by simp) (by simp)⟩
  · exact ⟨_, readStringFrom.eq_5 _ _ _ _ (by simp) (by simp)⟩
  · exact ⟨_, readStringFrom.eq_5 _ _ _ _ (by simp) (by simp)⟩
  · rename_i hq hb hn hr ht
    by_cases h8 : c.toNat = 8
    · refine ⟨p.right 2, ?_⟩
      rw [if_pos h8, List.cons_append, List.cons_append, List.nil_append,
        readStringFrom.eq_5 _ _ _ _ (by simp) (by simp)]
      rw [← Char.ofNat_toNat c, h8]
      rfl
    by_cases h12 : c.toNat = 12
    · refine ⟨p.right 2, ?_⟩
      rw [if_neg h8, if_pos h12, List.cons_append, List.cons_append, List.nil_append,
        readStringFrom.eq_5 _ _ _ _ (by simp) (by simp)]
      rw [← Char.ofNat_toNat c, h12]
      rfl
    by_cases hlow : c.toNat < 0x20
    · -- the other control characters go as four hex digits
      refine ⟨p.right 6, ?_⟩
      have ht : isTrailing c.toNat = false := by simp [isTrailing]; omega
      have hl : isLeading c.toNat = false := by simp [isLeading]; omega
      rw [if_neg h8, if_neg h12, if_pos hlow]
      simp only [List.cons_append, List.nil_append]
      rw [readStringFrom.eq_3, hex4_escape _ hlow]
      simp only [ht, hl, Bool.not_false, if_true, Bool.false_eq_true, if_false, Char.ofNat_toNat]
    · refine ⟨p.step c, ?_⟩
      rw [if_neg h8, if_neg h12, if_neg hlow, List.singleton_append,
        readStringFrom.eq_7 _ _ _ _ hq (fun _ _ _ _ _ h _ => hb h) (fun _ h _ => hb h)
          (fun _ _ h _ => hb h) (fun h _ => hb h), if_neg hlow]

theorem readStringFrom_escaped (s acc rest : List Char) (p : Position) :
    ∃ p', readStringFrom acc (escaped s ++ '"' :: rest) p =
      .ok (String.ofList (acc.reverse ++ s), rest, p') := by
  induction s generalizing acc p with
  | nil => exact ⟨p.right 1, by simp [escaped, readStringFrom]⟩
  | cons c s ih =>
    obtain ⟨p₁, h₁⟩ := readStringFrom_escapeChar acc c (escaped s ++ '"' :: rest) p
    obtain ⟨p₂, h₂⟩ := ih (c :: acc) p₁
    refine ⟨p₂, ?_⟩
    rw [escaped, List.flatMap_cons, List.append_assoc, ← escaped, h₁, h₂]
    simp

/-- The body of a quoted string is read back as the string. -/
theorem readString_reads (s : String) {d : Nat} :
    Reads (lex readString) (escaped s.toList ++ ['"']) s (fun _ => True) d :=
  lex_reads fun rest p _ => by
    simpa [readString] using readStringFrom_escaped s.toList [] rest p

/-! ## Integers -/

/-- An integer as reading keeps it: a non-negative one below `2^64` unsigned, a negative one down
to `-2^63` signed. No binary64 number is exact. -/
def Number.Exact : Number → Prop
  | .unsigned n => n < Nat.pow 2 64
  | .signed i => i < 0 ∧ i.natAbs ≤ Nat.pow 2 63
  | .double _ => False

theorem isBlank_iff (c : Char) : isBlank c = true ↔ c = ' ' ∨ c = '\n' ∨ c = '\t' ∨ c = '\r' := by
  simp [isBlank, or_assoc]

/-- What follows a value is nothing, or one of seven characters. -/
theorem Follows.cases {rest : List Char} (h : Follows rest) :
    rest = [] ∨ ∃ c r, rest = c :: r ∧
      (c = ',' ∨ c = ']' ∨ c = '}' ∨ c = ' ' ∨ c = '\n' ∨ c = '\t' ∨ c = '\r') := by
  cases rest with
  | nil => exact .inl rfl
  | cons c r => exact .inr ⟨c, r, rfl, by simpa [isBlank_iff, or_assoc] using h c rfl⟩

/-- After the digits of an integer, with no fraction or exponent, reading makes the integer. -/
theorem afterInteger_of_follows {rest : List Char} (h : Follows rest) (positive : Bool) (sig : Nat)
    (p : Position) :
    afterInteger positive sig rest p =
      if positive then .ok (.unsigned sig, rest, p)
      else if sig = 0 then .ok (.double Binary64.zero.neg, rest, p)
      else if sig ≤ Nat.pow 2 63 then .ok (.signed (-(sig : Int)), rest, p)
      else .ok (.double (Binary64.ofNat sig).neg, rest, p) := by
  rcases h.cases with rfl | ⟨c, r, rfl, hc⟩
  · rfl
  · rcases hc with rfl | rfl | rfl | rfl | rfl | rfl | rfl <;> rfl

theorem Follows.not_digit {c : Char} {r : List Char} (h : Follows (c :: r)) : c.isDigit = false := by
  rcases h.cases with h | ⟨c', r', h, hc⟩
  · cases h
  · obtain ⟨rfl, rfl⟩ := List.cons.inj h
    rcases hc with rfl | rfl | rfl | rfl | rfl | rfl | rfl <;> decide

theorem integerDigits_of_follows {rest : List Char} (h : Follows rest) (positive : Bool)
    (sig : Nat) (p : Position) : integerDigits positive sig rest p = afterInteger positive sig rest p := by
  cases rest with
  | nil => rfl
  | cons c r => rw [integerDigits, if_neg (by simp [h.not_digit])]

theorem le_ofDigitChars (ds : List Char) (sig : Nat) : sig ≤ Nat.ofDigitChars 10 ds sig := by
  rw [Nat.ofDigitChars_eq_ofDigitChars_zero]
  have : 1 ≤ 10 ^ ds.length := Nat.one_le_pow _ _ (by decide)
  have := Nat.mul_le_mul_right sig this
  omega

/-- Digits are read into the integer they stand for, while it fits in 64 bits. -/
theorem integerDigits_digits (positive : Bool) (ds : List Char) (hds : ∀ c ∈ ds, c.isDigit = true)
    (sig : Nat) (hlt : Nat.ofDigitChars 10 ds sig < Nat.pow 2 64) (rest : List Char)
    (p : Position) :
    ∃ p', integerDigits positive sig (ds ++ rest) p =
      integerDigits positive (Nat.ofDigitChars 10 ds sig) rest p' := by
  induction ds generalizing sig p with
  | nil => exact ⟨p, rfl⟩
  | cons c ds ih =>
    have hc := hds c List.mem_cons_self
    have hstep : Nat.ofDigitChars 10 (c :: ds) sig = Nat.ofDigitChars 10 ds (sig * 10 + digitValue c) := by
      rw [Nat.ofDigitChars_cons, Nat.mul_comm]
      rfl
    rw [hstep] at hlt ⊢
    have hfit : beyond64 (sig * 10 + digitValue c) = false := by
      have := le_ofDigitChars ds (sig * 10 + digitValue c)
      simp only [beyond64, decide_eq_false_iff_not, Nat.not_le]
      omega
    obtain ⟨p', h⟩ := ih (fun c' hc' => hds c' (List.mem_cons_of_mem _ hc')) _ hlt (p.step c)
    exact ⟨p', by rw [List.cons_append, integerDigits, if_pos hc, hfit, if_neg (by simp), h]⟩

/-- An integer is written from its leading digit, which is not zero unless the integer is. -/
theorem toDigits_head (n : Nat) :
    ∃ d cs, Nat.toDigits 10 n = Nat.digitChar d :: cs ∧ d < 10 ∧ (0 < n → 0 < d) := by
  induction n using Nat.strongRecOn with
  | ind n ih =>
    rw [Nat.toDigits_eq_if (by decide)]
    split
    · exact ⟨n, [], rfl, ‹_›, id⟩
    · obtain ⟨d, cs, h, hd, hpos⟩ := ih (n / 10) (by omega)
      exact ⟨d, cs ++ _, by rw [h]; rfl, hd, fun _ => hpos (by omega)⟩

theorem isDigit_of_mem_toDigits {n : Nat} {c : Char} (h : c ∈ Nat.toDigits 10 n) : c.isDigit = true :=
  Nat.isDigit_of_mem_toDigits (by decide) (by decide) h

/-- The digits of an integer below `2^64` are read back as it. -/
theorem readUnsigned_digits (positive : Bool) {n : Nat} (hn : n < Nat.pow 2 64) {rest : List Char}
    (hr : Follows rest) (p : Position) :
    ∃ p', readUnsigned positive (Nat.toDigits 10 n ++ rest) p = afterInteger positive n rest p' := by
  rcases Nat.eq_zero_or_pos n with rfl | hpos
  · -- zero is written `0` alone
    rw [Nat.toDigits_zero]
    cases rest with
    | nil => exact ⟨_, readUnsigned.eq_3 _ _⟩
    | cons c r =>
      exact ⟨_, by rw [List.singleton_append, readUnsigned.eq_2, if_neg (by simp [hr.not_digit])]⟩
  · obtain ⟨d, cs, hd, hd10, hd0⟩ := toDigits_head n
    have hc : Nat.digitChar d ≠ '0' := by
      have hdigit : ∀ m < 10, 0 < m → Nat.digitChar m ≠ '0' := by decide
      exact hdigit d hd10 (hd0 hpos)
    generalize Nat.digitChar d = c at hd hc
    have hdig : ∀ x ∈ c :: cs, x.isDigit = true := fun x hx => isDigit_of_mem_toDigits (hd ▸ hx)
    have hval : Nat.ofDigitChars 10 cs (digitValue c) = n := by
      have h := Nat.ofDigitChars_ten_toDigits (n := n)
      rw [hd, Nat.ofDigitChars_cons] at h
      simpa [digitValue] using h
    obtain ⟨p', h⟩ := integerDigits_digits positive cs (fun x hx => hdig x (List.mem_cons_of_mem _ hx))
      (digitValue c) (hval ▸ hn) rest (p.step c)
    refine ⟨p', ?_⟩
    rw [hd, List.cons_append, readUnsigned.eq_4 _ _ _ _ hc, if_pos (hdig c List.mem_cons_self), h,
      hval, integerDigits_of_follows hr]

/-- The text of an exact integer is read back as it, whatever may follow a value. -/
theorem readNumber_reads (n : Number) (hn : n.Exact) {d : Nat} :
    Reads (lex readNumber) n.text.toList n Follows d := by
  refine lex_reads fun rest p hr => ?_
  cases n with
  | unsigned m =>
    have hm : m < Nat.pow 2 64 := hn
    obtain ⟨p', h⟩ := readUnsigned_digits true hm hr p
    refine ⟨p', ?_⟩
    have hne : ∀ r, Nat.toDigits 10 m ++ rest = '-' :: r → False := by
      intro r h
      have hmem : '-' ∈ Nat.toDigits 10 m := by
        cases hd : Nat.toDigits 10 m with
        | nil => exact absurd hd Nat.toDigits_ne_nil
        | cons c cs => rw [hd, List.cons_append] at h; cases h; exact List.mem_cons_self
      exact absurd (isDigit_of_mem_toDigits hmem) (by decide)
    simp only [Number.text, Nat.toList_repr]
    rw [readNumber.eq_2 _ _ hne, h, afterInteger_of_follows hr]
    rfl
  | signed i =>
    obtain ⟨hneg, hle⟩ : i < 0 ∧ i.natAbs ≤ Nat.pow 2 63 := hn
    have hlt : i.natAbs < Nat.pow 2 64 := Nat.lt_of_le_of_lt hle (by decide)
    obtain ⟨p', h⟩ := readUnsigned_digits false hlt hr (p.right 1)
    refine ⟨p', ?_⟩
    simp only [Number.text, if_pos hneg, String.toList_append, String.reduceToList, Nat.toList_repr,
      List.cons_append, List.nil_append]
    rw [readNumber.eq_1, h, afterInteger_of_follows hr, if_neg (by simp), if_neg (by omega),
      if_pos hle]
    have : -(i.natAbs : Int) = i := by omega
    rw [this]
  | double x => exact hn.elim

end DataProduct.Json
