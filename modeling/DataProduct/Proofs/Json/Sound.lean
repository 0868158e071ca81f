import DataProduct.Proofs.Json.ReadBack
import Mathlib.Data.String.Basic

/-!
# What reading gives

Whatever text it is given, a reader that succeeds leaves the depth of the cursor as it found it
and answers something of a known shape (`Sound m P`: `P` holds of the answer at the depth the
reader started at). A reader that never succeeds (`Fails`) is sound for every shape.

* the separators and tokens keep the depth (`nextItem_sound`, `nextKey_sound`, `colon_sound`);
* a number is read as an exact integer or a binary64 number (`readNumber_read`);
* a container is read one level deeper and gives the level back (`Sound.enclose`);
* the items and entries read by a sound decoder satisfy what it promises, and entries have
  increasing keys (`items_sound`, `entries_sound`);
* a value read at depth `D` has objects with increasing keys, numbers as `Number.Read` says, and
  fewer than `D` containers one inside another (`readValue_sound`).
-/

namespace DataProduct.Json

open Reader

variable {α β : Type}

/-- A run of a composite reader that succeeds is a run of its first part and then of the rest. -/
theorem Reader.run_bind_eq_ok {m : Reader α} {f : α → Reader β} {c c' : Cursor} {b : β}
    (h : (m >>= f).run c = .ok (b, c')) :
    ∃ a c₁, m.run c = .ok (a, c₁) ∧ (f a).run c₁ = .ok (b, c') := by
  rw [StateT.run_bind] at h
  cases hm : m.run c with
  | error e => rw [hm] at h; cases h
  | ok p => rw [hm] at h; exact ⟨p.1, p.2, rfl, h⟩

/-- Whenever `m` succeeds from a cursor that may still open a container, it leaves the depth as
it found it, and its answer satisfies `P` at that depth. -/
def Sound (m : Reader α) (P : Nat → α → Prop) : Prop :=
  ∀ c a c', 1 ≤ c.depth → m.run c = .ok (a, c') → c'.depth = c.depth ∧ P c.depth a

namespace Sound

variable {m : Reader α} {P Q : Nat → α → Prop}

theorem mono (h : Sound m P) (hPQ : ∀ D a, P D a → Q D a) : Sound m Q := fun c a c' hD hr =>
  (h c a c' hD hr).imp_right (hPQ _ _)

theorem pure {a : α} (h : ∀ D, 1 ≤ D → P D a) : Sound (Pure.pure a) P := by
  intro c a' c' hD hr
  cases hr
  exact ⟨rfl, h _ hD⟩

theorem bind {f : α → Reader β} {R : Nat → β → Prop} (hm : Sound m P)
    (hf : ∀ a, Sound (f a) fun D b => P D a → R D b) : Sound (m >>= f) R := by
  intro c b c' hD hr
  obtain ⟨a, c₁, h₁, h₂⟩ := Reader.run_bind_eq_ok hr
  obtain ⟨hd₁, hP⟩ := hm c a c₁ hD h₁
  obtain ⟨hd₂, hR⟩ := hf a c₁ b c' (hd₁ ▸ hD) h₂
  rw [hd₁] at hd₂ hR
  exact ⟨hd₂, hR hP⟩

/-- After a reader that keeps the depth and answers nothing of interest. -/
theorem keep_bind {n : Reader β} {f : β → Reader α} (hn : Sound n fun _ _ => True)
    (hf : ∀ b, Sound (f b) P) : Sound (n >>= f) P :=
  hn.bind fun b => (hf b).mono fun _ _ h _ => h

end Sound

/-- `m` never succeeds. -/
def Fails (m : Reader α) : Prop := ∀ c a c', m.run c ≠ .ok (a, c')

theorem Fails.sound {m : Reader α} (h : Fails m) (P : Nat → α → Prop) : Sound m P :=
  fun c a c' _ hr => absurd hr (h c a c')

theorem fail_fails (f : Fault) (p : Position) : Fails (fail f p : Reader α) := by
  intro c a c' hr
  cases hr

theorem Fails.bind_right {m : Reader α} {f : α → Reader β} (h : ∀ a, Fails (f a)) :
    Fails (m >>= f) := by
  intro c b c' hr
  obtain ⟨a, c₁, -, h₂⟩ := Reader.run_bind_eq_ok hr
  exact h a c₁ b c' h₂

theorem Fails.bind_left {m : Reader α} {f : α → Reader β} (h : Fails m) : Fails (m >>= f) := by
  intro c b c' hr
  obtain ⟨a, c₁, h₁, -⟩ := Reader.run_bind_eq_ok hr
  exact h c a c₁ h₁

/-- A failure at the position of the cursor. -/
theorem fail_here_fails (f : Fault) : Fails (do fail f (← here) : Reader α) :=
  Fails.bind_right fun p => fail_fails f p

theorem fail_peekPos_fails (f : Fault) : Fails (do fail f (← peekPos) : Reader α) :=
  Fails.bind_right fun p => fail_fails f p

/-- A failure at a position read first fails whatever was to follow it. -/
theorem fail_then_fails {m : Reader Position} {γ : Type} {k : γ → Reader β} (f : Fault) :
    Fails (m >>= fun p => fail f p >>= k) :=
  Fails.bind_right fun p => (fail_fails f p).bind_left

/-! ## Readers that keep the depth -/

theorem peekBlank_sound : Sound peekBlank fun _ _ => True := by
  intro c a c' _ hr
  cases hr
  exact ⟨rfl, trivial⟩

theorem bump_sound : Sound bump fun _ _ => True := by
  rintro ⟨rest, pos, depth⟩ a c' _ hr
  cases rest <;> cases hr <;> exact ⟨rfl, trivial⟩

theorem lex_sound (f : List Char → Position → Lexed α) (P : α → Prop)
    (hf : ∀ cs p a rest p', f cs p = .ok (a, rest, p') → P a) :
    Sound (lex f) fun _ a => P a := by
  intro c a c' _ hr
  cases hfc : f c.rest c.pos with
  | error e =>
    simp [lex, hfc] at hr
    cases hr
  | ok r =>
    obtain ⟨b, rest, p'⟩ := r
    simp [lex, hfc] at hr
    cases hr
    exact ⟨rfl, hf _ _ _ _ _ hfc⟩

/-! ## Numbers -/

/-- A number as reading gives it: an exact integer, or a binary64. -/
def Number.Read (n : Number) : Prop := n.Exact ∨ ∃ x, n = .double x

/-- Every answer of a token reader's result satisfies `P`. -/
def Lexes (r : Lexed α) (P : α → Prop) : Prop := ∀ a rest p, r = .ok (a, rest, p) → P a

/-- The answer is a binary64 number. -/
def IsDouble (n : Number) : Prop := ∃ x, n = .double x

theorem finishNumber_double (positive : Bool) (sig : Nat) (e : Int) (cs : List Char)
    (p : Position) : Lexes (finishNumber positive sig e cs p) IsDouble := by
  intro n rest p' h
  unfold finishNumber at h
  split at h
  · cases h; exact ⟨_, rfl⟩
  · cases h

theorem exponentOverflow_double (positive nonZero positiveExp : Bool) :
    ∀ (cs : List Char) (p : Position),
      Lexes (exponentOverflow positive nonZero positiveExp cs p) IsDouble
  | [], p => by
    intro n rest p' h
    unfold exponentOverflow at h
    split at h
    · cases h
    · cases h; exact ⟨_, rfl⟩
  | c :: cs, p => by
    intro n rest p' h
    unfold exponentOverflow at h
    split at h
    · cases h
    split at h
    · exact exponentOverflow_double positive nonZero positiveExp cs _ n rest p' h
    · cases h; exact ⟨_, rfl⟩

theorem exponentDigits_double (positive : Bool) (sig : Nat) (start : Int) (positiveExp : Bool) :
    ∀ (exp : Nat) (cs : List Char) (p : Position),
      Lexes (exponentDigits positive sig start positiveExp exp cs p) IsDouble
  | exp, [], p => by
    unfold exponentDigits
    exact finishNumber_double _ _ _ _ _
  | exp, c :: cs, p => by
    unfold exponentDigits
    split
    · dsimp only
      split
      · exact exponentOverflow_double _ _ _ _ _
      · exact exponentDigits_double positive sig start positiveExp _ cs _
    · exact finishNumber_double _ _ _ _ _

theorem readExponent_double (positive : Bool) (sig : Nat) (start : Int) (cs : List Char)
    (p : Position) : Lexes (readExponent positive sig start cs p) IsDouble := by
  intro n rest p' h
  unfold readExponent at h
  dsimp only at h
  split at h
  · cases h
  · split at h
    · exact exponentDigits_double _ _ _ _ _ _ _ n rest p' h
    · cases h

theorem fractionOverflow_double (positive : Bool) (sig : Nat) (e : Int) :
    ∀ (cs : List Char) (p : Position), Lexes (fractionOverflow positive sig e cs p) IsDouble
  | [], p => by
    unfold fractionOverflow
    exact finishNumber_double _ _ _ _ _
  | c :: cs, p => by
    unfold fractionOverflow
    split
    · exact fractionOverflow_double positive sig e cs _
    split
    · exact readExponent_double _ _ _ _ _
    · exact finishNumber_double _ _ _ _ _

theorem fractionDigits_double (positive : Bool) :
    ∀ (sig : Nat) (e : Int) (count : Nat) (cs : List Char) (p : Position),
      Lexes (fractionDigits positive sig e count cs p) IsDouble
  | sig, e, count, [], p => by
    intro n rest p' h
    unfold fractionDigits at h
    split at h
    · cases h
    · exact finishNumber_double _ _ _ _ _ n rest p' h
  | sig, e, count, c :: cs, p => by
    intro n rest p' h
    unfold fractionDigits at h
    split at h
    · split at h
      · exact fractionOverflow_double _ _ _ _ _ n rest p' h
      · exact fractionDigits_double positive _ _ _ cs _ n rest p' h
    split at h
    · cases h
    split at h
    · exact readExponent_double _ _ _ _ _ n rest p' h
    · exact finishNumber_double _ _ _ _ _ n rest p' h

theorem longDigits_double (positive : Bool) (sig : Nat) :
    ∀ (e : Int) (cs : List Char) (p : Position), Lexes (longDigits positive sig e cs p) IsDouble
  | e, [], p => by
    unfold longDigits
    exact finishNumber_double _ _ _ _ _
  | e, c :: cs, p => by
    unfold longDigits
    split
    · exact longDigits_double positive sig _ cs _
    split
    · exact fractionDigits_double _ _ _ _ _ _
    split
    · exact readExponent_double _ _ _ _ _
    · exact finishNumber_double _ _ _ _ _

theorem Lexes.read_of_double {r : Lexed Number} (h : Lexes r IsDouble) : Lexes r Number.Read :=
  fun n rest p hr => .inr (h n rest p hr)

theorem afterInteger_read (positive : Bool) {sig : Nat} (hsig : sig < Nat.pow 2 64)
    (cs : List Char) (p : Position) : Lexes (afterInteger positive sig cs p) Number.Read := by
  intro n rest p' h
  unfold afterInteger at h
  split at h
  · exact (fractionDigits_double _ _ _ _ _ _).read_of_double n rest p' h
  · exact (readExponent_double _ _ _ _ _).read_of_double n rest p' h
  · exact (readExponent_double _ _ _ _ _).read_of_double n rest p' h
  -- an integer: unsigned when positive, signed when negative, zero and beyond `-2^63` aside
  split at h
  · cases h
    exact .inl hsig
  split at h
  · cases h; exact .inr ⟨_, rfl⟩
  split at h
  · cases h
    rename_i hz hle
    exact .inl ⟨by omega, by simpa using hle⟩
  · cases h; exact .inr ⟨_, rfl⟩

theorem integerDigits_read (positive : Bool) :
    ∀ (sig : Nat) (cs : List Char) (p : Position), sig < Nat.pow 2 64 →
      Lexes (integerDigits positive sig cs p) Number.Read
  | sig, [], p, hsig => by
    unfold integerDigits
    exact afterInteger_read positive hsig _ _
  | sig, c :: cs, p, hsig => by
    unfold integerDigits
    split
    · split
      · exact (longDigits_double _ _ _ _ _).read_of_double
      · rename_i hb
        exact integerDigits_read positive _ cs _ (by simpa [beyond64] using hb)
    · exact afterInteger_read positive hsig _ _

theorem readUnsigned_read (positive : Bool) (cs : List Char) (p : Position) :
    Lexes (readUnsigned positive cs p) Number.Read := by
  intro n rest p' h
  unfold readUnsigned at h
  split at h
  · cases h
  · split at h
    · split at h
      · cases h
      · exact afterInteger_read positive (by decide) _ _ n rest p' h
    · exact afterInteger_read positive (by decide) _ _ n rest p' h
  · split at h
    · rename_i c _ _ hc
      have h9 : c.toNat ≤ '9'.toNat := (Char.isDigit_iff_toNat.1 hc).2
      have : digitValue c < Nat.pow 2 64 :=
        calc digitValue c ≤ 57 := by unfold digitValue; exact Nat.le_trans (Nat.sub_le _ _) h9
          _ < Nat.pow 2 64 := by decide
      exact integerDigits_read positive _ _ _ this n rest p' h
    · cases h

theorem readNumber_read (cs : List Char) (p : Position) : Lexes (readNumber cs p) Number.Read := by
  unfold readNumber
  split
  · exact readUnsigned_read _ _ _
  · exact readUnsigned_read _ _ _

/-! ## Separators -/

theorem literal_sound (w : String) : Sound (literal w) fun _ _ => True :=
  Sound.keep_bind bump_sound fun _ => lex_sound _ (fun _ => True) fun _ _ _ _ _ _ => trivial

theorem colon_sound : Sound colon fun _ _ => True := by
  refine Sound.keep_bind peekBlank_sound fun x => ?_
  split
  · exact bump_sound
  · exact (fail_peekPos_fails _).sound _
  · exact (fail_peekPos_fails _).sound _

/-- The separators keep the depth: each branch passes over characters, peeks past blanks,
answers or fails. After the first character or a comma, a closing bracket is an error and
anything else an item or a key. -/
theorem nextItem_sound (first : Bool) : Sound (nextItem first) fun _ _ => True := by
  unfold nextItem
  refine Sound.keep_bind peekBlank_sound fun x => ?_
  dsimp only
  split
  · exact Sound.pure fun _ _ => trivial
  · split
    · refine Sound.keep_bind (Sound.pure fun _ _ => trivial) fun next => ?_
      split <;> first | exact (fail_peekPos_fails _).sound _ | exact Sound.pure fun _ _ => trivial
    · refine Sound.keep_bind bump_sound fun _ => Sound.keep_bind peekBlank_sound fun next => ?_
      split <;> first | exact (fail_peekPos_fails _).sound _ | exact Sound.pure fun _ _ => trivial
  · split
    · refine Sound.keep_bind (Sound.pure fun _ _ => trivial) fun next => ?_
      split <;> first | exact (fail_peekPos_fails _).sound _ | exact Sound.pure fun _ _ => trivial
    · exact (fail_then_fails _).sound _
  · exact (fail_then_fails _).sound _

theorem nextKey_sound (first : Bool) : Sound (nextKey first) fun _ _ => True := by
  unfold nextKey
  refine Sound.keep_bind peekBlank_sound fun x => ?_
  dsimp only
  have key : Sound (do bump; return some (← lex readString)) fun _ _ => True :=
    Sound.keep_bind bump_sound fun _ =>
      Sound.keep_bind (lex_sound _ (fun _ => True) fun _ _ _ _ _ _ => trivial) fun _ =>
        Sound.pure fun _ _ => trivial
  split
  · exact Sound.pure fun _ _ => trivial
  · split
    · refine Sound.keep_bind (Sound.pure fun _ _ => trivial) fun next => ?_
      split <;> first | exact key | exact (fail_peekPos_fails _).sound _
    · refine Sound.keep_bind bump_sound fun _ => Sound.keep_bind peekBlank_sound fun next => ?_
      split <;> first | exact key | exact (fail_peekPos_fails _).sound _
  · split
    · refine Sound.keep_bind (Sound.pure fun _ _ => trivial) fun next => ?_
      split <;> first | exact key | exact (fail_peekPos_fails _).sound _
    · exact (fail_then_fails _).sound _
  · exact (fail_then_fails _).sound _

/-! ## Containers -/

theorem enter_run {c c₁ : Cursor} {u : Unit} (h : enter.run c = .ok (u, c₁)) :
    1 < c.depth ∧ c₁.depth = c.depth - 1 := by
  obtain ⟨c₀, c₀', hget, h⟩ := Reader.run_bind_eq_ok h
  cases hget
  by_cases hd : c.depth ≤ 1
  · rw [if_pos hd] at h
    exact absurd h (fail_peekPos_fails _ _ _ _)
  · rw [if_neg hd] at h
    cases h
    exact ⟨by omega, rfl⟩

/-- After a container is opened, the rest is read one level deeper. -/
theorem enter_bump_run {k : Reader α} {c c' : Cursor} {y : α}
    (h : (do enter; bump; k).run c = .ok (y, c')) :
    1 < c.depth ∧ ∃ c₂ : Cursor, c₂.depth = c.depth - 1 ∧ k.run c₂ = .ok (y, c') := by
  obtain ⟨u, c₁, h₁, h⟩ := Reader.run_bind_eq_ok h
  obtain ⟨hd, hd₁⟩ := enter_run h₁
  obtain ⟨u, c₂, h₂, h⟩ := Reader.run_bind_eq_ok h
  have hd₂ := (bump_sound c₁ u c₂ (by omega) h₂).1
  exact ⟨hd, c₂, hd₂.trans hd₁, h⟩

/-- Closing a container gives the level back. -/
theorem leave_pure_run {a y : α} {c c' : Cursor} (h : (do leave; return a).run c = .ok (y, c')) :
    y = a ∧ c'.depth = c.depth + 1 := by
  obtain ⟨u, c₁, h₁, h⟩ := Reader.run_bind_eq_ok h
  cases h₁
  cases h
  exact ⟨rfl, rfl⟩

/-- A container is opened, read and closed: the depth is given back, and what is inside was read
one level deeper. -/
theorem Sound.enclose {inner : Reader β} {Q : Nat → β → Prop} (g : β → α) (h : Sound inner Q) :
    Sound (do enter; bump; let x ← inner; leave; return g x)
      fun D y => 1 < D ∧ ∃ x, y = g x ∧ Q (D - 1) x := by
  intro c y c' hD hr
  obtain ⟨hd, c₂, hd₂, hr⟩ := enter_bump_run hr
  obtain ⟨x, c₃, h₃, hr⟩ := Reader.run_bind_eq_ok hr
  obtain ⟨hd₃, hQ⟩ := h c₂ x c₃ (by omega) h₃
  obtain ⟨rfl, hd'⟩ := leave_pure_run hr
  rw [hd₂] at hQ
  exact ⟨by omega, hd, x, rfl, hQ⟩

/-! ## Values -/

theorem itemsNumbers_iff (p : Number → Prop) (vs : List Value) :
    itemsNumbers p vs ↔ ∀ v ∈ vs, v.Numbers p := by
  induction vs with
  | nil => simp [itemsNumbers]
  | cons v vs ih => simp [itemsNumbers, ih]

theorem itemsSorted_iff (vs : List Value) : ItemsSorted vs ↔ ∀ v ∈ vs, v.Sorted := by
  induction vs with
  | nil => simp [ItemsSorted]
  | cons v vs ih => simp [ItemsSorted, ih]

theorem itemsNesting_lt {vs : List Value} {E : Nat} (hE : 0 < E) (h : ∀ v ∈ vs, v.nesting < E) :
    itemsNesting vs < E := by
  induction vs with
  | nil => exact hE
  | cons v vs ih =>
    simp only [itemsNesting, List.mem_cons, forall_eq_or_imp] at h ⊢
    exact max_lt h.1 (ih h.2)

theorem membersNesting_lt {ms : List (String × Value)} {E : Nat} (hE : 0 < E)
    (h : ∀ m ∈ ms, m.2.nesting < E) : membersNesting ms < E := by
  induction ms with
  | nil => exact hE
  | cons m ms ih =>
    obtain ⟨k, v⟩ := m
    simp only [membersNesting, List.mem_cons, forall_eq_or_imp] at h ⊢
    exact max_lt h.1 (ih h.2)

/-! ## Items and entries -/

section Loops

variable {d : Decoder α} {G : Nat → α → Prop}

/-- Every item of an array read by a sound decoder satisfies what the decoder promises. -/
theorem items_sound : ∀ F, (∀ F' < F, Sound (d F') G) → ∀ (first : Bool) (acc : List α),
    Sound (Decoder.items d F first acc) fun D xs => (∀ x ∈ acc, G D x) → ∀ x ∈ xs, G D x
  | 0, _, _, _ => (fail_here_fails _).sound _
  | F + 1, hd, first, acc => by
    rw [Decoder.items]
    refine Sound.keep_bind (nextItem_sound first) fun b => ?_
    split
    · refine (hd F (Nat.lt_succ_self F)).bind fun x => ?_
      refine (items_sound F (fun F' h => hd F' (by omega)) false (x :: acc)).mono ?_
      intro D xs h hx hacc
      exact h fun y hy => (List.mem_cons.1 hy).elim (fun h => h ▸ hx) (hacc y)
    · refine Sound.keep_bind bump_sound fun _ => Sound.pure ?_
      intro D _ hacc x hx
      exact hacc x (List.mem_reverse.1 hx)

/-- The entries of an object read by a sound decoder have values that satisfy what the decoder
promises. -/
theorem entries_sound : ∀ F, (∀ F' < F, Sound (d F') G) → ∀ (first : Bool) (acc : Map α),
    Sound (Decoder.entries d F first acc) fun D es =>
      (∀ e ∈ acc.entries, G D e.2) → ∀ e ∈ es.entries, G D e.2
  | 0, _, _, _ => (fail_here_fails _).sound _
  | F + 1, hd, first, acc => by
    rw [Decoder.entries]
    refine Sound.keep_bind (nextKey_sound first) fun key => ?_
    split
    · rename_i k
      refine Sound.keep_bind colon_sound fun _ => (hd F (Nat.lt_succ_self F)).bind fun v => ?_
      refine (entries_sound F (fun F' h => hd F' (by omega)) false (acc.insert k v)).mono ?_
      intro D es h hv hacc
      refine h fun e he => ?_
      rcases Members.mem_insert he with rfl | he
      · exact hv
      · exact hacc e he
    · exact Sound.keep_bind bump_sound fun _ => Sound.pure fun _ _ hacc => hacc

end Loops

/-- What reading a value gives: objects with increasing keys, numbers that are exact integers or
binary64 numbers, and fewer containers one inside another than the depth left. -/
def Value.Good (D : Nat) (v : Value) : Prop := v.Sorted ∧ v.Numbers Number.Read ∧ v.nesting < D

theorem readValue_sound (F : Nat) : Sound (readValue F) Value.Good := by
  induction F using Nat.strong_induction_on with
  | _ F ih =>
  cases F with
  | zero => exact (fail_here_fails _).sound _
  | succ F =>
  have hitems : Sound (readItems F true []) fun D vs => ∀ v ∈ vs, v.Good D := by
    rw [readItems_eq]
    exact (items_sound F (fun F' h => ih F' (by omega)) true []).mono
      fun D vs h => h fun _ h => nomatch h
  have hmembers : Sound (readMembers F true .empty) fun D ms => ∀ m ∈ ms.entries, m.2.Good D := by
    rw [readMembers_eq]
    exact (entries_sound F (fun F' h => ih F' (by omega)) true .empty).mono
      fun D ms h => h fun _ h => nomatch h
  have scalar : ∀ D, 1 ≤ D → ∀ v : Value, v.Sorted → v.Numbers Number.Read → v.nesting = 0 →
      v.Good D := fun D hD v hs hn h0 => ⟨hs, hn, by omega⟩
  rw [readValue]
  refine Sound.keep_bind peekBlank_sound fun x => ?_
  split
  · exact (fail_peekPos_fails _).sound _
  · exact Sound.keep_bind (literal_sound _) fun _ =>
      Sound.pure fun D hD => scalar D hD _ trivial trivial rfl
  · exact Sound.keep_bind (literal_sound _) fun _ =>
      Sound.pure fun D hD => scalar D hD _ trivial trivial rfl
  · exact Sound.keep_bind (literal_sound _) fun _ =>
      Sound.pure fun D hD => scalar D hD _ trivial trivial rfl
  · exact Sound.keep_bind bump_sound fun _ =>
      Sound.keep_bind (lex_sound _ (fun _ => True) fun _ _ _ _ _ _ => trivial) fun _ =>
        Sound.pure fun D hD => scalar D hD _ trivial trivial rfl
  · refine (Sound.enclose Value.array hitems).mono ?_
    rintro D _ ⟨hD, vs, rfl, hvs⟩
    refine ⟨(itemsSorted_iff vs).2 fun v hv => (hvs v hv).1,
      (itemsNumbers_iff _ vs).2 fun v hv => (hvs v hv).2.1, ?_⟩
    have := itemsNesting_lt (by omega) fun v hv => (hvs v hv).2.2
    show itemsNesting vs + 1 < D
    omega
  · refine (Sound.enclose (fun ms : Map Value => Value.object ms.entries) hmembers).mono ?_
    -- the members read are a map, whose keys increase
    rintro D _ ⟨hD, ⟨ms, hs⟩, rfl, hms⟩
    refine ⟨⟨hs, (membersSorted_iff ms).2 fun m hm => (hms m hm).1⟩,
      (membersNumbers_iff _ ms).2 fun m hm => (hms m hm).2.1, ?_⟩
    have : membersNesting ms < D - 1 := membersNesting_lt (by omega) fun m hm => (hms m hm).2.2
    show membersNesting ms + 1 < D
    omega
  · split
    · refine Sound.bind (lex_sound _ Number.Read readNumber_read) fun n => Sound.pure ?_
      intro D hD hn
      exact scalar D hD _ trivial hn rfl
    · exact (fail_peekPos_fails _).sound _

end DataProduct.Json
