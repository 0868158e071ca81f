import DataProduct.Proofs.Json.Reading
import DataProduct.Json.Decoder
import Mathlib.Data.List.Forall2

/-!
# Reading written values back

A decoder reads back a value `v` as `a` (`Decoder.ReadsBack d v a`) when, from the text of `v` in
any layout and after any blanks, given the steps `v` takes and room for its nesting, it answers
`a` and stops where `v` ends. Each decoder is read back from the readers of its parts:

* the separators of arrays and objects (`nextItem_first`, `nextItem_comma`, `nextItem_close`,
  `nextKey_key`, `nextKey_close`, `colon_reads`);
* the items of an array and the entries of an object (`items_reads`, `entries_reads`), whose keys
  must come in increasing order for the entries read to be the ones written;
* a whole value (`readValue_readsBack`): every value whose integers are exact
  (`Value.Numbers Number.Exact`) and whose objects have increasing keys (`Value.Sorted`) is read
  back as itself.
-/

namespace DataProduct.Json

open Reader

/-! ## Separators -/

/-- The characters a value's text can start with. -/
def valueHeads : List Char :=
  ['n', 't', 'f', '"', '[', '{', '-', '0', '1', '2', '3', '4', '5', '6', '7', '8', '9']

theorem isBlank_of_mem_valueHeads {c : Char} (h : c ∈ valueHeads) : isBlank c = false := by
  simp only [valueHeads, List.mem_cons, List.not_mem_nil, or_false] at h
  rcases h with rfl | rfl | rfl | rfl | rfl | rfl | rfl | rfl | rfl | rfl | rfl | rfl | rfl | rfl |
    rfl | rfl | rfl <;> rfl

theorem ne_close_of_mem_valueHeads {c : Char} (h : c ∈ valueHeads) : c ≠ ']' := by
  simp only [valueHeads, List.mem_cons, List.not_mem_nil, or_false] at h
  rcases h with rfl | rfl | rfl | rfl | rfl | rfl | rfl | rfl | rfl | rfl | rfl | rfl | rfl | rfl |
    rfl | rfl | rfl <;> decide

theorem Layout.lead_true (L : Layout) (l : Nat) : L.lead true l = L.brk l := rfl

theorem Layout.lead_false (L : Layout) (l : Nat) : L.lead false l = ',' :: L.brk l := rfl

/-- The first item of an array follows the break. -/
theorem nextItem_first (L : Layout) (l : Nat) {c : Char} (hc : c ∈ valueHeads) {d : Nat} :
    Reads (nextItem true) (L.lead true l) true (fun r => r.head? = some c) d := by
  rw [Layout.lead_true, ← List.append_nil (L.brk l)]
  unfold nextItem
  refine Reads.bind (peekBlank_reads (L.brk_blank l) (isBlank_of_mem_valueHeads hc)) ?_
    (fun r h => h)
  have hne := ne_close_of_mem_valueHeads hc
  split
  · simp_all
  · rw [if_pos rfl]
    exact Reads.pure
  · rw [if_pos rfl]
    refine Reads.pure_bind ?_
    dsimp only
    split
    · simp_all
    · exact Reads.pure
    · simp_all
  · simp_all

/-- A later item of an array follows a comma and the break. -/
theorem nextItem_comma (L : Layout) (l : Nat) {c : Char} (hc : c ∈ valueHeads) {d : Nat} :
    Reads (nextItem false) (L.lead false l) true (fun r => r.head? = some c) d := by
  rw [Layout.lead_false, show ',' :: L.brk l = [] ++ ([','] ++ (L.brk l ++ [])) by simp]
  unfold nextItem
  refine Reads.bind (peekBlank_reads (by simp) (by rfl : isBlank ',' = false)) ?_ (fun r h => rfl)
  have hne := ne_close_of_mem_valueHeads hc
  split
  · rename_i h; cases h
  · rw [if_neg (by simp)]
    refine (bump_reads ',').bind ((peekBlank_reads (L.brk_blank l)
      (isBlank_of_mem_valueHeads hc)).bind ?_ (fun r h => h)) (fun _ _ => trivial)
    dsimp only
    split
    · simp_all
    · exact Reads.pure
    · simp_all
  · rename_i h₁ h₂ h; cases h; exact absurd rfl h₂
  · rename_i h; cases h

/-- Blanks before the closing bracket of a container at `l`: none when nothing was written in it,
the break otherwise. -/
def Layout.closing (L : Layout) (first : Bool) (l : Nat) : List Char :=
  if first then [] else L.brk l

theorem Layout.closing_blank (L : Layout) (first : Bool) (l : Nat) :
    ∀ c ∈ L.closing first l, isBlank c = true := by
  cases first
  · exact L.brk_blank l
  · simp [Layout.closing]

theorem Layout.items_nil (L : Layout) (first : Bool) (l : Nat) :
    L.items l first [] = L.closing first l ++ [']'] := by
  cases first <;> rfl

theorem Layout.members_nil (L : Layout) (first : Bool) (l : Nat) :
    L.members l first [] = L.closing first l ++ ['}'] := by
  cases first <;> rfl

/-- No item follows at the closing bracket. -/
theorem nextItem_close (L : Layout) (first : Bool) (l : Nat) {d : Nat} :
    Reads (nextItem first) (L.closing first l) false (fun r => r.head? = some ']') d := by
  rw [← List.append_nil (L.closing first l)]
  unfold nextItem
  refine Reads.bind (peekBlank_reads (L.closing_blank first l) (by rfl : isBlank ']' = false)) ?_
    (fun r h => h)
  exact Reads.pure

/-- The key of the next member, after the break (and a comma unless it is the first). -/
theorem nextKey_key (L : Layout) (first : Bool) (l : Nat) (k : String) {d : Nat} :
    Reads (nextKey first) (L.lead first l ++ (quote k).toList) (some k) (fun _ => True) d := by
  have hkey : Reads (bump >>= fun _ => lex readString >>= fun s => Pure.pure (some s))
      (['"'] ++ (escaped k.toList ++ ['"'])) (some k) (fun _ => True) d :=
    (bump_reads '"').bind (readString_reads k).map (fun _ _ => trivial)
  rw [quote_toList]
  cases first with
  | true =>
    rw [Layout.lead_true]
    unfold nextKey
    refine (peekBlank_reads (L.brk_blank l) (by rfl : isBlank '"' = false)).bind ?_ (fun r h => rfl)
    exact Reads.pure_bind hkey
  | false =>
    rw [Layout.lead_false, show ',' :: L.brk l ++ '"' :: (escaped k.toList ++ ['"']) =
      [] ++ ([','] ++ (L.brk l ++ (['"'] ++ (escaped k.toList ++ ['"'])))) by simp]
    unfold nextKey
    refine (peekBlank_reads (by simp) (by rfl : isBlank ',' = false)).bind ?_ (fun r h => rfl)
    exact (bump_reads ',').bind ((peekBlank_reads (L.brk_blank l)
      (by rfl : isBlank '"' = false)).bind hkey (fun r h => rfl)) (fun _ _ => trivial)

/-- No member follows at the closing brace. -/
theorem nextKey_close (L : Layout) (first : Bool) (l : Nat) {d : Nat} :
    Reads (nextKey first) (L.closing first l) none (fun r => r.head? = some '}') d := by
  rw [← List.append_nil (L.closing first l)]
  unfold nextKey
  refine Reads.bind (peekBlank_reads (L.closing_blank first l) (by rfl : isBlank '}' = false)) ?_
    (fun r h => h)
  exact Reads.pure

/-- The colon right after a key. -/
theorem colon_reads {d : Nat} : Reads colon [':'] () (fun _ => True) d := by
  rw [← List.nil_append [':']]
  unfold colon
  exact (peekBlank_reads (by simp) (by rfl : isBlank ':' = false)).bind (bump_reads ':')
    (fun r h => rfl)

/-! ## What a decoder reads back -/

theorem digitChar_mem_valueHeads : ∀ d < 10, Nat.digitChar d ∈ valueHeads := by decide

theorem isDigit_digitChar : ∀ d < 10, (Nat.digitChar d).isDigit = true := by decide

/-- An integer is written from a minus sign or a digit. -/
theorem Number.text_head (n : Number) (hn : ∀ x, n ≠ .double x) :
    ∃ c r, n.text.toList = c :: r ∧ c ∈ valueHeads ∧ (c = '-' ∨ c.isDigit = true) := by
  have digits : ∀ m : Nat, ∃ c r, Nat.toDigits 10 m = c :: r ∧ c ∈ valueHeads ∧
      (c = '-' ∨ c.isDigit = true) := by
    intro m
    obtain ⟨d, cs, hd, hd10, -⟩ := toDigits_head m
    exact ⟨_, cs, hd, digitChar_mem_valueHeads d hd10, .inr (isDigit_digitChar d hd10)⟩
  cases n with
  | unsigned m => simpa [Number.text] using digits m
  | signed i =>
    by_cases hi : i < 0
    · exact ⟨'-', Nat.toDigits 10 i.natAbs, by simp [Number.text, hi], by decide, .inl rfl⟩
    · simpa [Number.text, hi] using digits i.natAbs
  | double x => exact absurd rfl (hn x)

/-- The text of a value that is no binary64 number starts with one of the heads. -/
theorem Layout.text_head (L : Layout) (l : Nat) (v : Value) (hv : ∀ x, v ≠ .number (.double x)) :
    ∃ c r, L.text l v = c :: r ∧ c ∈ valueHeads := by
  cases v with
  | null => exact ⟨'n', ['u', 'l', 'l'], by simp [Layout.text], by decide⟩
  | bool b =>
    cases b
    · exact ⟨'f', ['a', 'l', 's', 'e'], by simp [Layout.text], by decide⟩
    · exact ⟨'t', ['r', 'u', 'e'], by simp [Layout.text], by decide⟩
  | number n =>
    obtain ⟨c, r, h, hc, -⟩ := Number.text_head n fun x h => hv x (by rw [h])
    exact ⟨c, r, by simp [Layout.text, h], hc⟩
  | string s => exact ⟨'"', escaped s.toList ++ ['"'], by simp [Layout.text, quote_toList], by decide⟩
  | array vs => exact ⟨'[', _, rfl, by decide⟩
  | object ms => exact ⟨'{', _, rfl, by decide⟩

/-- `d` reads `a` back from the text of `v`, which is no binary64 number: from that text in any
layout and after any blanks, with the steps `v` takes and room for its nesting, `d` answers `a`,
whatever may follow a value. -/
structure Decoder.ReadsBack {α : Type} (d : Decoder α) (v : Value) (a : α) : Prop where
  integral : ∀ x, v ≠ .number (.double x)
  reads : ∀ (L : Layout) (l F : Nat) (bs : List Char), v.weight ≤ F →
    (∀ c ∈ bs, isBlank c = true) → Reads (d F) (bs ++ L.text l v) a Follows (v.nesting + 1)

/-- Blanks, then a comma or a closing bracket, may follow a value. -/
theorem follows_blanks {bs : List Char} (hbs : ∀ c ∈ bs, isBlank c = true) {c : Char}
    (hc : c = ',' ∨ c = ']' ∨ c = '}') (r : List Char) : Follows (bs ++ c :: r) := by
  intro x hx
  cases bs with
  | nil =>
    obtain rfl : c = x := by simpa using hx
    exact hc.elim .inl fun h => .inr (h.elim .inl fun h => .inr (.inl h))
  | cons b bs =>
    obtain rfl : b = x := by simpa using hx
    exact .inr (.inr (.inr (hbs b List.mem_cons_self)))

theorem follows_comma (t : List Char) : Follows (',' :: t) := by
  intro x hx
  simp at hx
  exact .inl hx.symm

theorem Layout.items_false_follows (L : Layout) (l : Nat) (vs : List Value) (r : List Char) :
    Follows (L.items l false vs ++ r) := by
  cases vs with
  | nil =>
    rw [Layout.items, List.append_assoc]
    exact follows_blanks (L.brk_blank l) (.inr (.inl rfl)) r
  | cons v vs =>
    simp only [Layout.items, Layout.lead_false, List.cons_append]
    exact follows_comma _

theorem Layout.members_false_follows (L : Layout) (l : Nat) (ms : List (String × Value))
    (r : List Char) : Follows (L.members l false ms ++ r) := by
  cases ms with
  | nil =>
    rw [Layout.members, List.append_assoc]
    exact follows_blanks (L.brk_blank l) (.inr (.inr rfl)) r
  | cons m ms =>
    obtain ⟨k, v⟩ := m
    simp only [Layout.members, Layout.lead_false, List.cons_append]
    exact follows_comma _

/-! ## Items and entries -/

theorem nextItem_item (L : Layout) (first : Bool) (l : Nat) {c : Char} (hc : c ∈ valueHeads)
    {d : Nat} : Reads (nextItem first) (L.lead first l) true (fun r => r.head? = some c) d := by
  cases first
  · exact nextItem_comma L l hc
  · exact nextItem_first L l hc

theorem Layout.items_cons (L : Layout) (l : Nat) (first : Bool) (v : Value) (vs : List Value) :
    L.items l first (v :: vs) = L.lead first (l + 1) ++ (L.text (l + 1) v ++ L.items l false vs) := by
  rw [Layout.items, List.append_assoc]

theorem Layout.members_cons (L : Layout) (l : Nat) (first : Bool) (k : String) (v : Value)
    (ms : List (String × Value)) :
    L.members l first ((k, v) :: ms) = (L.lead first (l + 1) ++ (quote k).toList) ++
      ([':'] ++ ((L.sep ++ L.text (l + 1) v) ++ L.members l false ms)) := by
  simp [Layout.members, List.append_assoc]

/-- A key greater than every key so far goes last. -/
theorem Members.insert_of_lt {α : Type} {acc : Members α} {k : String} (v : α)
    (h : ∀ p ∈ acc, p.1 < k) : acc.insert k v = acc ++ [(k, v)] := by
  induction acc with
  | nil => rfl
  | cons p acc ih =>
    obtain ⟨k', v'⟩ := p
    have hlt : k' < k := h _ List.mem_cons_self
    have hnlt : ¬k < k' := by rw [String.lt_iff] at *; exact List.lt_asymm hlt
    have hne : k ≠ k' := by rintro rfl; rw [String.lt_iff] at hlt; exact List.lt_irrefl _ hlt
    rw [Members.insert, if_neg hnlt, if_neg hne, ih fun q hq => h q (List.mem_cons_of_mem _ hq)]
    rfl

section Loops

variable {α : Type} {d : Decoder α} (L : Layout) (l : Nat)

/-- The items of an array after its `[`, each read back by `d`, through its `]`. -/
theorem items_reads {vs : List Value} {xs : List α} (h : List.Forall₂ d.ReadsBack vs xs) :
    ∀ (first : Bool) (acc : List α) (F : Nat), itemsWeight vs + 1 ≤ F →
      Reads (Decoder.items d F first acc) (L.items l first vs) (acc.reverse ++ xs)
        (fun _ => True) (itemsNesting vs + 1) := by
  induction h with
  | nil =>
    intro first acc F hF
    obtain ⟨F, rfl⟩ : ∃ F', F = F' + 1 := ⟨F - 1, by omega⟩
    rw [Layout.items_nil, List.append_nil]
    rw [Decoder.items]
    have hclose : Reads (bump >>= fun _ => Pure.pure acc.reverse) ([']'] ++ []) acc.reverse
        (fun _ => True) (itemsNesting [] + 1) :=
      (bump_reads ']').bind Reads.pure (fun _ _ => trivial)
    rw [List.append_nil] at hclose
    exact (nextItem_close L first l).bind hclose (fun r _ => rfl)
  | cons hvx hrest ih =>
    rename_i v x vs xs
    intro first acc F hF
    obtain ⟨F, rfl⟩ : ∃ F', F = F' + 1 := ⟨F - 1, by omega⟩
    obtain ⟨c, r, hvt, hc⟩ := L.text_head (l + 1) v hvx.integral
    have hw : v.weight ≤ F := by simp only [itemsWeight] at hF; omega
    have hws : itemsWeight vs + 1 ≤ F := by simp only [itemsWeight] at hF; omega
    have hnv : v.nesting + 1 ≤ itemsNesting (v :: vs) + 1 := by
      simp only [itemsNesting]; omega
    have hnvs : itemsNesting vs + 1 ≤ itemsNesting (v :: vs) + 1 := by
      simp only [itemsNesting]; omega
    rw [Layout.items_cons, Decoder.items,
      show acc.reverse ++ x :: xs = (x :: acc).reverse ++ xs by simp]
    refine (nextItem_item L first (l + 1) hc).bind ?_ (fun r _ => by rw [hvt]; rfl)
    exact ((hvx.reads L (l + 1) F [] hw (by simp)).mono (fun r h => h) hnv).bind
      ((ih false (x :: acc) F hws).mono (fun _ _ => trivial) hnvs)
      (fun r _ => L.items_false_follows l vs r)

/-- The entries of an object after its opening brace, each read back by `d`, through its closing
one, when their keys come after those read so far in increasing order: the map read holds the
entries read so far, then these. -/
theorem entries_reads {ms : List (String × Value)} {es : List (String × α)}
    (h : List.Forall₂ (fun m e => m.1 = e.1 ∧ d.ReadsBack m.2 e.2) ms es)
    (hs : es.Pairwise fun a b => a.1 < b.1) :
    ∀ (first : Bool) (acc res : Map α) (F : Nat), (∀ a ∈ acc.entries, ∀ e ∈ es, a.1 < e.1) →
      res.entries = acc.entries ++ es → membersWeight ms + 1 ≤ F →
      Reads (Decoder.entries d F first acc) (L.members l first ms) res (fun _ => True)
        (membersNesting ms + 1) := by
  induction h with
  | nil =>
    intro first acc res F _ hres hF
    obtain ⟨F, rfl⟩ : ∃ F', F = F' + 1 := ⟨F - 1, by omega⟩
    obtain rfl : acc = res := Map.ext (by rw [hres, List.append_nil])
    rw [Layout.members_nil]
    rw [Decoder.entries]
    have hclose : Reads (bump >>= fun _ => Pure.pure acc) (['}'] ++ []) acc (fun _ => True)
        (membersNesting [] + 1) :=
      (bump_reads '}').bind Reads.pure (fun _ _ => trivial)
    rw [List.append_nil] at hclose
    exact (nextKey_close L first l).bind hclose (fun r _ => rfl)
  | cons hm hrest ih =>
    rename_i m e ms es
    obtain ⟨k, v⟩ := m
    obtain ⟨k', x⟩ := e
    obtain ⟨rfl, hvx⟩ : k = k' ∧ d.ReadsBack v x := hm
    intro first acc res F hacc hres hF
    obtain ⟨F, rfl⟩ : ∃ F', F = F' + 1 := ⟨F - 1, by omega⟩
    have hw : v.weight ≤ F := by simp only [membersWeight] at hF; omega
    have hws : membersWeight ms + 1 ≤ F := by simp only [membersWeight] at hF; omega
    have hnv : v.nesting + 1 ≤ membersNesting ((k, v) :: ms) + 1 := by
      simp only [membersNesting]; omega
    have hnms : membersNesting ms + 1 ≤ membersNesting ((k, v) :: ms) + 1 := by
      simp only [membersNesting]; omega
    have hk : ∀ e ∈ es, k < e.1 := fun e he => List.rel_of_pairwise_cons hs he
    -- the key read comes after every key so far, so it goes last
    have hins : (acc.insert k x).entries = acc.entries ++ [(k, x)] :=
      Members.insert_of_lt x fun a ha => hacc a ha _ List.mem_cons_self
    have hacc' : ∀ a ∈ (acc.insert k x).entries, ∀ e ∈ es, a.1 < e.1 := by
      rw [hins]
      intro a ha e he
      rcases List.mem_append.1 ha with ha | ha
      · exact hacc a ha e (List.mem_cons_of_mem _ he)
      · rw [List.mem_singleton.1 ha]; exact hk e he
    have hres' : res.entries = (acc.insert k x).entries ++ es := by
      rw [hres, hins, List.append_assoc]
      rfl
    rw [Layout.members_cons, Decoder.entries]
    refine (nextKey_key L first (l + 1) k).bind ?_ (fun _ _ => trivial)
    refine colon_reads.bind ?_ (fun _ _ => trivial)
    exact ((hvx.reads L (l + 1) F L.sep hw L.sep_blank).mono (fun r h => h) hnv).bind
      ((ih (List.Pairwise.of_cons hs) false _ res F hacc' hres' hws).mono (fun _ _ => trivial) hnms)
      (fun r _ => L.members_false_follows l ms r)

end Loops

/-! ## Values -/

mutual

/-- Every number in a value satisfies `p`. -/
def Value.Numbers (p : Number → Prop) : Value → Prop
  | .null | .bool _ | .string _ => True
  | .number n => p n
  | .array vs => itemsNumbers p vs
  | .object ms => membersNumbers p ms

/-- Every number in the items of an array satisfies `p`. -/
def itemsNumbers (p : Number → Prop) : List Value → Prop
  | [] => True
  | v :: vs => v.Numbers p ∧ itemsNumbers p vs

/-- Every number in the members of an object satisfies `p`. -/
def membersNumbers (p : Number → Prop) : List (String × Value) → Prop
  | [] => True
  | (_, v) :: ms => v.Numbers p ∧ membersNumbers p ms

end

/-- A value as reading gives it back: its integers are exact and the keys of each of its objects
strictly increase. -/
def Value.Exact (v : Value) : Prop := v.Numbers Number.Exact ∧ v.Sorted

theorem membersNumbers_iff (p : Number → Prop) (ms : List (String × Value)) :
    membersNumbers p ms ↔ ∀ m ∈ ms, m.2.Numbers p := by
  induction ms with
  | nil => simp [membersNumbers]
  | cons m ms ih =>
    obtain ⟨k, v⟩ := m
    simp [membersNumbers, ih]

theorem membersSorted_iff (ms : List (String × Value)) :
    MembersSorted ms ↔ ∀ m ∈ ms, m.2.Sorted := by
  induction ms with
  | nil => simp [MembersSorted]
  | cons m ms ih =>
    obtain ⟨k, v⟩ := m
    simp [MembersSorted, ih]

theorem readItems_eq : ∀ (F : Nat) (first : Bool) (acc : List Value),
    readItems F first acc = Decoder.items readValue F first acc
  | 0, _, _ => rfl
  | F + 1, first, acc => by
    rw [readItems, Decoder.items]
    simp only [readItems_eq F]

theorem readMembers_eq : ∀ (F : Nat) (first : Bool) (acc : Map Value),
    readMembers F first acc = Decoder.entries readValue F first acc
  | 0, _, _ => rfl
  | F + 1, first, acc => by
    rw [readMembers, Decoder.entries]
    -- the two readers match on the key with matchers of their own, so the cases are split here
    congr 1
    funext next
    cases next <;> simp only [readMembers_eq F]

theorem weight_pos (v : Value) : 1 ≤ v.weight := by
  cases v <;> simp [Value.weight]

/-- Reading a value takes a step, so there is one left. -/
theorem readValue_succ {F : Nat} {v : Value} (hF : v.weight ≤ F) : ∃ F', F = F' + 1 :=
  ⟨F - 1, by have := weight_pos v; omega⟩

/-- A literal word, then its value. -/
theorem literal_pure_reads {β : Type} {w : String} {c : Char} {cs : List Char}
    (hw : w.toList = c :: cs) (b : β) {d : Nat} :
    Reads (do literal w; Pure.pure b) ((c :: cs) ++ []) b (fun _ => True) d :=
  (literal_reads hw).bind Reads.pure (fun _ _ => trivial)

theorem readValue_null : Decoder.ReadsBack readValue .null .null := by
  constructor
  · intro x h; cases h
  intro L l F bs hF hbs
  obtain ⟨F, rfl⟩ := readValue_succ hF
  rw [show L.text l .null = ['n', 'u', 'l', 'l'] ++ [] by simp [Layout.text], readValue]
  refine (peekBlank_reads hbs (by rfl : isBlank 'n' = false)).bind ?_ (fun r _ => by rfl)
  exact Reads.anywhere (literal_pure_reads (by simp : "null".toList = ['n', 'u', 'l', 'l']) Value.null)

theorem readValue_bool (b : Bool) : Decoder.ReadsBack readValue (.bool b) (.bool b) := by
  constructor
  · intro x h; cases h
  intro L l F bs hF hbs
  obtain ⟨F, rfl⟩ := readValue_succ hF
  cases b with
  | true =>
    rw [show L.text l (.bool true) = ['t', 'r', 'u', 'e'] ++ [] by simp [Layout.text], readValue]
    refine (peekBlank_reads hbs (by rfl : isBlank 't' = false)).bind ?_ (fun r _ => by rfl)
    exact Reads.anywhere (literal_pure_reads (by simp : "true".toList = ['t', 'r', 'u', 'e'])
      (Value.bool true))
  | false =>
    rw [show L.text l (.bool false) = ['f', 'a', 'l', 's', 'e'] ++ [] by simp [Layout.text],
      readValue]
    refine (peekBlank_reads hbs (by rfl : isBlank 'f' = false)).bind ?_ (fun r _ => by rfl)
    exact Reads.anywhere (literal_pure_reads
      (by simp : "false".toList = ['f', 'a', 'l', 's', 'e']) (Value.bool false))

theorem Layout.text_string (L : Layout) (l : Nat) (s : String) :
    L.text l (.string s) = ['"'] ++ (escaped s.toList ++ ['"']) := by
  simp [Layout.text, quote_toList]

theorem readValue_string (s : String) : Decoder.ReadsBack readValue (.string s) (.string s) := by
  constructor
  · intro x h; cases h
  intro L l F bs hF hbs
  obtain ⟨F, rfl⟩ := readValue_succ hF
  rw [Layout.text_string, readValue]
  refine (peekBlank_reads hbs (by rfl : isBlank '"' = false)).bind ?_ (fun r _ => by rfl)
  exact Reads.anywhere ((bump_reads '"').bind (readString_reads s).map (fun _ _ => trivial))

theorem readValue_number (n : Number) (hn : n.Exact) :
    Decoder.ReadsBack readValue (.number n) (.number n) := by
  constructor
  · rintro x h
    cases h
    exact hn
  intro L l F bs hF hbs
  obtain ⟨F, rfl⟩ := readValue_succ hF
  obtain ⟨c, r, ht, hc, hd⟩ := Number.text_head n (by rintro x rfl; exact hn)
  rw [show L.text l (.number n) = n.text.toList from rfl, readValue]
  refine (peekBlank_reads hbs (isBlank_of_mem_valueHeads hc)).bind ?_ (fun r _ => by rw [ht]; rfl)
  -- the text of a number starts with a digit or a minus sign, which no other kind of value does
  split
  · rename_i h; cases h
  case h_2 | h_3 | h_4 | h_5 | h_6 | h_7 =>
    rename_i h
    cases h
    exact absurd hd (by decide)
  case h_8 =>
    rename_i h
    cases h
    rw [if_pos hd]
    exact (readNumber_reads n hn).map

theorem readValue_array {vs : List Value} (h : List.Forall₂ (Decoder.ReadsBack readValue) vs vs) :
    Decoder.ReadsBack readValue (.array vs) (.array vs) := by
  constructor
  · intro x h; cases h
  intro L l F bs hF hbs
  obtain ⟨F, rfl⟩ := readValue_succ hF
  have hw : itemsWeight vs + 1 ≤ F := by rw [Value.weight] at hF; omega
  have hin := items_reads L l h true [] F hw
  rw [List.reverse_nil, List.nil_append, ← readItems_eq] at hin
  rw [show L.text l (.array vs) = ['['] ++ L.items l true vs from rfl, readValue]
  refine (peekBlank_reads hbs (by rfl : isBlank '[' = false)).bind ?_ (fun r _ => by rfl)
  exact Reads.anywhere (Reads.enclose Value.array '[' hin (Nat.le_add_left 1 _))

theorem readValue_object {ms : List (String × Value)}
    (h : List.Forall₂ (fun m e => m.1 = e.1 ∧ Decoder.ReadsBack readValue m.2 e.2) ms ms)
    (hs : ms.Pairwise fun a b => a.1 < b.1) :
    Decoder.ReadsBack readValue (.object ms) (.object ms) := by
  constructor
  · intro x h; cases h
  intro L l F bs hF hbs
  obtain ⟨F, rfl⟩ := readValue_succ hF
  have hw : membersWeight ms + 1 ≤ F := by rw [Value.weight] at hF; omega
  have hin := entries_reads L l h hs true .empty ⟨ms, hs⟩ F (fun _ h => nomatch h) rfl hw
  rw [← readMembers_eq] at hin
  rw [show L.text l (.object ms) = ['{'] ++ L.members l true ms from rfl, readValue]
  refine (peekBlank_reads hbs (by rfl : isBlank '{' = false)).bind ?_ (fun r _ => by rfl)
  exact Reads.anywhere
    (Reads.enclose (fun m : Map Value => Value.object m.entries) '{' hin (Nat.le_add_left 1 _))

mutual

/-- An exact value is read back as itself, from its text in any layout. -/
theorem readValue_readsBack : ∀ v : Value, v.Numbers Number.Exact → v.Sorted →
    Decoder.ReadsBack readValue v v
  | .null, _, _ => readValue_null
  | .bool b, _, _ => readValue_bool b
  | .number n, hn, _ => readValue_number n hn
  | .string s, _, _ => readValue_string s
  | .array vs, hn, hs => readValue_array (items_readsBack vs hn hs)
  | .object ms, hn, hs => readValue_object (members_readsBack ms hn hs.2) hs.1

theorem items_readsBack : ∀ vs : List Value, itemsNumbers Number.Exact vs → ItemsSorted vs →
    List.Forall₂ (Decoder.ReadsBack readValue) vs vs
  | [], _, _ => .nil
  | v :: vs, hn, hs => .cons (readValue_readsBack v hn.1 hs.1) (items_readsBack vs hn.2 hs.2)

theorem members_readsBack : ∀ ms : List (String × Value), membersNumbers Number.Exact ms →
    MembersSorted ms →
    List.Forall₂ (fun m e => m.1 = e.1 ∧ Decoder.ReadsBack readValue m.2 e.2) ms ms
  | [], _, _ => .nil
  | (_, v) :: ms, hn, hs =>
    .cons ⟨rfl, readValue_readsBack v hn.1 hs.1⟩ (members_readsBack ms hn.2 hs.2)

end

end DataProduct.Json
