import DataProduct.Json.Print
import DataProduct.Json.Token

/-!
# Layouts of JSON text

The compact and the pretty text of a value differ only in the blanks between their tokens. A
`Layout` says which blanks stand where: a break before each item or member of a container and
before its closing bracket (given the level it stands at), and a separator after the colon of a
member. `Layout.text` writes a value in a layout, and the two printers are layouts
(`Value.compact_toList`, `Value.prettyAt_toList`), so what holds of every layout holds of both.

The items of a container are written as a reader meets them: `first` tells whether an item has
been written yet, so the text after the opening bracket of `[v₁, v₂]` is the break and `v₁`, then
a comma, the break and `v₂`, then the closing break and the bracket.

Two measures bound what reading a value back takes: `Value.weight`, the reading steps, and
`Value.nesting`, the containers opened one inside another. A text pays for its steps
(`Layout.weight_le_length`).
-/

namespace DataProduct.Json

/-- Where a layout puts blanks. -/
structure Layout where
  /-- The blanks before an item or member at a level, and before the closing bracket of a
  container at a level. -/
  brk : Nat → List Char
  /-- The blanks after the colon of a member. -/
  sep : List Char
  brk_blank : ∀ l, ∀ c ∈ brk l, isBlank c = true
  sep_blank : ∀ c ∈ sep, isBlank c = true

namespace Layout

/-- No blank at all. -/
def compact : Layout where
  brk _ := []
  sep := []
  brk_blank _ _ h := nomatch h
  sep_blank _ h := nomatch h

/-- A newline and two spaces per level before each item and closing bracket, and a space after
each colon. -/
def pretty : Layout where
  brk l := '\n' :: List.replicate (2 * l) ' '
  sep := [' ']
  brk_blank l c h := by
    rcases List.mem_cons.1 h with rfl | h
    · rfl
    · rw [List.eq_of_mem_replicate h]; rfl
  sep_blank c h := by rw [List.mem_singleton.1 h]; rfl

/-- What comes before an item at a level: the break, after a comma unless it is the first. -/
def lead (L : Layout) : Bool → Nat → List Char
  | true, l => L.brk l
  | false, l => ',' :: L.brk l

mutual

/-- The text of a value standing at `level`. -/
def text (L : Layout) (level : Nat) : Value → List Char
  | .null => "null".toList
  | .bool b => (if b then "true" else "false").toList
  | .number n => n.text.toList
  | .string s => (quote s).toList
  | .array vs => '[' :: items L level true vs
  | .object ms => '{' :: members L level true ms

/-- The items of an array at `level` after its `[`, through its `]`. -/
def items (L : Layout) (level : Nat) : Bool → List Value → List Char
  | true, [] => [']']
  | false, [] => L.brk level ++ [']']
  | first, v :: vs => L.lead first (level + 1) ++ text L (level + 1) v ++ items L level false vs

/-- The members of an object at `level` after its opening brace, through its closing one. -/
def members (L : Layout) (level : Nat) : Bool → List (String × Value) → List Char
  | true, [] => ['}']
  | false, [] => L.brk level ++ ['}']
  | first, (k, v) :: ms =>
    L.lead first (level + 1) ++ (quote k).toList ++ ':' :: L.sep ++ text L (level + 1) v ++
      members L level false ms

end

end Layout

end DataProduct.Json

namespace DataProduct.Json

/-! ## The two printers -/

/-- Past the first item, an item comes after a comma. -/
theorem Layout.items_false_cons (L : Layout) (l : Nat) (v : Value) (vs : List Value) :
    L.items l false (v :: vs) = ',' :: L.items l true (v :: vs) := rfl

theorem Layout.members_false_cons (L : Layout) (l : Nat) (m : String × Value)
    (ms : List (String × Value)) :
    L.members l false (m :: ms) = ',' :: L.members l true (m :: ms) := rfl

mutual

/-- The compact text is the compact layout, at any level. -/
theorem Value.compact_toList (l : Nat) : ∀ v : Value, v.compact.toList = Layout.compact.text l v
  | .null => rfl
  | .bool b => by cases b <;> rfl
  | .number n => rfl
  | .string s => rfl
  | .array vs => by
    simp only [Value.compact, String.toList_append, String.reduceToList, List.append_assoc,
      compactItems_toList l vs]
    rfl
  | .object ms => by
    simp only [Value.compact, String.toList_append, String.reduceToList, List.append_assoc,
      compactMembers_toList l ms]
    rfl

theorem compactItems_toList (l : Nat) : ∀ vs : List Value,
    (compactItems vs).toList ++ [']'] = Layout.compact.items l true vs
  | [] => rfl
  | [v] => by
    rw [compactItems, Value.compact_toList (l + 1) v]
    rfl
  | v :: w :: ws => by
    simp only [compactItems.eq_3 v (w :: ws) (by simp), String.toList_append, String.reduceToList,
      Value.compact_toList (l + 1) v, List.append_assoc, compactItems_toList l (w :: ws)]
    rfl

theorem compactMembers_toList (l : Nat) : ∀ ms : List (String × Value),
    (compactMembers ms).toList ++ ['}'] = Layout.compact.members l true ms
  | [] => rfl
  | [(k, v)] => by
    simp [compactMembers, Value.compact_toList (l + 1) v, Layout.members, Layout.lead,
      Layout.compact]
  | (k, v) :: m :: ms => by
    simp only [compactMembers.eq_3 k v (m :: ms) (by simp), String.toList_append,
      String.reduceToList, Value.compact_toList (l + 1) v, List.append_assoc,
      compactMembers_toList l (m :: ms)]
    simp [Layout.members, Layout.lead, Layout.compact]

end

theorem indent_toList (l : Nat) : (indent l).toList = List.replicate (2 * l) ' ' := by
  simp [indent]

mutual

/-- The pretty text is the pretty layout. -/
theorem Value.prettyAt_toList (l : Nat) : ∀ v : Value, (v.prettyAt l).toList = Layout.pretty.text l v
  | .null => rfl
  | .bool b => by cases b <;> rfl
  | .number n => rfl
  | .string s => rfl
  | .array [] => by simp [Value.prettyAt, Layout.text, Layout.items]
  | .array (v :: vs) => by
    rw [Layout.text, ← prettyItems_toList l (v :: vs) (List.cons_ne_nil _ _)]
    simp [Value.prettyAt, indent_toList]
  | .object [] => by simp [Value.prettyAt, Layout.text, Layout.members]
  | .object (m :: ms) => by
    rw [Layout.text, ← prettyMembers_toList l (m :: ms) (List.cons_ne_nil _ _)]
    simp [Value.prettyAt, indent_toList]

theorem prettyItems_toList (l : Nat) : ∀ vs : List Value, vs ≠ [] →
    '\n' :: ((prettyItems (l + 1) vs).toList ++ '\n' :: (indent l).toList ++ [']']) =
      Layout.pretty.items l true vs
  | [], h => absurd rfl h
  | [v], _ => by
    simp [prettyItems, Value.prettyAt_toList (l + 1) v, indent_toList, Layout.items, Layout.lead,
      Layout.pretty]
  | v :: w :: ws, _ => by
    rw [prettyItems.eq_3 (l + 1) v (w :: ws) (by simp), Layout.items, Layout.items_false_cons,
      ← prettyItems_toList l (w :: ws) (List.cons_ne_nil _ _)]
    simp [Value.prettyAt_toList (l + 1) v, indent_toList, Layout.lead, Layout.pretty]

theorem prettyMembers_toList (l : Nat) : ∀ ms : List (String × Value), ms ≠ [] →
    '\n' :: ((prettyMembers (l + 1) ms).toList ++ '\n' :: (indent l).toList ++ ['}']) =
      Layout.pretty.members l true ms
  | [], h => absurd rfl h
  | [(k, v)], _ => by
    simp [prettyMembers, Value.prettyAt_toList (l + 1) v, indent_toList, Layout.members,
      Layout.lead, Layout.pretty]
  | (k, v) :: m :: ms, _ => by
    rw [prettyMembers.eq_3 (l + 1) k v (m :: ms) (by simp), Layout.members, Layout.members_false_cons,
      ← prettyMembers_toList l (m :: ms) (List.cons_ne_nil _ _)]
    simp [Value.prettyAt_toList (l + 1) v, indent_toList, Layout.lead, Layout.pretty]

end

/-! ## What reading a value takes -/

theorem DecimalStyle.render_length_pos (st : DecimalStyle) (d : Nat) (k : Int) :
    0 < (st.render d k).length := by
  unfold DecimalStyle.render
  dsimp only
  repeat' split
  all_goals simp only [← String.length_toList, String.toList_append, String.toList_ofList,
    List.length_append, List.length_cons, List.length_nil, String.reduceToList]
  all_goals omega

theorem Binary64.toText_length_pos (x : Binary64) : 0 < x.toText.length := by
  have h := DecimalStyle.render_length_pos .standard x.shortest.1 x.shortest.2
  rw [← String.length_toList] at h
  unfold Binary64.toText
  dsimp only
  repeat' split
  all_goals simp [← String.length_toList, h]

/-- Every number is written with at least one character. -/
theorem Number.text_length_pos (n : Number) : 0 < n.text.length := by
  cases n with
  | unsigned n => simp [Number.text, Nat.length_repr_pos]
  | signed i =>
    have := Nat.length_repr_pos (n := i.natAbs)
    simp [Number.text]
    omega
  | double x => exact Binary64.toText_length_pos x

mutual

/-- The steps reading a value takes at most: one for a scalar; for a container, two and one more
than each item takes. -/
def Value.weight : Value → Nat
  | .null | .bool _ | .number _ | .string _ => 1
  | .array vs => itemsWeight vs + 2
  | .object ms => membersWeight ms + 2

/-- The steps the items of an array take. -/
def itemsWeight : List Value → Nat
  | [] => 0
  | v :: vs => v.weight + 1 + itemsWeight vs

/-- The steps the members of an object take. -/
def membersWeight : List (String × Value) → Nat
  | [] => 0
  | (_, v) :: ms => v.weight + 1 + membersWeight ms

end

mutual

/-- How many containers stand one inside another in a value. -/
def Value.nesting : Value → Nat
  | .null | .bool _ | .number _ | .string _ => 0
  | .array vs => itemsNesting vs + 1
  | .object ms => membersNesting ms + 1

/-- The deepest nesting among the items of an array. -/
def itemsNesting : List Value → Nat
  | [] => 0
  | v :: vs => max v.nesting (itemsNesting vs)

/-- The deepest nesting among the members of an object. -/
def membersNesting : List (String × Value) → Nat
  | [] => 0
  | (_, v) :: ms => max v.nesting (membersNesting ms)

end

namespace Layout

variable (L : Layout)

mutual

/-- Each step of reading a value is paid for by half a character of its text. -/
theorem weight_lt_length (l : Nat) : ∀ v : Value, v.weight < 2 * (L.text l v).length
  | .null => by simp [Value.weight, text]
  | .bool b => by cases b <;> simp [Value.weight, text]
  | .number n => by
    have := Number.text_length_pos n
    simp only [Value.weight, text, String.length_toList]
    omega
  | .string s => by
    simp [Value.weight, text, quote]
    omega
  | .array vs => by
    have := items_weight_lt_length l true vs
    simp only [Value.weight, text, List.length_cons]
    omega
  | .object ms => by
    have := members_weight_lt_length l true ms
    simp only [Value.weight, text, List.length_cons]
    omega

theorem items_weight_lt_length (l : Nat) :
    ∀ (first : Bool) (vs : List Value), itemsWeight vs < 2 * (L.items l first vs).length
  | true, [] => by simp [itemsWeight, items]
  | false, [] => by simp [itemsWeight, items]
  | first, v :: vs => by
    have h₁ := weight_lt_length (l + 1) v
    have h₂ := items_weight_lt_length l false vs
    simp only [itemsWeight, items, List.length_append]
    omega

theorem members_weight_lt_length (l : Nat) :
    ∀ (first : Bool) (ms : List (String × Value)), membersWeight ms < 2 * (L.members l first ms).length
  | true, [] => by simp [membersWeight, members]
  | false, [] => by simp [membersWeight, members]
  | first, (k, v) :: ms => by
    have h₁ := weight_lt_length (l + 1) v
    have h₂ := members_weight_lt_length l false ms
    simp only [membersWeight, members, List.length_append, List.length_cons]
    omega

end

end Layout

end DataProduct.Json
