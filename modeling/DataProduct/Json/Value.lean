import DataProduct.Number.Shortest

/-!
# JSON values

The values that documents hold where their shape is left open. A number keeps the kind it was
read as: an integer that fits in 64 bits stays exact (unsigned, or negative down to `-2^63`), and
every other number is the nearest binary64. Object members are kept in the order they are to be
written; an object read from text has its keys sorted and unique (`Members.insert`).

* `Number.text`: integers in decimal, binary64 numbers in their shortest text;
* `Members.insert`: the sorted insertion in which a later value for a key replaces the earlier;
* `Map`: entries whose keys strictly increase (`Members.Sorted`), as an object read from text
  has them; `Map.insert` keeps them so;
* `SortedValue`: a value whose objects all have increasing keys; `SortedValue.ofValue` sorts a
  value's objects and leaves a sorted value as it is.
-/

namespace DataProduct.Json

/-- A number as a document holds it. -/
inductive Number where
  /-- A non-negative integer below `2^64`. -/
  | unsigned (n : Nat)
  /-- A negative integer, at least `-2^63`. -/
  | signed (i : Int)
  /-- Any other number, as the nearest binary64. -/
  | double (x : Binary64)
  deriving DecidableEq, Repr

/-- The text of a number. -/
def Number.text : Number → String
  | .unsigned n => Nat.repr n
  | .signed i => (if i < 0 then "-" else "") ++ Nat.repr i.natAbs
  | .double x => x.toText

/-- A JSON value. -/
inductive Value where
  | null
  | bool (b : Bool)
  | number (n : Number)
  | string (s : String)
  | array (items : List Value)
  | object (members : List (String × Value))
  deriving Repr, Inhabited

/-- Members of an object, or entries of a map with string keys. -/
abbrev Members (α : Type) := List (String × α)

namespace Members

variable {α : Type}

/-- The members with `(k, v)` put in its place by key order, replacing a member with key `k`. -/
def insert (k : String) (v : α) : Members α → Members α
  | [] => [(k, v)]
  | (k', v') :: rest =>
    if k < k' then (k, v) :: (k', v') :: rest
    else if k = k' then (k, v) :: rest
    else (k', v') :: insert k v rest

/-- The keys strictly increase, as those of a map do: no key is there twice. -/
def Sorted (ms : Members α) : Prop := ms.Pairwise fun a b => a.1 < b.1

/-- A member after an insertion is the one inserted or one that was there. -/
theorem mem_insert {acc : Members α} {k : String} {v : α} {e : String × α}
    (h : e ∈ acc.insert k v) : e = (k, v) ∨ e ∈ acc := by
  induction acc with
  | nil => exact .inl (List.mem_singleton.1 h)
  | cons p acc ih =>
    obtain ⟨k', v'⟩ := p
    unfold Members.insert at h
    split at h
    · rcases List.mem_cons.1 h with h | h
      · exact .inl h
      · exact .inr h
    split at h
    · rcases List.mem_cons.1 h with h | h
      · exact .inl h
      · exact .inr (List.mem_cons_of_mem _ h)
    rcases List.mem_cons.1 h with h | h
    · exact .inr (h ▸ List.mem_cons_self)
    · exact (ih h).imp_right (List.mem_cons_of_mem _)

/-- Inserting keeps the keys strictly increasing. -/
theorem Sorted.insert {acc : Members α} (k : String) (v : α) (h : acc.Sorted) :
    (acc.insert k v).Sorted := by
  induction acc with
  | nil => exact List.pairwise_singleton _ _
  | cons p acc ih =>
    obtain ⟨k', v'⟩ := p
    have ⟨hk', hacc⟩ := List.pairwise_cons.1 h
    unfold Members.insert
    split
    · rename_i hlt
      refine List.Pairwise.cons (fun e he => ?_) h
      rcases List.mem_cons.1 he with rfl | he
      · exact hlt
      · exact String.lt_trans hlt (hk' e he)
    split
    · rename_i heq
      subst heq
      exact List.Pairwise.cons hk' hacc
    rename_i hnlt hne
    -- neither before nor equal, so after
    have hgt : k' < k := Decidable.byContradiction fun hle =>
      hne (String.le_antisymm (String.not_lt.1 hle) (String.not_lt.1 hnlt))
    refine List.Pairwise.cons (fun e he => ?_) (ih hacc)
    rcases mem_insert he with rfl | he
    · exact hgt
    · exact hk' e he

end Members

/-- A map from string keys: its entries in increasing key order, so no key is there twice. -/
structure Map (α : Type) where
  entries : Members α
  sorted : entries.Sorted

namespace Map

variable {α : Type}

instance [Repr α] : Repr (Map α) := ⟨fun m n => reprPrec m.entries n⟩

/-- The map with no entries. -/
def empty : Map α := ⟨[], List.Pairwise.nil⟩

/-- The map with `k` bound to `v`, in place of any value `k` had. -/
def insert (k : String) (v : α) (m : Map α) : Map α := ⟨m.entries.insert k v, m.sorted.insert k v⟩

/-- The keys of a map, in increasing order. -/
def keys (m : Map α) : List String := m.entries.map Prod.fst

@[simp] theorem entries_empty : (empty : Map α).entries = [] := rfl

@[simp] theorem entries_insert (k : String) (v : α) (m : Map α) :
    (m.insert k v).entries = m.entries.insert k v := rfl

/-- The keys of a map strictly increase. -/
theorem keys_sorted (m : Map α) : m.keys.Pairwise (· < ·) := List.pairwise_map.2 m.sorted

/-- No key is in a map twice. -/
@[simp] theorem keys_nodup (m : Map α) : m.keys.Nodup := m.keys_sorted.imp String.ne_of_lt

/-- Two maps with the same entries are the same map. -/
@[ext] theorem ext {m m' : Map α} (h : m.entries = m'.entries) : m = m' := by
  cases m
  cases m'
  cases h
  rfl

end Map

mutual

/-- The value with the members of every object in it sorted by key. -/
def Value.sorted : Value → Value
  | .array items => .array (sortedItems items)
  | .object members => .object (sortedMembers members)
  | v => v

/-- Items with their objects sorted. -/
def sortedItems : List Value → List Value
  | [] => []
  | v :: vs => v.sorted :: sortedItems vs

/-- Members sorted by key, their values sorted within. -/
def sortedMembers : List (String × Value) → List (String × Value)
  | [] => []
  | (k, v) :: ms => Members.insert k v.sorted (sortedMembers ms)

end

mutual

/-- The keys of each object in a value strictly increase, as those of a map do. -/
def Value.Sorted : Value → Prop
  | .null | .bool _ | .number _ | .string _ => True
  | .array vs => ItemsSorted vs
  | .object ms => Members.Sorted ms ∧ MembersSorted ms

/-- The items of an array are sorted. -/
def ItemsSorted : List Value → Prop
  | [] => True
  | v :: vs => v.Sorted ∧ ItemsSorted vs

/-- The values of the members of an object are sorted. -/
def MembersSorted : List (String × Value) → Prop
  | [] => True
  | (_, v) :: ms => v.Sorted ∧ MembersSorted ms

end

/-- Inserting a sorted value keeps the values of the members sorted. -/
theorem MembersSorted.insert {ms : List (String × Value)} (k : String) {v : Value}
    (hv : v.Sorted) (h : MembersSorted ms) : MembersSorted (Members.insert k v ms) := by
  induction ms with
  | nil => exact ⟨hv, trivial⟩
  | cons m ms ih =>
    obtain ⟨k', v'⟩ := m
    unfold Members.insert
    split
    · exact ⟨hv, h⟩
    split
    · exact ⟨hv, h.2⟩
    · exact ⟨h.1, ih h.2⟩

/-- A key before every key of the members goes first. -/
theorem Members.insert_eq_cons {α : Type} {ms : Members α} {k : String} (v : α)
    (h : ∀ e ∈ ms, k < e.1) : ms.insert k v = (k, v) :: ms := by
  cases ms with
  | nil => rfl
  | cons e ms =>
    obtain ⟨k', v'⟩ := e
    rw [Members.insert, if_pos (h _ List.mem_cons_self)]

mutual

/-- Sorting gives a sorted value. -/
theorem Value.sorted_sorted : ∀ v : Value, v.sorted.Sorted
  | .null | .bool _ | .number _ | .string _ => trivial
  | .array vs => sortedItems_sorted vs
  | .object ms => sortedMembers_sorted ms

theorem sortedItems_sorted : ∀ vs : List Value, ItemsSorted (sortedItems vs)
  | [] => trivial
  | v :: vs => ⟨v.sorted_sorted, sortedItems_sorted vs⟩

theorem sortedMembers_sorted :
    ∀ ms : List (String × Value), Members.Sorted (sortedMembers ms) ∧ MembersSorted (sortedMembers ms)
  | [] => ⟨.nil, trivial⟩
  | (k, v) :: ms =>
    ⟨(sortedMembers_sorted ms).1.insert k _,
      MembersSorted.insert k v.sorted_sorted (sortedMembers_sorted ms).2⟩

end

mutual

/-- Sorting leaves a sorted value as it is. -/
theorem Value.sorted_eq_self : ∀ v : Value, v.Sorted → v.sorted = v
  | .null, _ | .bool _, _ | .number _, _ | .string _, _ => rfl
  | .array vs, h => congrArg Value.array (sortedItems_eq_self vs h)
  | .object ms, h => congrArg Value.object (sortedMembers_eq_self ms h.1 h.2)

theorem sortedItems_eq_self : ∀ vs : List Value, ItemsSorted vs → sortedItems vs = vs
  | [], _ => rfl
  | v :: vs, h => by
    rw [sortedItems, v.sorted_eq_self h.1, sortedItems_eq_self vs h.2]

theorem sortedMembers_eq_self : ∀ ms : List (String × Value), Members.Sorted ms →
    MembersSorted ms → sortedMembers ms = ms
  | [], _, _ => rfl
  | (k, v) :: ms, hs, h => by
    have ⟨hk, hs'⟩ := List.pairwise_cons.1 hs
    rw [sortedMembers, v.sorted_eq_self h.1, sortedMembers_eq_self ms hs' h.2]
    exact Members.insert_eq_cons v hk

end

/-- A value whose objects are maps: the keys of each of its objects strictly increase, as those of
an object read from text do. -/
structure SortedValue where
  val : Value
  sorted : val.Sorted

namespace SortedValue

instance : Repr SortedValue := ⟨fun v n => reprPrec v.val n⟩

/-- A value with the members of each of its objects sorted by key. -/
def ofValue (v : Value) : SortedValue := ⟨v.sorted, v.sorted_sorted⟩

@[ext] theorem ext {v w : SortedValue} (h : v.val = w.val) : v = w := by
  cases v
  cases w
  cases h
  rfl

/-- A sorted value is left as it is. -/
theorem val_ofValue {v : Value} (h : v.Sorted) : (ofValue v).val = v := v.sorted_eq_self h

@[simp] theorem ofValue_val (v : SortedValue) : ofValue v.val = v := ext (val_ofValue v.sorted)

end SortedValue

end DataProduct.Json
