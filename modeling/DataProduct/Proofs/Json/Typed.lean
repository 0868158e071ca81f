import DataProduct.Proofs.Json.ReadBack

/-!
# Reading typed values back

The decoders of strings, options, lists, maps and records read back the text of the value they
are written as (`Decoder.ReadsBack`), given that the decoders of their parts do:

* `string_readsBack`, `option_readsBack` (a present value, which is not `null`),
  `list_readsBack`, `dict_readsBack` (a map, whose keys increase, from an object);
* `keyed_reads`, `MembersRead.record_readsBack`: a record is read back from an object whose
  members, each key once, the fields of their keys read back (`MembersRead`); the record is its
  starting value changed by each member in turn;
* `readText_readsBack`: a whole text in a layout gives back the value it was written from, when
  that value nests fewer than 128 levels.
-/

namespace DataProduct.Json

open Reader Decoder

/-- The text of a value starts with `n` only for `null`. -/
theorem Layout.text_ne_null (L : Layout) (l : Nat) {v : Value} (hv : ∀ x, v ≠ .number (.double x))
    {r : List Char} (h : L.text l v = 'n' :: r) : v = .null := by
  cases v with
  | null => rfl
  | bool b => cases b <;> simp [Layout.text] at h
  | number n =>
    obtain ⟨c, r', hn, -, hc⟩ := Number.text_head n fun x h => hv x (by rw [h])
    rw [show L.text l (.number n) = n.text.toList from rfl, hn] at h
    obtain ⟨rfl, -⟩ := List.cons.inj h
    exact absurd hc (by decide)
  | string s => simp [Layout.text, quote_toList] at h
  | array vs => simp [Layout.text] at h
  | object ms => simp [Layout.text] at h

theorem string_readsBack (s : String) : Decoder.ReadsBack string (.string s) s := by
  constructor
  · intro x h; cases h
  intro L l F bs _ hbs
  rw [Layout.text_string, Decoder.string]
  refine (peekBlank_reads hbs (by rfl : isBlank '"' = false)).bind ?_ (fun r _ => by rfl)
  exact Reads.anywhere ((bump_reads '"').bind (readString_reads s) (fun _ _ => trivial))

/-- A value whose objects are maps is read back as itself when its integers are exact. -/
theorem value_readsBack (v : SortedValue) (hn : v.val.Numbers Number.Exact) :
    Decoder.value.ReadsBack v.val v := by
  have h := readValue_readsBack v.val hn v.sorted
  refine ⟨h.integral, fun L l F bs hF hbs => ?_⟩
  -- reading sorts the value read, which is sorted already
  have hr := (h.reads L l F bs hF hbs).map (f := SortedValue.ofValue)
  rwa [SortedValue.ofValue_val] at hr

variable {α β : Type}

theorem option_readsBack {d : Decoder α} {v : Value} {a : α} (h : d.ReadsBack v a)
    (hv : v ≠ .null) : (option d).ReadsBack v (some a) := by
  refine ⟨h.integral, ?_⟩
  intro L l F bs hF hbs
  obtain ⟨c, r, hvt, hc⟩ := L.text_head l v h.integral
  rw [Decoder.option]
  refine (peekBlank_reads hbs (isBlank_of_mem_valueHeads hc)).bind ?_ (fun r _ => by rw [hvt]; rfl)
  split
  · rename_i h'
    cases h'
    exact absurd (L.text_ne_null l h.integral hvt) hv
  · exact (h.reads L l F [] hF (fun _ h => by cases h)).map

theorem list_readsBack {d : Decoder α} {vs : List Value} {xs : List α}
    (h : List.Forall₂ d.ReadsBack vs xs) : (list d).ReadsBack (.array vs) xs := by
  constructor
  · intro x h; cases h
  intro L l F bs hF hbs
  have hw : itemsWeight vs + 1 ≤ F := by rw [Value.weight] at hF; omega
  have hin := items_reads L l h true [] F hw
  rw [List.reverse_nil, List.nil_append] at hin
  rw [show L.text l (.array vs) = ['['] ++ L.items l true vs from rfl, Decoder.list]
  refine (peekBlank_reads hbs (by rfl : isBlank '[' = false)).bind ?_ (fun r _ => by rfl)
  exact Reads.anywhere (Reads.enclose id '[' hin (Nat.le_add_left 1 _))

theorem dict_readsBack {d : Decoder α} {ms : List (String × Value)} {es : Map α}
    (h : List.Forall₂ (fun m e => m.1 = e.1 ∧ d.ReadsBack m.2 e.2) ms es.entries) :
    (dict d).ReadsBack (.object ms) es := by
  constructor
  · intro x h; cases h
  intro L l F bs hF hbs
  have hw : membersWeight ms + 1 ≤ F := by rw [Value.weight] at hF; omega
  have hin := entries_reads L l h es.sorted true .empty es F (fun _ h => nomatch h) rfl hw
  rw [show L.text l (.object ms) = ['{'] ++ L.members l true ms from rfl, Decoder.dict]
  refine (peekBlank_reads hbs (by rfl : isBlank '{' = false)).bind ?_ (fun r _ => by rfl)
  exact Reads.anywhere (Reads.enclose id '{' hin (Nat.le_add_left 1 _))

theorem field_readsBack {key : String} {d : Decoder β} {set : β → α → α} {v : Value} {b : β}
    (h : d.ReadsBack v b) : (field key d set).read.ReadsBack v (set b) :=
  ⟨h.integral, fun L l F bs hF hbs => (h.reads L l F bs hF hbs).map⟩

/-- A member of a record's object and the change reading it makes: the first field with its key
reads its value back as that change. -/
def FieldReadsBack (fields : List (Decoder.Field α)) (m : String × Value) (u : α → α) : Prop :=
  ∃ f ∈ fields.find? (·.key == m.1), f.read.ReadsBack m.2 u

/-- The changes reading a field makes to a record: `set x` when the field is written, none when
it is left out. -/
def changes (set : β → α → α) (written : Bool) (x : β) : List (α → α) :=
  if written then [set x] else []

/-- A field left out when it is missing is read back as if it were set, when setting it missing
changes nothing. -/
theorem foldl_changes_isSome {set : Option β → α → α} (x : Option β) {acc : α}
    (h : set none acc = acc) : (changes set x.isSome x).foldl (fun r u => u r) acc = set x acc := by
  cases x with
  | none => exact h.symm
  | some a => rfl

/-- A list left out when it is empty is read back as if it were set, when setting it empty
changes nothing. -/
theorem foldl_changes_isEmpty {set : List β → α → α} (xs : List β) {acc : α}
    (h : set [] acc = acc) :
    (changes set (!xs.isEmpty) xs).foldl (fun r u => u r) acc = set xs acc := by
  cases xs with
  | nil => exact h.symm
  | cons a as => rfl

/-- A map left out when it is empty is read back as if it were set, when setting it empty changes
nothing. -/
theorem foldl_changes_entries {set : Map β → α → α} (m : Map β) {acc : α}
    (h : set .empty acc = acc) :
    (changes set (!m.entries.isEmpty) m).foldl (fun r u => u r) acc = set m acc := by
  obtain ⟨ms, hs⟩ := m
  cases ms with
  | nil => exact h.symm
  | cons e es => rfl

/-- The members `ms` of a record's object, whose keys are among `keys` in their order, are read
by the record's fields as the changes `us`. -/
structure MembersRead (fields : List (Decoder.Field α)) (keys : List String)
    (ms : List (String × Value)) (us : List (α → α)) : Prop where
  reads : List.Forall₂ (FieldReadsBack fields) ms us
  keys : (ms.map (·.1)).Sublist keys

theorem MembersRead.nil {fields : List (Decoder.Field α)} : MembersRead fields [] [] [] :=
  ⟨.nil, .slnil⟩

theorem MembersRead.append {fields : List (Decoder.Field α)} {k₁ k₂ : List String}
    {ms₁ ms₂ : List (String × Value)} {us₁ us₂ : List (α → α)}
    (h₁ : MembersRead fields k₁ ms₁ us₁) (h₂ : MembersRead fields k₂ ms₂ us₂) :
    MembersRead fields (k₁ ++ k₂) (ms₁ ++ ms₂) (us₁ ++ us₂) :=
  ⟨List.rel_append h₁.reads h₂.reads, by rw [List.map_append]; exact h₁.keys.append h₂.keys⟩

section Keyed

variable (L : Layout) (l : Nat) {fields : List (Decoder.Field α)}

/-- The members of a record's object after its opening brace, through its closing one, each read
by the field of its key: the record changes by each member in turn. -/
theorem keyed_reads {ms : List (String × Value)} {us : List (α → α)}
    (h : List.Forall₂ (FieldReadsBack fields) ms us) (hk : (ms.map (·.1)).Nodup) :
    ∀ (first : Bool) (seen : List String) (r : α) (F : Nat), (∀ m ∈ ms, m.1 ∉ seen) →
      membersWeight ms + 1 ≤ F →
      Reads (keyed fields F seen first r) (L.members l first ms) (us.foldl (fun r u => u r) r)
        (fun _ => True) (membersNesting ms + 1) := by
  induction h with
  | nil =>
    intro first seen r F _ hF
    obtain ⟨F, rfl⟩ : ∃ F', F = F' + 1 := ⟨F - 1, by omega⟩
    rw [Layout.members_nil, List.foldl_nil, Decoder.keyed]
    have hclose : Reads (bump >>= fun _ => Pure.pure r) (['}'] ++ []) r (fun _ => True)
        (membersNesting [] + 1) :=
      (bump_reads '}').bind Reads.pure (fun _ _ => trivial)
    rw [List.append_nil] at hclose
    exact (nextKey_close L first l).bind hclose (fun r _ => rfl)
  | cons hm hrest ih =>
    rename_i m u ms us
    obtain ⟨k, v⟩ := m
    obtain ⟨f, hf, hfr⟩ := hm
    intro first seen r F hseen hF
    obtain ⟨F, rfl⟩ : ∃ F', F = F' + 1 := ⟨F - 1, by omega⟩
    have hw : v.weight ≤ F := by simp only [membersWeight] at hF; omega
    have hws : membersWeight ms + 1 ≤ F := by simp only [membersWeight] at hF; omega
    have hnv : v.nesting + 1 ≤ membersNesting ((k, v) :: ms) + 1 := by
      simp only [membersNesting]; omega
    have hnms : membersNesting ms + 1 ≤ membersNesting ((k, v) :: ms) + 1 := by
      simp only [membersNesting]; omega
    have hk' : k ∉ ms.map (·.1) := (List.nodup_cons.1 hk).1
    have hseen' : ∀ m ∈ ms, m.1 ∉ k :: seen := by
      intro m hm hmem
      rcases List.mem_cons.1 hmem with h | h
      · exact hk' (h ▸ List.mem_map_of_mem hm)
      · exact hseen m (List.mem_cons_of_mem _ hm) h
    have hnew : seen.contains k = false := by
      simpa using hseen (k, v) List.mem_cons_self
    rw [Layout.members_cons, Decoder.keyed]
    refine (nextKey_key L first (l + 1) k).bind ?_ (fun _ _ => trivial)
    dsimp only
    rw [Option.mem_def.1 hf]
    dsimp only
    rw [hnew]
    refine colon_reads.bind ?_ (fun _ _ => trivial)
    exact ((hfr.reads L (l + 1) F L.sep hw L.sep_blank).mono (fun r h => h) hnv).bind
      ((ih (List.nodup_cons.1 hk).2 false (k :: seen) (u r) F hseen' hws).mono
        (fun _ _ => trivial) hnms)
      (fun r _ => L.members_false_follows l ms r)

end Keyed

/-- A record is read back from an object whose members its fields read back, under keys that
are all different, when the changes they make turn the starting record into `r`. -/
theorem MembersRead.record_readsBack {name : String} {init r : α}
    {fields : List (Decoder.Field α)} {keys : List String} {ms : List (String × Value)} {us : List (α → α)}
    (h : MembersRead fields keys ms us) (hk : keys.Nodup)
    (hr : us.foldl (fun r u => u r) init = r) :
    (record name init fields).ReadsBack (.object ms) r := by
  constructor
  · intro x h; cases h
  intro L l F bs hF hbs
  have hw : membersWeight ms + 1 ≤ F := by rw [Value.weight] at hF; omega
  have hin := keyed_reads L l h.reads (hk.sublist h.keys) true [] init F (fun _ _ h => nomatch h) hw
  rw [hr] at hin
  rw [show L.text l (.object ms) = ['{'] ++ L.members l true ms from rfl, Decoder.record]
  refine (peekBlank_reads hbs (by rfl : isBlank '{' = false)).bind ?_ (fun r _ => by rfl)
  exact Reads.anywhere (Reads.enclose id '{' hin (Nat.le_add_left 1 _))

/-! ## Whole texts -/

/-- At the end of a text, nothing but blanks is left. -/
theorem finish_reads {d : Nat} : Reads finish [] () (fun r => r = []) d := by
  rintro rest pos depth rfl -
  exact ⟨pos, rfl⟩

/-- A whole text written in a layout is read back as the value it was written from. -/
theorem readText_readsBack {d : Decoder α} {v : Value} {a : α} (h : d.ReadsBack v a)
    (L : Layout) (hn : v.nesting < 128) {s : String} (hs : s.toList = L.text 0 v) :
    readText d s = .ok a := by
  have hw : v.weight ≤ budget s := by
    have := L.weight_lt_length 0 v
    rw [← hs, String.length_toList] at this
    unfold budget
    omega
  have hend : Reads (do finish; Pure.pure a) ([] ++ []) a (fun r => r = []) (v.nesting + 1) :=
    finish_reads.bind Reads.pure (fun r hr => by simp [hr])
  have hread : Reads (d (budget s) >>= fun x => do finish; Pure.pure x)
      (([] ++ L.text 0 v) ++ ([] ++ [])) a (fun r => r = []) (v.nesting + 1) :=
    (h.reads L 0 (budget s) [] hw (fun _ h => by cases h)).bind hend
      (fun r hr => by subst hr; intro c hc; cases hc)
  obtain ⟨pos, hrun⟩ := hread [] Position.start 128 rfl hn
  simp only [List.append_nil, List.nil_append] at hrun
  rw [← hs] at hrun
  unfold readText
  rw [StateT.run'_eq, show Cursor.ofString s = ⟨s.toList, Position.start, 128⟩ from rfl, hrun]
  rfl

end DataProduct.Json
