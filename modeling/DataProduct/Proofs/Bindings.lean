import DataProduct.Template
import DataProduct.Proofs.Json.Sound
import Mathlib.Data.List.Induction
import Mathlib.Data.List.TakeWhile

/-!
# Reading bindings

The bindings of a template are given as `key=value` pairs. A pair is cut at its first `=`: the
key is the text before it, trimmed of white space at both ends, and the value is all the text
after it, untrimmed, further `=` included. A pair without `=`, or whose key is empty once
trimmed, binds nothing. The pairs are read from first to last, and a later pair for a key
replaces an earlier one, also when the two keys differ only in the white space around them.

* `splitPair_eq_some_iff`: the cut at the first `=`;
* `Members.lookup_insert`: what a map holds after an insertion;
* `parseBindings_last_wins`: the bindings have distinct keys, and each key is bound to the value
  of the last pair that binds it.
-/

/-! ## Maps after an insertion -/

namespace DataProduct.Json

theorem lookup_cons_eq_ite {α : Type} (ms : Members α) (k key : String) (v : α) :
    ((k, v) :: ms).lookup key = if key = k then some v else ms.lookup key := by
  by_cases hkey : key = k
  · subst hkey
    simp
  · simp [List.lookup_cons, beq_false_of_ne hkey, hkey]

theorem Members.lookup_insert {α : Type} (ms : Members α) (k key : String) (v : α) :
    (ms.insert k v).lookup key = if key = k then some v else ms.lookup key := by
  induction ms with
  | nil => simp [Members.insert, lookup_cons_eq_ite]
  | cons e ms ih =>
    obtain ⟨k', v'⟩ := e
    unfold Members.insert
    split
    · simp only [lookup_cons_eq_ite]
    split
    · rename_i heq
      subst heq
      by_cases hkey : key = k <;> simp [lookup_cons_eq_ite, hkey]
    · -- the pair stays in front of the inserted one, and its key is not the inserted key
      rename_i hne
      by_cases hkey : key = k
      · subst hkey
        simp [lookup_cons_eq_ite, hne, ih]
      · simp [lookup_cons_eq_ite, ih, hkey]

end DataProduct.Json

namespace DataProduct.Template

open Json

/-- Pair `p` binds `key` to `value`: `p` is a text `k` without `=`, then `=`, then `value`, and
`k` trimmed of white space is the non-empty `key`. -/
def Binds (p key value : String) : Prop :=
  ∃ k, p = k ++ "=" ++ value ∧ '=' ∉ k.toList ∧ Text.trimSpace k = key ∧ key ≠ ""

/-- `value` is what the last pair of `ps` that binds `key` binds it to. -/
def BoundLast (ps : List String) (key value : String) : Prop :=
  ∃ pre p post, ps = pre ++ p :: post ∧ Binds p key value ∧ ∀ q ∈ post, ∀ v, ¬ Binds q key v

/-! ## The cut at the first `=` -/

theorem takeWhile_append_dropWhile_ne {c : Char} {cs : List Char} (h : c ∈ cs) :
    cs.takeWhile (· ≠ c) ++ c :: (cs.dropWhile (· ≠ c)).drop 1 = cs := by
  induction cs with
  | nil => cases h
  | cons d ds ih =>
    by_cases hd : d = c
    · subst hd
      simp
    · have hds : c ∈ ds := (List.mem_cons.1 h).resolve_left (Ne.symm hd)
      rw [List.takeWhile_cons_of_pos (by simpa using hd), List.dropWhile_cons_of_pos (by simpa using hd),
        List.cons_append, ih hds]

theorem splitPair_of_cut {k v : String} (hk : '=' ∉ k.toList) :
    splitPair (k ++ "=" ++ v) = some (k, v) := by
  have hall : ∀ x ∈ k.toList, decide (x ≠ '=') = true := fun x hx =>
    decide_eq_true fun h => hk (h ▸ hx)
  have hcs : (k ++ "=" ++ v).toList = k.toList ++ '=' :: v.toList := by
    simp [String.toList_append]
  simp only [splitPair, hcs, List.takeWhile_append_of_pos hall, List.dropWhile_append_of_pos hall]
  simp

theorem cut_of_splitPair {p k v : String} (h : splitPair p = some (k, v)) :
    p = k ++ "=" ++ v ∧ '=' ∉ k.toList := by
  by_cases hmem : p.toList.contains '=' = true
  · simp only [splitPair, hmem, if_true, Option.some.injEq, Prod.mk.injEq] at h
    obtain ⟨rfl, rfl⟩ := h
    refine ⟨String.toList_inj.1 ?_, fun hk => ?_⟩
    · simpa [String.toList_append] using
        (takeWhile_append_dropWhile_ne (List.contains_iff_mem.1 hmem)).symm
    · rw [String.toList_ofList] at hk
      simpa using List.mem_takeWhile_imp hk
  · simp only [splitPair, hmem, Bool.false_eq_true, ↓reduceIte, reduceCtorEq] at h

/-- A pair is cut at its first `=`: the key is the text before it, the value all the text after
it. -/
theorem splitPair_eq_some_iff (p k v : String) :
    splitPair p = some (k, v) ↔ p = k ++ "=" ++ v ∧ '=' ∉ k.toList :=
  ⟨cut_of_splitPair, fun h => h.1 ▸ splitPair_of_cut h.2⟩

theorem binds_iff (p key value : String) :
    Binds p key value ↔ ∃ k, splitPair p = some (k, value) ∧ Text.trimSpace k = key ∧ key ≠ "" := by
  simp only [Binds, splitPair_eq_some_iff, and_assoc]

/-- A pair binds at most one value. -/
theorem Binds.value_eq {p key key' v v' : String} (h : Binds p key v) (h' : Binds p key' v') :
    v = v' := by
  obtain ⟨k, hk, -⟩ := (binds_iff p key v).1 h
  obtain ⟨k', hk', -⟩ := (binds_iff p key' v').1 h'
  rw [hk] at hk'
  exact (Prod.mk.inj (Option.some.inj hk')).2

/-! ## One pair more -/

theorem parseBindings_nil : parseBindings [] = [] := rfl

theorem parseBindings_concat_of_none {ps : List String} {p : String} (h : splitPair p = none) :
    parseBindings (ps ++ [p]) = parseBindings ps := by
  simp only [parseBindings, List.foldl_append, List.foldl_cons, List.foldl_nil, h]

theorem parseBindings_concat_of_some {ps : List String} {p k v : String}
    (h : splitPair p = some (k, v)) :
    parseBindings (ps ++ [p]) =
      if (Text.trimSpace k).isEmpty then parseBindings ps
      else (parseBindings ps).insert (Text.trimSpace k) v := by
  simp only [parseBindings, List.foldl_append, List.foldl_cons, List.foldl_nil, h]

theorem lookup_parseBindings_concat_of_binds {ps : List String} {p key v : String}
    (h : Binds p key v) : (parseBindings (ps ++ [p])).lookup key = some v := by
  obtain ⟨k, hk, rfl, hkey⟩ := (binds_iff p key v).1 h
  have hne : (Text.trimSpace k).isEmpty = false := by simpa using hkey
  rw [parseBindings_concat_of_some hk, hne, if_neg Bool.false_ne_true, Members.lookup_insert,
    if_pos rfl]

theorem lookup_parseBindings_concat_of_not_binds {ps : List String} {p key : String}
    (h : ∀ v, ¬ Binds p key v) :
    (parseBindings (ps ++ [p])).lookup key = (parseBindings ps).lookup key := by
  cases hs : splitPair p with
  | none => rw [parseBindings_concat_of_none hs]
  | some kv =>
    obtain ⟨k, v⟩ := kv
    rw [parseBindings_concat_of_some hs]
    split
    · rfl
    · rename_i hne
      -- the pair binds its trimmed key, so that key is not the one looked up
      have hkey : key ≠ Text.trimSpace k := fun hkey =>
        h v ((binds_iff p key v).2 ⟨k, hs, hkey.symm, by simpa [hkey] using hne⟩)
      rw [Members.lookup_insert, if_neg hkey]

/-! ## The last pair for a key -/

/-- A split of a list with one entry more either ends at that entry or splits the list. -/
theorem split_of_concat {α : Type} {l pre post : List α} {a b : α}
    (h : l ++ [a] = pre ++ b :: post) :
    (post = [] ∧ b = a ∧ l = pre) ∨ ∃ post', post = post' ++ [a] ∧ l = pre ++ b :: post' := by
  rcases List.eq_nil_or_concat post with rfl | ⟨post', c, rfl⟩
  · obtain ⟨hl, hab⟩ := List.append_inj' h rfl
    exact .inl ⟨rfl, (List.singleton_inj.1 hab).symm, hl⟩
  · rw [List.concat_eq_append] at h ⊢
    have h' : l ++ [a] = (pre ++ b :: post') ++ [c] := by simpa using h
    obtain ⟨hl, hac⟩ := List.append_inj' h' rfl
    obtain rfl := List.singleton_inj.1 hac
    exact .inr ⟨post', rfl, hl⟩

theorem not_boundLast_nil (key value : String) : ¬ BoundLast [] key value := by
  rintro ⟨pre, p, post, h, -⟩
  simp at h

theorem boundLast_concat_of_binds {ps : List String} {p key v value : String} (h : Binds p key v) :
    BoundLast (ps ++ [p]) key value ↔ value = v := by
  constructor
  · rintro ⟨pre, q, post, hsplit, hq, hpost⟩
    rcases split_of_concat hsplit with ⟨-, rfl, -⟩ | ⟨post', rfl, -⟩
    · exact hq.value_eq h
    · exact absurd h (hpost p (by simp) v)
  · rintro rfl
    exact ⟨ps, p, [], rfl, h, by simp⟩

theorem boundLast_concat_of_not_binds {ps : List String} {p key value : String}
    (h : ∀ v, ¬ Binds p key v) : BoundLast (ps ++ [p]) key value ↔ BoundLast ps key value := by
  constructor
  · rintro ⟨pre, q, post, hsplit, hq, hpost⟩
    rcases split_of_concat hsplit with ⟨-, rfl, -⟩ | ⟨post', rfl, rfl⟩
    · exact absurd hq (h value)
    · exact ⟨pre, q, post', rfl, hq, fun q' hq' => hpost q' (by simp [hq'])⟩
  · rintro ⟨pre, q, post, rfl, hq, hpost⟩
    refine ⟨pre, q, post ++ [p], by simp, hq, fun q' hq' => ?_⟩
    rcases List.mem_append.1 hq' with hq' | hq'
    · exact hpost q' hq'
    · exact (List.mem_singleton.1 hq') ▸ h

/-! ## The bindings of a list of pairs -/

theorem lookup_parseBindings_iff (ps : List String) (key value : String) :
    (parseBindings ps).lookup key = some value ↔ BoundLast ps key value := by
  -- the pairs are read from the left, so the induction adds one pair at the right
  induction ps using List.reverseRecOn with
  | nil => simp [parseBindings_nil, not_boundLast_nil]
  | append_singleton ps p ih =>
    by_cases hp : ∃ v, Binds p key v
    · obtain ⟨v, hv⟩ := hp
      rw [lookup_parseBindings_concat_of_binds hv, boundLast_concat_of_binds hv, Option.some_inj,
        eq_comm]
    · have hp : ∀ v, ¬ Binds p key v := not_exists.1 hp
      rw [lookup_parseBindings_concat_of_not_binds hp, boundLast_concat_of_not_binds hp, ih]

theorem sorted_parseBindings (ps : List String) :
    (parseBindings ps).Pairwise fun a b => a.1 < b.1 := by
  induction ps using List.reverseRecOn with
  | nil => simp [parseBindings_nil]
  | append_singleton ps p ih =>
    cases hs : splitPair p with
    | none => rwa [parseBindings_concat_of_none hs]
    | some kv =>
      rw [parseBindings_concat_of_some hs]
      split
      · exact ih
      · exact Members.Sorted.insert _ _ ih

theorem nodup_keys_parseBindings (ps : List String) : ((parseBindings ps).map Prod.fst).Nodup :=
  List.pairwise_map.2 ((sorted_parseBindings ps).imp ne_of_lt)

/-- The bindings are a map, and each key is bound to the value of the last pair that binds it:
reading the pairs from the left, a later pair for a key overwrites an earlier one. -/
theorem parseBindings_last_wins (ps : List String) :
    ((parseBindings ps).map Prod.fst).Nodup ∧
      ∀ key value, (parseBindings ps).lookup key = some value ↔ BoundLast ps key value :=
  ⟨nodup_keys_parseBindings ps, lookup_parseBindings_iff ps⟩

example : parseBindings ["env=prod", "url=http://x?a=b", "broken", "=nokey"] =
    [("env", "prod"), ("url", "http://x?a=b")] := rfl

example : parseBindings [" env =a", "env= b "] = [("env", " b ")] := by decide +kernel

end DataProduct.Template
