import DataProduct.Proofs.Walk.Extraction

/-!
# The mesh namespace

The mesh namespace of a data product's name is the text before the leftmost occurrence of the
marker `:dataproducts:`, matched character for character. The marker starts and ends with `:`,
so two of its occurrences can share that character (`:dataproducts:dataproducts:`): the cut is
at the leftmost start, whatever follows it, and not at the first occurrence that a search which
skips past a partial match would find. A name without the marker has no namespace.

* `before_eq_some_iff`: the text before the first occurrence, and no occurrence starts inside it;
* `meshNamespace_first_marker`: the namespace is that text, and a name has none exactly when the
  marker does not occur in it.
-/

namespace DataProduct.Identity

variable {m : List Char}

/-! ## The cut at the first occurrence -/

theorem before_cons_eq_map {c : Char} {cs : List Char} (h : ¬ m <+: c :: cs) :
    before m (c :: cs) = (before m cs).map (c :: ·) := by
  simp [before, List.isPrefixOf_iff_prefix, h]

/-- No occurrence of `m` starts before the text that `before` cuts off. -/
theorem not_prefix_drop_of_before {l ns : List Char} (h : before m l = some ns) :
    ∀ i < ns.length, ¬ m <+: l.drop i := by
  induction l generalizing ns with
  | nil =>
    unfold before at h
    split at h <;> cases h
    simp
  | cons c cs ih =>
    by_cases hm : m <+: c :: cs
    · rw [(before_eq_some_nil_iff m _).2 hm] at h
      cases h
      simp
    · rw [before_cons_eq_map hm] at h
      obtain ⟨ns', hns', rfl⟩ := Option.map_eq_some_iff.1 h
      intro i hi
      cases i with
      | zero => simpa using hm
      | succ i => simpa using ih hns' i (by simpa using hi)

/-- A text that is `ns`, then `m`, then more, where no occurrence of `m` starts inside `ns`, is
cut right after `ns`; the occurrence may run on into the rest. -/
theorem before_of_first {ns r : List Char}
    (h : ∀ i < ns.length, ¬ m <+: (ns ++ m ++ r).drop i) : before m (ns ++ m ++ r) = some ns := by
  induction ns with
  | nil => exact (before_eq_some_nil_iff m _).2 (by simp)
  | cons c ns ih =>
    have hm : ¬ m <+: c :: (ns ++ m ++ r) := by simpa using h 0 (by simp)
    have hrest : ∀ i < ns.length, ¬ m <+: (ns ++ m ++ r).drop i := fun i hi => by
      simpa using h (i + 1) (by simpa using hi)
    rw [List.cons_append, List.cons_append, before_cons_eq_map hm, ih hrest]
    rfl

theorem before_eq_some_iff (l ns : List Char) :
    before m l = some ns ↔ (∃ r, l = ns ++ m ++ r) ∧ ∀ i < ns.length, ¬ m <+: l.drop i := by
  constructor
  · intro h
    exact ⟨before_eq_some h, not_prefix_drop_of_before h⟩
  · rintro ⟨⟨r, rfl⟩, hfirst⟩
    exact before_of_first hfirst

/-! ## Names of data products -/

/-- A name cut as text is cut as characters. -/
theorem exists_cut_iff (f ns : String) :
    (∃ r, f = ns ++ marker ++ r) ↔ ∃ r, f.toList = ns.toList ++ marker.toList ++ r := by
  constructor
  · rintro ⟨r, rfl⟩
    exact ⟨r.toList, by simp [String.toList_append]⟩
  · rintro ⟨r, hr⟩
    exact ⟨String.ofList r, String.toList_inj.1 (by simp [String.toList_append, hr])⟩

theorem meshNamespace_eq_ok_iff (f ns : String) :
    meshNamespace f = .ok ns ↔
      (∃ r, f = ns ++ marker ++ r) ∧ ∀ i < ns.length, ¬ marker.toList <+: f.toList.drop i := by
  rw [exists_cut_iff, ← String.length_toList, ← before_eq_some_iff]
  unfold meshNamespace
  cases before marker.toList f.toList with
  | none => simp
  | some ns' =>
    simp only [Except.ok.injEq, Option.some.injEq]
    constructor
    · rintro rfl
      exact String.toList_ofList.symm
    · rintro rfl
      exact String.ofList_toList

theorem meshNamespace_eq_error_iff (f : String) :
    meshNamespace f = .error (.missingMeshNamespace f) ↔ ¬ marker.toList <:+: f.toList := by
  rw [← before_eq_none_iff]
  unfold meshNamespace
  cases before marker.toList f.toList <;> simp

/-- The mesh namespace is the text before the leftmost marker, which may overlap a later one,
and a name has none exactly when the marker does not occur in it. -/
theorem meshNamespace_first_marker (f : String) :
    (∀ ns, meshNamespace f = .ok ns ↔
      (∃ r, f = ns ++ marker ++ r) ∧ ∀ i < ns.length, ¬ marker.toList <+: f.toList.drop i) ∧
    (meshNamespace f = .error (.missingMeshNamespace f) ↔ ¬ marker.toList <:+: f.toList) :=
  ⟨meshNamespace_eq_ok_iff f, meshNamespace_eq_error_iff f⟩

example : meshNamespace ":dataproducts:dataproducts:x" = .ok "" := rfl

example : meshNamespace "a:dataproducts:dataproducts:x" = .ok "a" := rfl

end DataProduct.Identity
