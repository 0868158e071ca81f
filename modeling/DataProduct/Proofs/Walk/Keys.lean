import DataProduct.Proofs.Walk.Step
import DataProduct.Proofs.Ascii
import DataProduct.Registry

/-!
# The errors of the component keys

Only the reusable components report a key error, and they report one per key at most. The nine
maps are checked in turn, and each map's keys in their order. An empty key is reported at its map,
and a key holding a character other than an ASCII letter or digit, `.`, `_` and `-` at the key
itself; every other key passes. The check also reports a key seen before in the same map, but no
walk meets that case: a `Json.Map` holds each key once, and each map starts with no key seen, the
nine maps having distinct names.

Each check of a node reports errors of its own kinds only (`FieldError.ofKind`), so a walk's
errors of one kind are those of the checks of that kind.

* `keyError`: the error of one key, stated on its own;
* `componentKeyErrors_eq`: the errors of the distinct keys of one map;
* `component_key_errors_exact`: the key errors of a whole walk, map by map and key by key.
-/

namespace DataProduct

/-! ## The kinds each check reports -/

/-- Whether an error is of kind `k`. -/
def FieldError.ofKind (k : FieldErrorKind) (e : FieldError) : Bool := e.kind == k

@[simp] theorem FieldError.ofKind_mk (k : FieldErrorKind) (p : Path) (k' : FieldErrorKind) (m : String) :
    FieldError.ofKind k ⟨p, k', m⟩ = (k' == k) := rfl

section Kinds

variable {k : FieldErrorKind}

@[simp] theorem filter_ofKind_require (hk : k ≠ .missingRequiredField) (v : Option String) (p : Path) :
    (require v p).filter (FieldError.ofKind k) = [] := by
  unfold require
  split
  · rfl
  · simp [Ne.symm hk]

@[simp] theorem filter_ofKind_duplicateName (hk : k ≠ .duplicateName) (label : String)
    (name : Option String) (seen : List String) (p : Path) :
    (duplicateName label name seen p).filter (FieldError.ofKind k) = [] := by
  unfold duplicateName
  split
  · split
    · simp [Ne.symm hk]
    · rfl
  · rfl

@[simp] theorem Identity.filter_ofKind_check (hv : k ≠ .invalidSemanticVersion)
    (he : k ≠ .entityTypeMismatch) (i : Identity) (expected : String) (p : Path) :
    (i.check expected p).filter (FieldError.ofKind k) = [] := by
  simp only [Identity.check, List.filter_append, List.append_eq_nil_iff]
  constructor
  · split
    · split
      · rfl
      · simp [Ne.symm hv]
    · rfl
  · split
    · split
      · rfl
      · simp [Ne.symm he]
    · rfl

/-- The errors of one kind of a walk into an optional node are those of the node. -/
theorem filter_errors_walkOption {α : Type} (f : α → Report α) (o : Option α) :
    (walkOption f o).errors.filter (FieldError.ofKind k) =
      o.toList.flatMap fun a => (f a).errors.filter (FieldError.ofKind k) := by
  cases o <;> simp

theorem filter_errors_walkOption_eq_nil {α : Type} {f : α → Report α}
    (h : ∀ a, (f a).errors.filter (FieldError.ofKind k) = []) (o : Option α) :
    (walkOption f o).errors.filter (FieldError.ofKind k) = [] := by
  cases o <;> simp [h]

theorem Scope.filter_errors_check (s : Scope) (es : List FieldError) :
    (s.check es).errors.filter (FieldError.ofKind k) =
      if s.mode.validates then es.filter (FieldError.ofKind k) else [] := by
  rw [Scope.errors_check]
  split <;> rfl

/-- The errors of a kind that the data product's own checks do not report come from its parts. -/
theorem Descriptor.filter_errors (hr : k ≠ .missingRequiredField) (hm : k ≠ .fqnMismatch)
    (d : Descriptor) (m : Mode) (e : Option String) :
    (d.walk m e).errors.filter (FieldError.ofKind k) =
      (walkOption (Info.walk ⟨m, [.key "info"], d.productFqn⟩) d.info).errors.filter
          (FieldError.ofKind k) ++
        (walkOption (InterfaceComponents.walk ⟨m, [.key "interfaceComponents"], d.productFqn⟩)
          d.interfaceComponents).errors.filter (FieldError.ofKind k) ++
        (walkOption (InternalComponents.walk ⟨m, [.key "internalComponents"], d.productFqn⟩)
          d.internalComponents).errors.filter (FieldError.ofKind k) ++
        (walkOption (Components.walk ⟨m, [.key "components"], d.productFqn⟩) d.components).errors.filter
          (FieldError.ofKind k) := by
  dsimp only [Descriptor.walk, Report.errors_bind, Report.errors_pure, Scope.child, List.nil_append]
  simp only [List.filter_append, List.append_nil, Scope.filter_errors_check, List.append_assoc]
  refine (congrArg (· ++ _) ?_).trans (List.nil_append _)
  -- the root's own checks: the expected name, the descriptor's version and the two sections
  by_cases hv : m.validates
  · have hk : ∀ (p : Path) (k' : FieldErrorKind) (msg : String), k' ≠ k →
        [(⟨p, k', msg⟩ : FieldError)].filter (FieldError.ofKind k) = [] := by
      intro p k' msg hk'
      simp [hk']
    rw [if_pos hv]
    simp only [List.append_eq_nil_iff, filter_ofKind_require hr]
    refine ⟨?_, trivial, ?_, ?_⟩
    · split
      · split
        · rfl
        · exact hk _ _ _ (Ne.symm hm)
      · rfl
    · split
      · rfl
      · exact hk _ _ _ (Ne.symm hr)
    · split
      · rfl
      · exact hk _ _ _ (Ne.symm hr)
  · rw [if_neg hv]

end Kinds

/-! ## The error of one key -/

/-- A character a component key may hold: an ASCII letter or digit, `.`, `_` or `-`. -/
def KeyChar (c : Char) : Prop := AsciiLetter c ∨ AsciiDigit c ∨ c = '.' ∨ c = '_' ∨ c = '-'

instance : DecidablePred KeyChar := fun c =>
  inferInstanceAs (Decidable (AsciiLetter c ∨ AsciiDigit c ∨ c = '.' ∨ c = '_' ∨ c = '-'))

/-- The error the key `k` of the map `name` of the reusable components is reported with: an empty
key at the map, a key with a character that is not an ASCII letter or digit, `.`, `_` or `-` at
the key itself, and none for any other key. -/
def keyError (name k : String) : Option FieldError :=
  if k = "" then
    some ⟨[.key "components", .key name], .invalidOrDuplicateComponentKey,
      "Component key in 'components." ++ name ++ "' must not be empty"⟩
  else if k.toList.all fun c => decide (KeyChar c) then none
  else
    some ⟨[.key "components", .key name, .key k], .invalidOrDuplicateComponentKey,
      "Component key '" ++ k ++ "' is invalid: only letters, digits, '.', '_' and '-' are allowed"⟩

theorem validComponentKey_iff (k : String) :
    validComponentKey k = true ↔ k ≠ "" ∧ ∀ c ∈ k.toList, KeyChar c := by
  simp only [validComponentKey, Bool.and_eq_true, Bool.not_eq_true', String.isEmpty_eq_false_iff,
    List.all_eq_true, Bool.or_eq_true, decide_eq_true_eq, Char.isAlphanum_and_ascii_iff, beq_iff_eq,
    KeyChar, or_assoc]

theorem render_components_map (name : String) :
    Path.render [.key "components", .key name] = "components." ++ name := by
  simp only [Path.render, PathStep.render, List.map_cons, List.map_nil, String.join, List.foldl_cons,
    List.foldl_nil, Bool.false_eq_true, ↓reduceIte, String.empty_append]
  rw [← String.append_assoc]
  rfl

/-- A key not seen before in its map is reported with `keyError`, and is seen after it when it is
a valid key. -/
theorem componentKeyErrors_cons_unseen (name k : String) (ks seen : List String) (hk : k ∉ seen) :
    componentKeyErrors [.key "components", .key name] (k :: ks) seen =
      (keyError name k).toList ++ componentKeyErrors [.key "components", .key name] ks
        (if k.isEmpty || !validComponentKey k then seen else k :: seen) := by
  have hs : seen.contains k = false := by simpa using hk
  simp only [componentKeyErrors, hs, render_components_map, keyError]
  by_cases he : k = ""
  · subst he
    simp [← String.append_assoc]
  · by_cases hv : validComponentKey k
    · have hc := ((validComponentKey_iff k).mp hv).2
      simp [he, hv, if_pos hc]
    · have hc : ¬ ∀ c ∈ k.toList, KeyChar c := fun hc => hv ((validComponentKey_iff k).mpr ⟨he, hc⟩)
      simp [he, hv, hc]

/-- The distinct keys of a map, none of them seen before, are reported each with `keyError`: the
branch for a key seen twice is never taken. -/
theorem componentKeyErrors_eq (name : String) {ks : List String} (hnd : ks.Nodup) (seen : List String)
    (hs : ∀ k ∈ ks, k ∉ seen) :
    componentKeyErrors [.key "components", .key name] ks seen = ks.filterMap (keyError name) := by
  induction ks generalizing seen with
  | nil => rfl
  | cons k ks ih =>
    obtain ⟨hk, hks⟩ := List.nodup_cons.mp hnd
    rw [componentKeyErrors_cons_unseen name k ks seen (hs k (.head _)), List.filterMap_cons]
    -- the later keys are neither seen before nor this one
    have hrest : ∀ k' ∈ ks, k' ∉ (if k.isEmpty || !validComponentKey k then seen else k :: seen) := by
      intro k' hk' hmem
      split at hmem
      · exact hs k' (.tail _ hk') hmem
      · rcases List.mem_cons.mp hmem with rfl | hmem
        · exact hk hk'
        · exact hs k' (.tail _ hk') hmem
    rw [ih hks _ hrest]
    cases keyError name k <;> rfl

/-! ## The walkers -/

section Walkers

variable (s : Scope)

@[simp] theorem Scope.filter_keys_identity (i : Identity) (expected : String)
    (derive : Identity → Option (Except IdentityError String)) :
    (s.identity i expected derive).errors.filter (FieldError.ofKind .invalidOrDuplicateComponentKey) =
      [] := by
  rw [Scope.identity_errors, List.filter_append]
  cases (i.fill expected derive).2 <;>
    simp [apply_ite (List.filter (FieldError.ofKind .invalidOrDuplicateComponentKey)), Scope.extractionError]

@[simp] theorem StandardDefinition.filter_keys (d : StandardDefinition) :
    (StandardDefinition.walk s d).errors.filter (FieldError.ofKind .invalidOrDuplicateComponentKey) = [] := by
  dsimp only [StandardDefinition.walk, Report.errors_bind, Report.errors_pure]
  simp only [List.filter_append, Scope.filter_errors_check]
  simp [apply_ite (List.filter (FieldError.ofKind .invalidOrDuplicateComponentKey))]

@[simp] theorem Promises.filter_keys (r : Promises) :
    (Promises.walk s r).errors.filter (FieldError.ofKind .invalidOrDuplicateComponentKey) = [] := by
  dsimp only [Promises.walk, Report.errors_bind, Report.errors_pure]
  simp [filter_errors_walkOption]

@[simp] theorem Expectations.filter_keys (r : Expectations) :
    (Expectations.walk s r).errors.filter (FieldError.ofKind .invalidOrDuplicateComponentKey) = [] := by
  dsimp only [Expectations.walk, Report.errors_bind, Report.errors_pure]
  simp [filter_errors_walkOption]

@[simp] theorem Obligations.filter_keys (r : Obligations) :
    (Obligations.walk s r).errors.filter (FieldError.ofKind .invalidOrDuplicateComponentKey) = [] := by
  dsimp only [Obligations.walk, Report.errors_bind, Report.errors_pure]
  simp [filter_errors_walkOption]

@[simp] theorem Port.filter_keys (kind : PortKind) (seen : List String) (p : Port) :
    (Port.walk kind s seen p).errors.filter (FieldError.ofKind .invalidOrDuplicateComponentKey) = [] := by
  dsimp only [Port.walk, Report.errors_bind, Report.errors_pure]
  simp only [List.filter_append, Scope.filter_errors_check]
  simp [filter_errors_walkOption]

@[simp] theorem InterfaceComponents.filter_keys (r : InterfaceComponents) :
    (InterfaceComponents.walk s r).errors.filter (FieldError.ofKind .invalidOrDuplicateComponentKey) = [] := by
  dsimp only [InterfaceComponents.walk, Report.errors_bind, Report.errors_pure]
  simp only [List.filter_append, Scope.filter_errors_check]
  simp [filter_walkItems_eq_nil, filter_errors_walkOption,
    apply_ite (List.filter (FieldError.ofKind .invalidOrDuplicateComponentKey))]

@[simp] theorem Component.filter_keys (kind : ComponentKind) (seen : List String) (c : Component) :
    (Component.walk kind s seen c).errors.filter (FieldError.ofKind .invalidOrDuplicateComponentKey) = [] := by
  dsimp only [Component.walk, Report.errors_bind, Report.errors_pure]
  simp only [List.filter_append, Scope.filter_errors_check]
  simp

@[simp] theorem InternalComponents.filter_keys (r : InternalComponents) :
    (InternalComponents.walk s r).errors.filter (FieldError.ofKind .invalidOrDuplicateComponentKey) = [] := by
  dsimp only [InternalComponents.walk, Report.errors_bind, Report.errors_pure]
  simp [filter_walkItems_eq_nil]

@[simp] theorem Info.filter_keys (r : Info) :
    (Info.walk s r).errors.filter (FieldError.ofKind .invalidOrDuplicateComponentKey) = [] := by
  dsimp only [Info.walk, Report.errors_bind, Report.errors_pure]
  simp only [List.filter_append, Scope.filter_errors_check]
  cases r.owner <;> simp

end Walkers

theorem kind_of_keyError {name k : String} {e : FieldError} (h : keyError name k = some e) :
    e.kind = .invalidOrDuplicateComponentKey := by
  unfold keyError at h
  split at h
  · cases h
    rfl
  · split at h
    · cases h
    · cases h
      rfl

/-- The reusable components report, when the walk checks, the error of each key of each map, map
by map. -/
theorem Components.filter_keys (m : Mode) (P : Option String) (r : Components) :
    (Components.walk ⟨m, [.key "components"], P⟩ r).errors.filter
        (FieldError.ofKind .invalidOrDuplicateComponentKey) =
      if m.validates then r.maps.flatMap fun mp => mp.2.keys.filterMap (keyError mp.1)
      else [] := by
  rw [Components.walk_eq]
  dsimp only [Report.errors_bind, Report.errors_pure]
  rw [List.append_nil, Scope.filter_errors_check]
  split
  · rw [List.filter_flatMap, List.flatMap_def, List.flatMap_def]
    congr 1
    refine List.map_congr_left fun mp hmp => ?_
    have hmap : componentKeyErrors [.key "components", .key mp.1] mp.2.keys [] =
        mp.2.keys.filterMap (keyError mp.1) :=
      componentKeyErrors_eq mp.1 mp.2.keys_nodup [] (by simp)
    refine (congrArg _ hmap).trans (List.filter_eq_self.mpr fun e he => ?_)
    obtain ⟨k, -, hke⟩ := List.mem_filterMap.mp he
    simp [FieldError.ofKind, kind_of_keyError hke]
  · rfl

/-- Component-key errors are exactly the malformed keys. A walk that checks reports, for the nine
maps of reusable components in their order (input, output, discovery, observability and control
ports, application and infrastructural components, APIs, templates) and for the keys of each map
in increasing order, one error for each empty key, at the map, saying that a key in the map must
not be empty, and one for each key holding a character other than an ASCII letter or digit, `.`,
`_` and `-`, at the key, saying it is invalid; it reports no other key error, so a key is never
reported as seen twice: the keys of each map strictly increase, as a `Json.Map`'s do. A walk that
only fills reports none. -/
theorem component_key_errors_exact (d : Descriptor) (m : Mode) (e : Option String) :
    (d.walk m e).errors.filter (FieldError.ofKind .invalidOrDuplicateComponentKey) =
      if m.validates then
        d.components.toList.flatMap fun c =>
          c.maps.flatMap fun mp => mp.2.keys.filterMap (keyError mp.1)
      else [] := by
  rw [Descriptor.filter_errors (by decide) (by decide),
    filter_errors_walkOption_eq_nil (Info.filter_keys _),
    filter_errors_walkOption_eq_nil (InterfaceComponents.filter_keys _),
    filter_errors_walkOption_eq_nil (InternalComponents.filter_keys _)]
  cases hc : d.components with
  | none => split <;> rfl
  | some c => simpa using Components.filter_keys m d.productFqn c

end DataProduct
