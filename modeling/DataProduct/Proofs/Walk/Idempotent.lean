import DataProduct.Proofs.Walk.Fill

/-!
# Filling twice

A descriptor that a walk has filled has nothing left to fill, and nothing a check reads has
changed. The entity type filling writes is the one the place calls for, which the check accepts; a
name is derived from the data product's name, the node's name and its version, none of which
filling writes (the data product's own name is never derived); and the identifier is that of the
name as filling leaves it. A derivation that failed wrote nothing, so a second walk meets the same
failure at the same node.

* `Identity.filled_filled`: filling an identity twice is filling it once;
* `Scope.identity_errors_filled`: the identity step reports on a filled identity what it reports
  on the identity itself;
* `Descriptor.generated_generated`, `Descriptor.errors_generated`: the same two facts for a whole
  descriptor, the second in every mode;
* `generation_idempotent`: a walk over the descriptor a filling walk left leaves it as it is, and
  reports what a walk of its own mode reports on the original.
-/

namespace DataProduct

/-! ## One identity -/

namespace Identity

variable {expected : String}

@[simp] theorem filled_name (derived : Option String) (i : Identity) :
    (i.filled expected derived).name = i.name := rfl

@[simp] theorem filled_version (derived : Option String) (i : Identity) :
    (i.filled expected derived).version = i.version := rfl

/-- Filling never derives a name when none is to be derived. -/
@[simp] theorem filled_none_fullyQualifiedName (i : Identity) :
    (i.filled expected none).fullyQualifiedName = i.fullyQualifiedName := by
  simp only [filled]
  split <;> rfl

theorem filled_filled (derived : Option String) (i : Identity) :
    (i.filled expected derived).filled expected derived = i.filled expected derived := by
  obtain ⟨f, t, n, v, d⟩ := i
  simp only [filled, mk.injEq, true_and]
  -- each fallback is itself a fixed point: `o.or (o.or x) = o.or x`
  by_cases ht : isPresent t <;> by_cases hf : isPresent f <;> by_cases hd : isPresent d <;>
    simp [ht, hf, hd, ← Option.or_assoc, Option.or_self]

/-- The checks of a filled identity are those of the identity: filling keeps the version, and a
missing entity type becomes the expected one, which its check accepts. -/
theorem check_filled (derived : Option String) (i : Identity) (p : Path) :
    (i.filled expected derived).check expected p = i.check expected p := by
  simp only [check, filled_version]
  congr 1
  by_cases ht : isPresent i.entityType
  · simp [filled, ht]
  · have hn : present i.entityType = none := by simpa [isPresent] using ht
    simp only [filled, ht, hn, Bool.false_eq_true, ↓reduceIte, present_some]
    split <;> simp_all

/-- Filling a filled identity fails exactly where filling the identity failed, when the derivation
reads only the name and the version. -/
theorem fill_snd_filled {i : Identity} {derive : Identity → Option (Except IdentityError String)}
    (hd : ∀ j : Identity, j.name = i.name → j.version = i.version → derive j = derive i) :
    ((i.filled expected ((derive i).bind Except.toOption)).fill expected derive).2 =
      (i.fill expected derive).2 := by
  have hF : derive (i.filled expected ((derive i).bind Except.toOption)) = derive i := hd _ rfl rfl
  rw [fill_snd fun t => hd _ rfl rfl, fill_snd fun t => by rw [hF]; exact hd _ rfl rfl, hF]
  -- a derived name is there, and where it is empty the derivation did not fail
  by_cases hf : isPresent i.fullyQualifiedName
  · simp [filled, hf]
  · rcases derive i with _ | (e | f)
    · simp [filled, hf, derivationFailure]
    · simp [filled, hf, derivationFailure, Except.toOption]
    · simp [filled, hf, derivationFailure, Except.toOption]

end Identity

/-- The identity step reports on an identity filled with the name its derivation gives what it
reports on the identity itself. -/
theorem Scope.identity_errors_filled (s : Scope) {i : Identity} {expected : String}
    {derive : Identity → Option (Except IdentityError String)} {derived : Option String}
    (hx : (derive i).bind Except.toOption = derived)
    (hd : ∀ j : Identity, j.name = i.name → j.version = i.version → derive j = derive i) :
    (s.identity (i.filled expected derived) expected derive).errors =
      (s.identity i expected derive).errors := by
  subst hx
  rw [Scope.identity_errors, Scope.identity_errors, Identity.check_filled,
    Identity.fill_snd_filled hd]

/-! ## Filling a filled descriptor -/

section Generated

variable (P : Option String)

@[simp] theorem StandardDefinition.generated_generated (d : StandardDefinition) :
    (d.generated P).generated P = d.generated P := by
  simp [StandardDefinition.generated, Identity.filled_filled]

@[simp] theorem Promises.generated_generated (r : Promises) :
    (r.generated P).generated P = r.generated P := by
  simp [Promises.generated, Option.map_map, Function.comp_def,
    StandardDefinition.generated_generated]

@[simp] theorem Expectations.generated_generated (r : Expectations) :
    (r.generated P).generated P = r.generated P := by
  simp [Expectations.generated, Option.map_map, Function.comp_def,
    StandardDefinition.generated_generated]

@[simp] theorem Obligations.generated_generated (r : Obligations) :
    (r.generated P).generated P = r.generated P := by
  simp [Obligations.generated, Option.map_map, Function.comp_def,
    StandardDefinition.generated_generated]

@[simp] theorem Port.generated_generated (kind : PortKind) (p : Port) :
    (p.generated P kind).generated P kind = p.generated P kind := by
  simp [Port.generated, Option.map_map, Function.comp_def, Identity.filled_filled,
    Promises.generated_generated, Expectations.generated_generated,
    Obligations.generated_generated]

@[simp] theorem InterfaceComponents.generated_generated (r : InterfaceComponents) :
    (r.generated P).generated P = r.generated P := by
  simp [InterfaceComponents.generated, Function.comp_def, Port.generated_generated]

@[simp] theorem Component.generated_generated (kind : ComponentKind) (c : Component) :
    (c.generated P kind).generated P kind = c.generated P kind := by
  simp [Component.generated, Identity.filled_filled]

@[simp] theorem InternalComponents.generated_generated (r : InternalComponents) :
    (r.generated P).generated P = r.generated P := by
  simp [InternalComponents.generated, Function.comp_def, Component.generated_generated]

end Generated

@[simp] theorem Info.generated_generated (r : Info) : r.generated.generated = r.generated := by
  simp [Info.generated, Identity.filled_filled]

/-- Filling keeps the data product's name: it is never derived. -/
@[simp] theorem Descriptor.productFqn_generated (d : Descriptor) :
    d.generated.productFqn = d.productFqn := by
  cases h : d.info <;> simp [Descriptor.productFqn, Descriptor.generated, Info.generated, h]

@[simp] theorem Descriptor.generated_generated (d : Descriptor) : d.generated.generated = d.generated := by
  rw [Descriptor.generated, productFqn_generated]
  simp [Descriptor.generated, Option.map_map, Function.comp_def, Info.generated_generated,
    InterfaceComponents.generated_generated, InternalComponents.generated_generated]

/-! ## What a walk reports on a filled descriptor

Each walker's lemma unfolds it with `dsimp` and cites the lemmas of the nodes below, with the
scope written as `⟨mode, path, product⟩` as in the lemmas of the modes. -/

section Walkers

variable (m : Mode) (path : Path) (P : Option String)

theorem StandardDefinition.errors_generated (d : StandardDefinition) :
    (StandardDefinition.walk ⟨m, path, P⟩ (d.generated P)).errors =
      (StandardDefinition.walk ⟨m, path, P⟩ d).errors := by
  dsimp only [StandardDefinition.walk, StandardDefinition.generated, Report.errors_bind,
    Report.errors_pure]
  rw [Scope.identity_errors_filled _ (definitionNameOf_derived _ _ _)
    fun j hn hv => by simp only [hn, hv]]

theorem Promises.errors_generated (r : Promises) :
    (Promises.walk ⟨m, path, P⟩ (r.generated P)).errors = (Promises.walk ⟨m, path, P⟩ r).errors := by
  dsimp only [Promises.walk, Promises.generated, Report.errors_bind, Report.errors_pure, Scope.child]
  simp only [errors_walkOption_map _ _ _ (StandardDefinition.errors_generated m _ P)]

theorem Expectations.errors_generated (r : Expectations) :
    (Expectations.walk ⟨m, path, P⟩ (r.generated P)).errors =
      (Expectations.walk ⟨m, path, P⟩ r).errors := by
  dsimp only [Expectations.walk, Expectations.generated, Report.errors_bind, Report.errors_pure,
    Scope.child]
  simp only [errors_walkOption_map _ _ _ (StandardDefinition.errors_generated m _ P)]

theorem Obligations.errors_generated (r : Obligations) :
    (Obligations.walk ⟨m, path, P⟩ (r.generated P)).errors =
      (Obligations.walk ⟨m, path, P⟩ r).errors := by
  dsimp only [Obligations.walk, Obligations.generated, Report.errors_bind, Report.errors_pure,
    Scope.child]
  simp only [errors_walkOption_map _ _ _ (StandardDefinition.errors_generated m _ P)]

theorem Port.errors_generated (kind : PortKind) (seen : List String) (p : Port) :
    (Port.walk kind ⟨m, path, P⟩ seen (p.generated P kind)).errors =
      (Port.walk kind ⟨m, path, P⟩ seen p).errors := by
  dsimp only [Port.walk, Port.generated, Report.errors_bind, Report.errors_pure, Scope.child,
    Identity.filled_name, Identity.filled_version]
  rw [Scope.identity_errors_filled _ (childName_derived _ kind.segment_ne_empty _)
    fun j hn _ => by simp only [hn]]
  simp only [errors_walkOption_map _ _ _ (Promises.errors_generated m _ P),
    errors_walkOption_map _ _ _ (Expectations.errors_generated m _ P),
    errors_walkOption_map _ _ _ (Obligations.errors_generated m _ P)]

theorem InterfaceComponents.errors_generated (r : InterfaceComponents) :
    (InterfaceComponents.walk ⟨m, path, P⟩ (r.generated P)).errors =
      (InterfaceComponents.walk ⟨m, path, P⟩ r).errors := by
  -- the names seen by the ports after a port are names, which filling keeps
  have hps (k : PortKind) (q : Path) (ps : List Port) :
      (walkItems (Port.walk k) (·.identity.name) ⟨m, q, P⟩ (ps.map (·.generated P k)) 0 []).errors =
        (walkItems (Port.walk k) (·.identity.name) ⟨m, q, P⟩ ps 0 []).errors := by
    refine walkItems_errors_map _ _ (fun _ _ => ?_) (fun i seen p => ?_) ps 0 []
    · rfl
    · exact Port.errors_generated m _ P k seen p
  dsimp only [InterfaceComponents.walk, InterfaceComponents.generated, Report.errors_bind,
    Report.errors_pure, Scope.child]
  simp only [hps, Option.isSome_map,
    errors_walkOption_map (fun ps => walkItems (Port.walk .output) (·.identity.name) ⟨m, _, P⟩ ps 0 [])
      _ _ fun ps => hps .output _ ps]

theorem Component.errors_generated (kind : ComponentKind) (seen : List String) (c : Component) :
    (Component.walk kind ⟨m, path, P⟩ seen (c.generated P kind)).errors =
      (Component.walk kind ⟨m, path, P⟩ seen c).errors := by
  dsimp only [Component.walk, Component.generated, Report.errors_bind, Report.errors_pure,
    Identity.filled_name]
  rw [Scope.identity_errors_filled _ (childName_derived _ kind.segment_ne_empty _)
    fun j hn _ => by simp only [hn]]

theorem InternalComponents.errors_generated (r : InternalComponents) :
    (InternalComponents.walk ⟨m, path, P⟩ (r.generated P)).errors =
      (InternalComponents.walk ⟨m, path, P⟩ r).errors := by
  have hcs (k : ComponentKind) (q : Path) (cs : List Component) :
      (walkItems (Component.walk k) (·.identity.name) ⟨m, q, P⟩ (cs.map (·.generated P k)) 0
        []).errors = (walkItems (Component.walk k) (·.identity.name) ⟨m, q, P⟩ cs 0 []).errors := by
    refine walkItems_errors_map _ _ (fun _ _ => ?_) (fun i seen c => ?_) cs 0 []
    · rfl
    · exact Component.errors_generated m _ P k seen c
  dsimp only [InternalComponents.walk, InternalComponents.generated, Report.errors_bind,
    Report.errors_pure, Scope.child]
  rw [hcs, hcs]

theorem Info.errors_generated (r : Info) :
    (Info.walk ⟨m, path, P⟩ r.generated).errors = (Info.walk ⟨m, path, P⟩ r).errors := by
  dsimp only [Info.walk, Info.generated, Report.errors_bind, Report.errors_pure]
  rw [Identity.filled_none_fullyQualifiedName, Identity.filled_name, Identity.filled_version,
    Scope.identity_errors_filled]
  · rfl
  · exact fun _ _ _ => rfl

end Walkers

/-- A walk in any mode reports on a filled descriptor what it reports on the descriptor itself. -/
theorem Descriptor.errors_generated (m : Mode) (e : Option String) (d : Descriptor) :
    (d.generated.walk m e).errors = (d.walk m e).errors := by
  dsimp only [Descriptor.walk, Report.errors_bind, Report.errors_pure, Scope.child]
  rw [Descriptor.productFqn_generated]
  simp only [Descriptor.generated, Option.isSome_map,
    errors_walkOption_map _ _ _ (Info.errors_generated m _ _),
    errors_walkOption_map _ _ _ (InterfaceComponents.errors_generated m _ _),
    errors_walkOption_map _ _ _ (InternalComponents.errors_generated m _ _)]

/-- Filling is idempotent. A walk of any mode over the descriptor a filling walk left (in either
filling mode, whatever name was expected) leaves that descriptor as it is; and it reports what a
walk of its own mode reports on the original, so a second combined walk reports exactly the
errors of the first, the failures to derive a name included. -/
theorem generation_idempotent (d : Descriptor) {m₁ : Mode} (hm : m₁.generates = true) (m₂ : Mode)
    (e₁ e₂ : Option String) :
    (Registry.run (some d) m₁ e₁ >>= fun r => Registry.run (some r.value) m₂ e₂).map Report.value =
        (Registry.run (some d) m₁ e₁).map Report.value ∧
      (Registry.run (some d) m₁ e₁ >>= fun r => Registry.run (some r.value) m₂ e₂).map Report.errors =
        (Registry.run (some d) m₂ e₂).map Report.errors := by
  have hv : (d.walk m₁ e₁).value = d.generated := by
    rw [Descriptor.walk_value, if_pos hm]
  constructor
  · show Except.ok ((d.walk m₁ e₁).value.walk m₂ e₂).value = Except.ok (d.walk m₁ e₁).value
    rw [hv, Descriptor.walk_value, Descriptor.generated_generated, ite_self]
  · show Except.ok ((d.walk m₁ e₁).value.walk m₂ e₂).errors = Except.ok (d.walk m₂ e₂).errors
    rw [hv, Descriptor.errors_generated]

/-- A data product that names only itself: the first filling walk gives it its entity type and
identifier, and a second combined walk changes nothing and reports what a combined walk reports on
the original. -/
theorem generation_idempotent_named_product :
    Mode.generateOnly.generates = true ∧
      (Registry.run (some { info := some { identity := { fullyQualifiedName := some "urn:p" } } })
          .generateOnly none >>= fun r =>
        Registry.run (some r.value) .validateAndGenerate (some "urn:q")).map Report.value =
        (Registry.run (some { info := some { identity := { fullyQualifiedName := some "urn:p" } } })
          .generateOnly none).map Report.value ∧
      (Registry.run (some { info := some { identity := { fullyQualifiedName := some "urn:p" } } })
          .generateOnly none >>= fun r =>
        Registry.run (some r.value) .validateAndGenerate (some "urn:q")).map Report.errors =
        (Registry.run (some { info := some { identity := { fullyQualifiedName := some "urn:p" } } })
          .validateAndGenerate (some "urn:q")).map Report.errors :=
  ⟨rfl, generation_idempotent _ rfl .validateAndGenerate none (some "urn:q")⟩

end DataProduct
