import DataProduct.Proofs.Walk.Step
import DataProduct.Registry

/-!
# The three modes report the same checks

A walk that checks and fills in one pass reports what a walk that only checks reports, entry for
entry and in the same order, with the failures to derive a definition's name added; a walk that
only fills reports nothing. No check reads what the walk fills: each node is checked before its
identity is filled, the data product's name is taken before the walk, the names seen so far in a
collection are names, which filling never writes, and the children of a node are walked from the
node as it was given.

Each walker has two lemmas, one per mode, with the scope written as `⟨mode, path, product⟩` so
that the lemmas of the children apply to the scopes `Scope.child` and `Scope.item` build:

* `errors_generateOnly`: filling alone reports nothing;
* `checks_combined`: the checks of a combined walk are the errors of a checking walk;
* `run_modes_report_same_checks`: the two together, for a whole descriptor.
-/

namespace DataProduct

/-- Whether an error reports a check: every error but a failure to derive a name. -/
def FieldError.isCheck (e : FieldError) : Bool := e.kind != .fqnExtractionFailure

@[simp] theorem FieldError.isCheck_mk (p : Path) (k : FieldErrorKind) (m : String) :
    FieldError.isCheck ⟨p, k, m⟩ = (k != .fqnExtractionFailure) := rfl

/-! ## The errors of one node

Every error a node's own checks report is a check; only the identity step reports anything else.
-/

@[simp] theorem filter_isCheck_require (v : Option String) (p : Path) :
    (require v p).filter FieldError.isCheck = require v p := by
  unfold require
  split <;> rfl

@[simp] theorem filter_isCheck_duplicateName (label : String) (name : Option String)
    (seen : List String) (p : Path) :
    (duplicateName label name seen p).filter FieldError.isCheck = duplicateName label name seen p := by
  unfold duplicateName
  split
  · split <;> rfl
  · rfl

@[simp] theorem Identity.filter_isCheck_check (i : Identity) (expected : String) (p : Path) :
    (i.check expected p).filter FieldError.isCheck = i.check expected p := by
  simp only [Identity.check, List.filter_append]
  -- the version's check, then the entity type's
  congr 1
  · split
    · split <;> rfl
    · rfl
  · split
    · split <;> rfl
    · rfl

@[simp] theorem filter_isCheck_componentKeyErrors (label : Path) (keys seen : List String) :
    (componentKeyErrors label keys seen).filter FieldError.isCheck = componentKeyErrors label keys seen := by
  induction keys generalizing seen with
  | nil => rfl
  | cons k ks ih =>
    simp only [componentKeyErrors, List.filter_append, ih]
    congr 1
    split
    · rfl
    · split
      · rfl
      · split <;> rfl

@[simp] theorem Scope.filter_isCheck_extraction (s : Scope) (err : Option IdentityError) :
    (err.map s.extractionError).toList.filter FieldError.isCheck = [] := by
  cases err <;> rfl

theorem Scope.identity_errors_generateOnly (path : Path) (P : Option String) (i : Identity)
    (expected : String) (derive : Identity → Option (Except IdentityError String)) :
    (Scope.identity ⟨.generateOnly, path, P⟩ i expected derive).errors = [] := by
  simp [Scope.identity_errors, Mode.validates]

theorem Scope.identity_checks_combined (path : Path) (P : Option String) (i : Identity)
    (expected : String) (derive : Identity → Option (Except IdentityError String)) :
    (Scope.identity ⟨.validateAndGenerate, path, P⟩ i expected derive).errors.filter FieldError.isCheck =
      (Scope.identity ⟨.validateOnly, path, P⟩ i expected derive).errors := by
  simp [Scope.identity_errors, Mode.validates, Mode.generates]

/-! ## Walkers

Each proof unfolds the walker and the report's projections with `dsimp`, then cites the lemmas of
the nodes below; `apply_ite` moves the filter into the checks written inline in a walker. -/

section Walkers

variable (path : Path) (P : Option String)

theorem StandardDefinition.errors_generateOnly (d : StandardDefinition) :
    (StandardDefinition.walk ⟨.generateOnly, path, P⟩ d).errors = [] := by
  dsimp only [StandardDefinition.walk, Report.errors_bind, Report.errors_pure]
  simp [Scope.identity_errors_generateOnly, Mode.validates]

theorem StandardDefinition.checks_combined (d : StandardDefinition) :
    (StandardDefinition.walk ⟨.validateAndGenerate, path, P⟩ d).errors.filter FieldError.isCheck =
      (StandardDefinition.walk ⟨.validateOnly, path, P⟩ d).errors := by
  dsimp only [StandardDefinition.walk, Report.errors_bind, Report.errors_pure, Scope.field]
  simp [Scope.identity_checks_combined, Mode.validates, apply_ite (List.filter FieldError.isCheck),
    List.filter_cons]

theorem Promises.errors_generateOnly (r : Promises) :
    (Promises.walk ⟨.generateOnly, path, P⟩ r).errors = [] := by
  dsimp only [Promises.walk, Report.errors_bind, Report.errors_pure, Scope.child]
  simp [errors_walkOption, StandardDefinition.errors_generateOnly]

theorem Promises.checks_combined (r : Promises) :
    (Promises.walk ⟨.validateAndGenerate, path, P⟩ r).errors.filter FieldError.isCheck =
      (Promises.walk ⟨.validateOnly, path, P⟩ r).errors := by
  dsimp only [Promises.walk, Report.errors_bind, Report.errors_pure, Scope.child]
  simp [errors_walkOption, List.filter_flatMap, StandardDefinition.checks_combined]

theorem Expectations.errors_generateOnly (r : Expectations) :
    (Expectations.walk ⟨.generateOnly, path, P⟩ r).errors = [] := by
  dsimp only [Expectations.walk, Report.errors_bind, Report.errors_pure, Scope.child]
  simp [errors_walkOption, StandardDefinition.errors_generateOnly]

theorem Expectations.checks_combined (r : Expectations) :
    (Expectations.walk ⟨.validateAndGenerate, path, P⟩ r).errors.filter FieldError.isCheck =
      (Expectations.walk ⟨.validateOnly, path, P⟩ r).errors := by
  dsimp only [Expectations.walk, Report.errors_bind, Report.errors_pure, Scope.child]
  simp [errors_walkOption, List.filter_flatMap, StandardDefinition.checks_combined]

theorem Obligations.errors_generateOnly (r : Obligations) :
    (Obligations.walk ⟨.generateOnly, path, P⟩ r).errors = [] := by
  dsimp only [Obligations.walk, Report.errors_bind, Report.errors_pure, Scope.child]
  simp [errors_walkOption, StandardDefinition.errors_generateOnly]

theorem Obligations.checks_combined (r : Obligations) :
    (Obligations.walk ⟨.validateAndGenerate, path, P⟩ r).errors.filter FieldError.isCheck =
      (Obligations.walk ⟨.validateOnly, path, P⟩ r).errors := by
  dsimp only [Obligations.walk, Report.errors_bind, Report.errors_pure, Scope.child]
  simp [errors_walkOption, List.filter_flatMap, StandardDefinition.checks_combined]

theorem Port.errors_generateOnly (kind : PortKind) (seen : List String) (p : Port) :
    (Port.walk kind ⟨.generateOnly, path, P⟩ seen p).errors = [] := by
  dsimp only [Port.walk, Report.errors_bind, Report.errors_pure, Scope.child]
  simp [errors_walkOption, Scope.identity_errors_generateOnly, Mode.validates,
    Promises.errors_generateOnly, Expectations.errors_generateOnly, Obligations.errors_generateOnly]

theorem Port.checks_combined (kind : PortKind) (seen : List String) (p : Port) :
    (Port.walk kind ⟨.validateAndGenerate, path, P⟩ seen p).errors.filter FieldError.isCheck =
      (Port.walk kind ⟨.validateOnly, path, P⟩ seen p).errors := by
  dsimp only [Port.walk, Report.errors_bind, Report.errors_pure, Scope.child, Scope.field]
  simp [errors_walkOption, List.filter_flatMap, Scope.identity_checks_combined, Mode.validates,
    Promises.checks_combined, Expectations.checks_combined, Obligations.checks_combined]

theorem InterfaceComponents.errors_generateOnly (r : InterfaceComponents) :
    (InterfaceComponents.walk ⟨.generateOnly, path, P⟩ r).errors = [] := by
  have hps (k : PortKind) (q : Path) (ps : List Port) :
      (walkItems (Port.walk k) (·.identity.name) ⟨.generateOnly, q, P⟩ ps 0 []).errors = [] := by
    refine walkItems_errors_eq_nil_of _ _ (fun i seen p => ?_) ps 0 []
    exact Port.errors_generateOnly _ P k seen p
  dsimp only [InterfaceComponents.walk, Report.errors_bind, Report.errors_pure, Scope.child]
  simp [errors_walkOption, hps, Mode.validates]

theorem InterfaceComponents.checks_combined (r : InterfaceComponents) :
    (InterfaceComponents.walk ⟨.validateAndGenerate, path, P⟩ r).errors.filter FieldError.isCheck =
      (InterfaceComponents.walk ⟨.validateOnly, path, P⟩ r).errors := by
  have hps (k : PortKind) (q : Path) (ps : List Port) :
      (walkItems (Port.walk k) (·.identity.name) ⟨.validateAndGenerate, q, P⟩ ps 0 []).errors.filter
          FieldError.isCheck =
        (walkItems (Port.walk k) (·.identity.name) ⟨.validateOnly, q, P⟩ ps 0 []).errors := by
    refine filter_walkItems _ _ (fun i seen p => ?_) ps 0 []
    exact Port.checks_combined _ P k seen p
  dsimp only [InterfaceComponents.walk, Report.errors_bind, Report.errors_pure, Scope.child,
    Scope.field]
  simp [errors_walkOption, List.filter_flatMap, hps, Mode.validates,
    apply_ite (List.filter FieldError.isCheck), List.filter_cons]

theorem Component.errors_generateOnly (kind : ComponentKind) (seen : List String) (c : Component) :
    (Component.walk kind ⟨.generateOnly, path, P⟩ seen c).errors = [] := by
  dsimp only [Component.walk, Report.errors_bind, Report.errors_pure]
  simp [Scope.identity_errors_generateOnly, Mode.validates]

theorem Component.checks_combined (kind : ComponentKind) (seen : List String) (c : Component) :
    (Component.walk kind ⟨.validateAndGenerate, path, P⟩ seen c).errors.filter FieldError.isCheck =
      (Component.walk kind ⟨.validateOnly, path, P⟩ seen c).errors := by
  dsimp only [Component.walk, Report.errors_bind, Report.errors_pure, Scope.field]
  simp [Scope.identity_checks_combined, Mode.validates]

theorem InternalComponents.errors_generateOnly (r : InternalComponents) :
    (InternalComponents.walk ⟨.generateOnly, path, P⟩ r).errors = [] := by
  have hcs (k : ComponentKind) (q : Path) (cs : List Component) :
      (walkItems (Component.walk k) (·.identity.name) ⟨.generateOnly, q, P⟩ cs 0 []).errors = [] := by
    refine walkItems_errors_eq_nil_of _ _ (fun i seen c => ?_) cs 0 []
    exact Component.errors_generateOnly _ P k seen c
  dsimp only [InternalComponents.walk, Report.errors_bind, Report.errors_pure, Scope.child]
  rw [hcs, hcs]
  rfl

theorem InternalComponents.checks_combined (r : InternalComponents) :
    (InternalComponents.walk ⟨.validateAndGenerate, path, P⟩ r).errors.filter FieldError.isCheck =
      (InternalComponents.walk ⟨.validateOnly, path, P⟩ r).errors := by
  have hcs (k : ComponentKind) (q : Path) (cs : List Component) :
      (walkItems (Component.walk k) (·.identity.name) ⟨.validateAndGenerate, q, P⟩ cs 0 []).errors.filter
          FieldError.isCheck =
        (walkItems (Component.walk k) (·.identity.name) ⟨.validateOnly, q, P⟩ cs 0 []).errors := by
    refine filter_walkItems _ _ (fun i seen c => ?_) cs 0 []
    exact Component.checks_combined _ P k seen c
  dsimp only [InternalComponents.walk, Report.errors_bind, Report.errors_pure, Scope.child]
  rw [List.filter_append, List.filter_append, hcs, hcs, List.filter_nil]

theorem Components.errors_generateOnly (r : Components) :
    (Components.walk ⟨.generateOnly, path, P⟩ r).errors = [] := by
  simp [Components.walk_eq, Mode.validates]

theorem Components.checks_combined (r : Components) :
    (Components.walk ⟨.validateAndGenerate, path, P⟩ r).errors.filter FieldError.isCheck =
      (Components.walk ⟨.validateOnly, path, P⟩ r).errors := by
  rw [Components.walk_eq, Components.walk_eq]
  dsimp only [Report.errors_bind, Report.errors_pure, Scope.field]
  simp [Mode.validates, List.filter_flatMap]

theorem Info.errors_generateOnly (r : Info) :
    (Info.walk ⟨.generateOnly, path, P⟩ r).errors = [] := by
  dsimp only [Info.walk, Report.errors_bind, Report.errors_pure]
  simp [Scope.identity_errors_generateOnly, Mode.validates]

theorem Info.checks_combined (r : Info) :
    (Info.walk ⟨.validateAndGenerate, path, P⟩ r).errors.filter FieldError.isCheck =
      (Info.walk ⟨.validateOnly, path, P⟩ r).errors := by
  dsimp only [Info.walk, Report.errors_bind, Report.errors_pure, Scope.field]
  -- the owner's check is the only one written inline
  cases r.owner <;> simp [Scope.identity_checks_combined, Mode.validates, List.filter_cons]

end Walkers

theorem Descriptor.errors_generateOnly (e : Option String) (d : Descriptor) :
    (d.walk .generateOnly e).errors = [] := by
  dsimp only [Descriptor.walk, Report.errors_bind, Report.errors_pure, Scope.child]
  simp [errors_walkOption, Mode.validates, Info.errors_generateOnly,
    InterfaceComponents.errors_generateOnly, InternalComponents.errors_generateOnly,
    Components.errors_generateOnly]

theorem Descriptor.checks_combined (e : Option String) (d : Descriptor) :
    (d.walk .validateAndGenerate e).errors.filter FieldError.isCheck = (d.walk .validateOnly e).errors := by
  dsimp only [Descriptor.walk, Report.errors_bind, Report.errors_pure, Scope.child]
  -- the mismatch with the expected name and the missing sections are written inline
  cases d.productFqn <;> cases e <;>
    simp [errors_walkOption, List.filter_flatMap, Mode.validates, apply_ite (List.filter FieldError.isCheck),
      List.filter_cons, Info.checks_combined, InterfaceComponents.checks_combined,
      InternalComponents.checks_combined, Components.checks_combined]

/-- The three modes report the same checks: a combined walk reports, once its failures to derive a
name are removed, exactly the errors of a checking walk, in the same order; and a walk that only
fills reports nothing. -/
theorem run_modes_report_same_checks (d : Descriptor) (e : Option String) :
    (Registry.run (some d) .validateAndGenerate e).map (·.errors.filter FieldError.isCheck) =
        (Registry.run (some d) .validateOnly e).map Report.errors ∧
      (Registry.run (some d) .generateOnly e).map Report.errors = .ok [] := by
  constructor
  · show Except.ok ((d.walk .validateAndGenerate e).errors.filter FieldError.isCheck) =
      Except.ok (d.walk .validateOnly e).errors
    rw [Descriptor.checks_combined]
  · show Except.ok (d.walk .generateOnly e).errors = _
    rw [Descriptor.errors_generateOnly]

end DataProduct
