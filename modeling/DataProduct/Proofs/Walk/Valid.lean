import DataProduct.Proofs.Walk.Step
import DataProduct.Registry
import Mathlib.Tactic.MkIffOfInductiveProp

/-!
# The descriptors a check accepts

`Descriptor.Valid expected d` states, node by node and in the words of the rules rather than of
the walk, what a descriptor must be for a checking walk to report nothing. A value counts as
present when it is there and not empty.

* the data product declares the descriptor's version, and has an `info` and ports;
* `info` has a name, a short name, a version, a domain and an owner with an identifier, and its
  name is the expected one, if one is expected;
* the output ports are declared, even if there are none;
* every port has a name and a version, and every standard definition it carries has a
  specification and a definition that is not `null`; every application and infrastructural
  component has a name;
* within one collection of ports, and within one kind of component, no present name repeats;
* every present version of a node is a semantic version, and every present entity type is the one
  the node's place calls for;
* every key of the reusable components is a valid key, and the keys of one map are distinct.

Main statement: `validate_ok_iff_valid`, a descriptor passes the check exactly when it is valid.
The lists of names are followed by `Fresh`: the names still to come are distinct and none of them
was seen, which is what each step of a collection's walk needs of the names before it.
-/

namespace DataProduct

/-! ## What a valid descriptor is -/

/-- A present version is a semantic version, and a present entity type is `expected`. -/
@[mk_iff] structure Identity.Conforms (expected : String) (i : Identity) : Prop where
  version : ∀ v, present i.version = some v → SemVer.accepts v = true
  entityType : ∀ t, present i.entityType = some t → t = expected

/-- A standard definition names its specification and holds a definition that is not `null`. -/
@[mk_iff] structure StandardDefinition.Valid (d : StandardDefinition) : Prop where
  specification : isPresent d.specification = true
  definition : ∃ v, d.definition = some v ∧ v.val ≠ .null
  identity : d.identity.Conforms DefinitionKind.api.entityType

/-- The definitions a port promises. -/
def Promises.definitions (r : Promises) : List StandardDefinition :=
  r.api.toList ++ r.deprecationPolicy.toList ++ r.slo.toList

/-- The definitions a port expects. -/
def Expectations.definitions (r : Expectations) : List StandardDefinition :=
  r.audience.toList ++ r.usage.toList

/-- The definitions a port is bound by. -/
def Obligations.definitions (r : Obligations) : List StandardDefinition :=
  r.termsAndConditions.toList ++ r.billingPolicy.toList ++ r.sla.toList

/-- The standard definitions a port carries, in the eight slots of its promises, expectations and
obligations. -/
def Port.definitions (p : Port) : List StandardDefinition :=
  p.promises.toList.flatMap Promises.definitions ++
    p.expectations.toList.flatMap Expectations.definitions ++
    p.obligations.toList.flatMap Obligations.definitions

theorem Port.forall_definitions (p : Port) (Q : StandardDefinition → Prop) :
    (∀ d ∈ p.definitions, Q d) ↔
      (∀ r ∈ p.promises, ∀ d ∈ r.definitions, Q d) ∧
        (∀ r ∈ p.expectations, ∀ d ∈ r.definitions, Q d) ∧
        ∀ r ∈ p.obligations, ∀ d ∈ r.definitions, Q d := by
  simp only [Port.definitions, List.mem_append, or_imp, forall_and]
  cases p.promises <;> cases p.expectations <;> cases p.obligations <;> simp [and_assoc]

/-- A port of a kind has a name and a version, and the definitions it carries are valid. -/
@[mk_iff] structure Port.Valid (kind : PortKind) (p : Port) : Prop where
  name : isPresent p.identity.name = true
  version : isPresent p.identity.version = true
  identity : p.identity.Conforms kind.entityType
  definitions : ∀ d ∈ p.definitions, d.Valid

/-- The present names of ports, in order. -/
def Port.names (ps : List Port) : List String := ps.filterMap fun p => present p.identity.name

/-- The output ports are declared, every port is valid, and no collection repeats a name. -/
@[mk_iff] structure InterfaceComponents.Valid (r : InterfaceComponents) : Prop where
  outputPorts : r.outputPorts.isSome = true
  ports : ∀ k, ∀ p ∈ r.ports k, p.Valid k
  names : ∀ k, (Port.names (r.ports k)).Nodup

/-- A component of a kind has a name. -/
@[mk_iff] structure Component.Valid (kind : ComponentKind) (c : Component) : Prop where
  name : isPresent c.identity.name = true
  identity : c.identity.Conforms kind.entityType

/-- The components of one kind. -/
def InternalComponents.components (r : InternalComponents) : ComponentKind → List Component
  | .application => r.applicationComponents
  | .infrastructural => r.infrastructuralComponents

/-- The present names of components, in order. -/
def Component.names (cs : List Component) : List String :=
  cs.filterMap fun c => present c.identity.name

/-- Every component is valid, and no kind repeats a name. -/
@[mk_iff] structure InternalComponents.Valid (r : InternalComponents) : Prop where
  components : ∀ k, ∀ c ∈ r.components k, c.Valid k
  names : ∀ k, (Component.names (r.components k)).Nodup

/-- Every key of the reusable components is valid; the keys of one map are distinct, as those of
every `Json.Map` are. -/
def Components.Valid (r : Components) : Prop :=
  ∀ m ∈ r.maps, ∀ k ∈ m.2.keys, validComponentKey k = true

/-- The data product's own part names the data product and its owner. -/
@[mk_iff] structure Info.Valid (r : Info) : Prop where
  fullyQualifiedName : isPresent r.identity.fullyQualifiedName = true
  name : isPresent r.identity.name = true
  version : isPresent r.identity.version = true
  domain : isPresent r.domain = true
  owner : ∃ o, r.owner = some o ∧ isPresent o.id = true
  identity : r.identity.Conforms dataProductEntityType

/-- A valid descriptor, when the data product's name is to be `expected` if that is given. -/
@[mk_iff] structure Descriptor.Valid (expected : Option String) (d : Descriptor) : Prop where
  dataProductDescriptor : isPresent d.dataProductDescriptor = true
  info : ∃ i, d.info = some i ∧ i.Valid
  expectedName : ∀ e ∈ expected, ∀ i ∈ d.info, ∀ f, present i.identity.fullyQualifiedName = some f → f = e
  interfaceComponents : ∃ r, d.interfaceComponents = some r ∧ r.Valid
  internalComponents : ∀ r ∈ d.internalComponents, r.Valid
  components : ∀ r ∈ d.components, r.Valid

theorem PortKind.forall_iff (Q : PortKind → Prop) :
    (∀ k, Q k) ↔ Q .input ∧ Q .output ∧ Q .discovery ∧ Q .observability ∧ Q .control :=
  ⟨fun h => ⟨h _, h _, h _, h _, h _⟩, fun ⟨hi, ho, hd, hb, hc⟩ k => by cases k <;> assumption⟩

theorem ComponentKind.forall_iff (Q : ComponentKind → Prop) :
    (∀ k, Q k) ↔ Q .application ∧ Q .infrastructural :=
  ⟨fun h => ⟨h _, h _⟩, fun ⟨ha, hi⟩ k => by cases k <;> assumption⟩

/-! ## Fresh names

The walk of a collection carries the names seen before the current item. -/

/-- The names are distinct, and none of them is in `seen`. -/
def Fresh (names seen : List String) : Prop := names.Nodup ∧ ∀ n ∈ names, n ∉ seen

theorem fresh_nil (seen : List String) : Fresh [] seen := by
  simp [Fresh]

theorem fresh_cons (n : String) (ns seen : List String) :
    Fresh (n :: ns) seen ↔ n ∉ seen ∧ Fresh ns (n :: seen) := by
  simp only [Fresh, List.nodup_cons, List.mem_cons, not_or, forall_eq_or_imp]
  constructor
  · rintro ⟨⟨hn, hd⟩, hs, hr⟩
    exact ⟨hs, hd, fun m hm => ⟨fun h => hn (h ▸ hm), hr m hm⟩⟩
  · rintro ⟨hs, hd, hr⟩
    exact ⟨⟨fun h => (hr n h).1 rfl, hd⟩, hs, fun m hm => (hr m hm).2⟩

theorem fresh_nil_iff (names : List String) : Fresh names [] ↔ names.Nodup := by
  simp [Fresh]

/-- One more item of a collection: its name, if present, must not have been seen, and joins the
names seen by the items after it. -/
theorem fresh_seenAfter (name : Option String) (ns seen : List String) :
    ((∀ n, present name = some n → n ∉ seen) ∧ Fresh ns (seenAfter name seen)) ↔
      Fresh ((present name).toList ++ ns) seen := by
  unfold seenAfter
  cases present name with
  | none => simp
  | some n => simp [fresh_cons]

/-- The present names of a collection, one item at a time. -/
theorem filterMap_present_cons {α : Type} (name : α → Option String) (a : α) (as : List α) :
    (a :: as).filterMap (fun a => present (name a)) =
      (present (name a)).toList ++ as.filterMap fun a => present (name a) := by
  rw [List.filterMap_cons]
  cases present (name a) <;> rfl

/-! ## The checks of one node -/

theorem require_eq_nil (v : Option String) (p : Path) : require v p = [] ↔ isPresent v = true := by
  unfold require
  split <;> simp_all

theorem duplicateName_eq_nil (label : String) (name : Option String) (seen : List String)
    (p : Path) : duplicateName label name seen p = [] ↔ ∀ n, present name = some n → n ∉ seen := by
  unfold duplicateName
  cases present name <;> simp

theorem Identity.check_eq_nil (i : Identity) (expected : String) (p : Path) :
    i.check expected p = [] ↔ i.Conforms expected := by
  rw [Identity.conforms_iff]
  simp only [Identity.check, List.append_eq_nil_iff]
  -- the version's check, then the entity type's
  apply and_congr
  · cases present i.version <;> simp
  · cases present i.entityType <;> simp [eq_comm]

theorem validComponentKey_ne_empty {k : String} (h : validComponentKey k = true) : k ≠ "" := by
  simp_all [validComponentKey]

theorem componentKeyErrors_eq_nil (label : Path) (keys seen : List String) :
    componentKeyErrors label keys seen = [] ↔ (∀ k ∈ keys, validComponentKey k = true) ∧ Fresh keys seen := by
  induction keys generalizing seen with
  | nil => simp [componentKeyErrors, fresh_nil]
  | cons k ks ih =>
    by_cases hv : validComponentKey k = true
    · have hk : k.isEmpty = false := by simpa using validComponentKey_ne_empty hv
      simp only [componentKeyErrors, hk, hv, List.append_eq_nil_iff, ih, List.forall_mem_cons,
        fresh_cons]
      simp [and_left_comm]
    · -- an invalid key is reported, empty or not
      simp only [componentKeyErrors, hv]
      split <;> simp [hv]

/-! ## A checking walk reports nothing exactly on valid nodes -/

/-- A collection walk reports nothing exactly when every node is valid and the present names are
fresh after those seen, when a node walk reports nothing exactly on a valid node whose present
name was not seen. -/
theorem walkItems_errors_eq_nil_iff {α : Type} {step : Scope → List String → α → Report α}
    {name : α → Option String} {valid : α → Prop} {s : Scope}
    (hstep : ∀ i seen a, (step (s.item i) seen a).errors = [] ↔
      valid a ∧ ∀ n, present (name a) = some n → n ∉ seen)
    (as : List α) (i : Nat) (seen : List String) :
    (walkItems step name s as i seen).errors = [] ↔
      (∀ a ∈ as, valid a) ∧ Fresh (as.filterMap fun a => present (name a)) seen := by
  induction as generalizing i seen with
  | nil => simp [walkItems, fresh_nil]
  | cons a as ih =>
    dsimp only [walkItems, Report.errors_bind, Report.errors_pure]
    rw [List.append_nil, List.append_eq_nil_iff, hstep, ih, List.forall_mem_cons,
      filterMap_present_cons, ← fresh_seenAfter]
    exact and_and_and_comm

section Walkers

variable (path : Path) (P : Option String)

theorem StandardDefinition.errors_eq_nil (d : StandardDefinition) :
    (StandardDefinition.walk ⟨.validateOnly, path, P⟩ d).errors = [] ↔ d.Valid := by
  dsimp only [StandardDefinition.walk, Report.errors_bind, Report.errors_pure]
  simp [Scope.identity_errors, Mode.validates, Mode.generates, require_eq_nil, Identity.check_eq_nil,
    StandardDefinition.valid_iff]
  -- a definition counts when it is there and not `null`
  intro _ _
  cases d.definition with
  | none => simp
  | some v =>
    obtain ⟨v, _⟩ := v
    cases v <;> simp

theorem Promises.errors_eq_nil (r : Promises) :
    (Promises.walk ⟨.validateOnly, path, P⟩ r).errors = [] ↔ ∀ d ∈ r.definitions, d.Valid := by
  dsimp only [Promises.walk, Report.errors_bind, Report.errors_pure, Scope.child]
  simp [errors_walkOption, StandardDefinition.errors_eq_nil, Promises.definitions, or_imp, forall_and]

theorem Expectations.errors_eq_nil (r : Expectations) :
    (Expectations.walk ⟨.validateOnly, path, P⟩ r).errors = [] ↔ ∀ d ∈ r.definitions, d.Valid := by
  dsimp only [Expectations.walk, Report.errors_bind, Report.errors_pure, Scope.child]
  simp [errors_walkOption, StandardDefinition.errors_eq_nil, Expectations.definitions, or_imp,
    forall_and]

theorem Obligations.errors_eq_nil (r : Obligations) :
    (Obligations.walk ⟨.validateOnly, path, P⟩ r).errors = [] ↔ ∀ d ∈ r.definitions, d.Valid := by
  dsimp only [Obligations.walk, Report.errors_bind, Report.errors_pure, Scope.child]
  simp [errors_walkOption, StandardDefinition.errors_eq_nil, Obligations.definitions, or_imp,
    forall_and]

theorem Port.errors_eq_nil (kind : PortKind) (seen : List String) (p : Port) :
    (Port.walk kind ⟨.validateOnly, path, P⟩ seen p).errors = [] ↔
      p.Valid kind ∧ ∀ n, present p.identity.name = some n → n ∉ seen := by
  dsimp only [Port.walk, Report.errors_bind, Report.errors_pure, Scope.child]
  simp [errors_walkOption, Scope.identity_errors, Mode.validates, Mode.generates, require_eq_nil,
    duplicateName_eq_nil, Identity.check_eq_nil, Promises.errors_eq_nil, Expectations.errors_eq_nil,
    Obligations.errors_eq_nil, Port.valid_iff, Port.forall_definitions]
  -- the name is checked against those seen right after the name and the version
  constructor
  · rintro ⟨hn, hv, hs, hi, hp, he, ho⟩
    exact ⟨⟨hn, hv, hi, hp, he, ho⟩, hs⟩
  · rintro ⟨⟨hn, hv, hi, hp, he, ho⟩, hs⟩
    exact ⟨hn, hv, hs, hi, hp, he, ho⟩

theorem InterfaceComponents.errors_eq_nil (r : InterfaceComponents) :
    (InterfaceComponents.walk ⟨.validateOnly, path, P⟩ r).errors = [] ↔ r.Valid := by
  have hps (k : PortKind) (q : Path) (ps : List Port) :
      (walkItems (Port.walk k) (·.identity.name) ⟨.validateOnly, q, P⟩ ps 0 []).errors = [] ↔
        (∀ p ∈ ps, p.Valid k) ∧ (Port.names ps).Nodup := by
    rw [← fresh_nil_iff]
    refine walkItems_errors_eq_nil_iff (fun i seen p => ?_) ps 0 []
    exact Port.errors_eq_nil _ P k seen p
  dsimp only [InterfaceComponents.walk, Report.errors_bind, Report.errors_pure, Scope.child]
  rw [InterfaceComponents.valid_iff, PortKind.forall_iff, PortKind.forall_iff]
  simp only [InterfaceComponents.ports, Scope.errors_check, Mode.validates, ↓reduceIte, errors_walkOption,
    List.append_nil, List.append_eq_nil_iff, hps]
  -- missing output ports are reported, and are no ports to walk
  cases r.outputPorts with
  | none => simp
  | some os =>
    simp only [Option.isSome_some, Option.toList_some, List.flatMap_singleton, Option.getD_some, hps,
      ite_true, true_and]
    constructor
    · rintro ⟨⟨hi, hi'⟩, ⟨ho, ho'⟩, ⟨hd, hd'⟩, ⟨hb, hb'⟩, ⟨hc, hc'⟩⟩
      exact ⟨⟨hi, ho, hd, hb, hc⟩, hi', ho', hd', hb', hc'⟩
    · rintro ⟨⟨hi, ho, hd, hb, hc⟩, hi', ho', hd', hb', hc'⟩
      exact ⟨⟨hi, hi'⟩, ⟨ho, ho'⟩, ⟨hd, hd'⟩, ⟨hb, hb'⟩, ⟨hc, hc'⟩⟩

theorem Component.errors_eq_nil (kind : ComponentKind) (seen : List String) (c : Component) :
    (Component.walk kind ⟨.validateOnly, path, P⟩ seen c).errors = [] ↔
      c.Valid kind ∧ ∀ n, present c.identity.name = some n → n ∉ seen := by
  dsimp only [Component.walk, Report.errors_bind, Report.errors_pure]
  simp [Scope.identity_errors, Mode.validates, Mode.generates, require_eq_nil, duplicateName_eq_nil,
    Identity.check_eq_nil, Component.valid_iff]
  simp only [and_comm, and_assoc]

theorem InternalComponents.errors_eq_nil (r : InternalComponents) :
    (InternalComponents.walk ⟨.validateOnly, path, P⟩ r).errors = [] ↔ r.Valid := by
  have hcs (k : ComponentKind) (q : Path) (cs : List Component) :
      (walkItems (Component.walk k) (·.identity.name) ⟨.validateOnly, q, P⟩ cs 0 []).errors = [] ↔
        (∀ c ∈ cs, c.Valid k) ∧ (Component.names cs).Nodup := by
    rw [← fresh_nil_iff]
    refine walkItems_errors_eq_nil_iff (fun i seen c => ?_) cs 0 []
    exact Component.errors_eq_nil _ P k seen c
  dsimp only [InternalComponents.walk, Report.errors_bind, Report.errors_pure, Scope.child]
  rw [InternalComponents.valid_iff, ComponentKind.forall_iff, ComponentKind.forall_iff]
  simp [InternalComponents.components, hcs, and_comm, and_left_comm, and_assoc]

theorem Components.errors_eq_nil (r : Components) :
    (Components.walk ⟨.validateOnly, path, P⟩ r).errors = [] ↔ r.Valid := by
  rw [Components.walk_eq]
  dsimp only [Report.errors_bind, Report.errors_pure]
  simp [Mode.validates, Components.Valid, componentKeyErrors_eq_nil, fresh_nil_iff]

theorem Info.errors_eq_nil (r : Info) :
    (Info.walk ⟨.validateOnly, path, P⟩ r).errors = [] ↔ r.Valid := by
  dsimp only [Info.walk, Report.errors_bind, Report.errors_pure]
  rw [Info.valid_iff]
  -- a missing owner is reported at `owner`, a present one at its `id`
  cases r.owner <;>
    simp [Scope.identity_errors, Mode.validates, Mode.generates, require_eq_nil,
      Identity.check_eq_nil, and_comm, and_left_comm]

end Walkers

theorem Descriptor.errors_eq_nil (e : Option String) (d : Descriptor) :
    (d.walk .validateOnly e).errors = [] ↔ d.Valid e := by
  dsimp only [Descriptor.walk, Report.errors_bind, Report.errors_pure, Scope.child]
  rw [Descriptor.valid_iff]
  simp only [Descriptor.productFqn, Scope.errors_check, Mode.validates, ↓reduceIte, errors_walkOption,
    List.append_nil, List.append_eq_nil_iff, require_eq_nil, Info.errors_eq_nil,
    InterfaceComponents.errors_eq_nil, InternalComponents.errors_eq_nil, Components.errors_eq_nil,
    List.flatMap_eq_nil_iff, Option.mem_toList]
  -- the sections must be there; then the name is compared with the expected one, if any
  cases d.info with
  | none => simp
  | some i =>
    cases d.interfaceComponents with
    | none => simp
    | some c =>
      cases e with
      | none => simp
      | some x =>
        cases hf : present i.identity.fullyQualifiedName with
        | none => simp [hf]
        | some f => by_cases hx : f = x <;> simp [hf, hx]

/-- `validate` succeeds exactly when a checking walk reports nothing. -/
theorem Registry.validate_eq_ok_iff (d : Descriptor) (e : Option String) :
    Registry.validate (some d) e = .ok () ↔ (d.walk .validateOnly e).errors = [] := by
  show (do let _ ← Registry.accept (d.walk .validateOnly e)) = Except.ok () ↔ _
  unfold Registry.accept
  split
  · rename_i h
    exact iff_of_true rfl (List.isEmpty_iff.mp h)
  · rename_i h
    exact iff_of_false nofun (mt List.isEmpty_iff.mpr h)

/-- A descriptor passes the check exactly when it is valid: `validate` succeeds, and equally a
checking run reports no error, if and only if the descriptor is `Descriptor.Valid` for the
expected name. -/
theorem validate_ok_iff_valid (d : Descriptor) (e : Option String) :
    (Registry.validate (some d) e = .ok () ↔ d.Valid e) ∧
      ((Registry.run (some d) .validateOnly e).map Report.errors = .ok [] ↔ d.Valid e) := by
  rw [← Descriptor.errors_eq_nil]
  refine ⟨Registry.validate_eq_ok_iff d e, ?_⟩
  show Except.ok (d.walk .validateOnly e).errors = Except.ok [] ↔ _
  simp

end DataProduct
