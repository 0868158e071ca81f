import DataProduct.Proofs.Walk.Fill

/-!
# Empty strings are missing values

A walk reads every optional string of a descriptor through `present`, so an empty string and a
missing one are the same to it: the required checks, the names seen in a collection, the version
and entity type checks, the data product's name, the three guards of filling and the inputs of
every derivation. `Descriptor.normalize` makes every empty optional string missing; two descriptors
with the same normal form are walked alike.

* `Identity.normalize_filled`: filling commutes with making empty values missing;
* `Descriptor.errors_normalize`: a walk reports on the normal form what it reports on the
  descriptor, in every mode;
* `Descriptor.normalize_generated`: the fill of the normal form has the normal form of the fill;
* `walk_blind_to_empty`: descriptors that differ only in empty against missing strings give the
  same errors, and descriptors that are equal once normalised.
-/

namespace DataProduct

/-! ## The normal form -/

/-- The identity with every empty value made missing. -/
def Identity.normalize (i : Identity) : Identity :=
  { fullyQualifiedName := present i.fullyQualifiedName, entityType := present i.entityType,
    name := present i.name, version := present i.version, id := present i.id }

/-- An owner with its empty values made missing. -/
def Owner.normalize (o : Owner) : Owner := { id := present o.id, name := present o.name }

/-- A contact point with its empty values made missing. -/
def ContactPoint.normalize (c : ContactPoint) : ContactPoint :=
  { name := present c.name, description := present c.description, channel := present c.channel,
    address := present c.address }

/-- External documentation with its empty values made missing. -/
def ExternalDocs.normalize (x : ExternalDocs) : ExternalDocs :=
  { description := present x.description, mediaType := present x.mediaType, url := present x.url }

/-- The data product's own part with every empty optional string made missing. -/
def Info.normalize (r : Info) : Info :=
  { identity := r.identity.normalize, displayName := present r.displayName,
    description := present r.description, domain := present r.domain,
    owner := r.owner.map Owner.normalize, contactPoints := r.contactPoints.map ContactPoint.normalize }

/-- A standard definition with every empty optional string made missing. -/
def StandardDefinition.normalize (d : StandardDefinition) : StandardDefinition :=
  { d with
    identity := d.identity.normalize, description := present d.description,
    specification := present d.specification, specificationVersion := present d.specificationVersion,
    externalDocs := d.externalDocs.map ExternalDocs.normalize }

/-- The promises of a port with every empty optional string made missing. -/
def Promises.normalize (r : Promises) : Promises :=
  { platform := present r.platform, servicesType := present r.servicesType,
    api := r.api.map StandardDefinition.normalize,
    deprecationPolicy := r.deprecationPolicy.map StandardDefinition.normalize,
    slo := r.slo.map StandardDefinition.normalize }

/-- The expectations of a port with every empty optional string made missing. -/
def Expectations.normalize (r : Expectations) : Expectations :=
  { audience := r.audience.map StandardDefinition.normalize,
    usage := r.usage.map StandardDefinition.normalize }

/-- The obligations of a port with every empty optional string made missing. -/
def Obligations.normalize (r : Obligations) : Obligations :=
  { termsAndConditions := r.termsAndConditions.map StandardDefinition.normalize,
    billingPolicy := r.billingPolicy.map StandardDefinition.normalize,
    sla := r.sla.map StandardDefinition.normalize }

/-- A port with every empty optional string made missing. -/
def Port.normalize (p : Port) : Port :=
  { p with
    identity := p.identity.normalize, displayName := present p.displayName,
    description := present p.description, promises := p.promises.map Promises.normalize,
    expectations := p.expectations.map Expectations.normalize,
    obligations := p.obligations.map Obligations.normalize,
    externalDocs := p.externalDocs.map ExternalDocs.normalize }

/-- The ports of a data product with every empty optional string made missing. -/
def InterfaceComponents.normalize (r : InterfaceComponents) : InterfaceComponents :=
  { inputPorts := r.inputPorts.map Port.normalize, outputPorts := r.outputPorts.map (·.map Port.normalize),
    discoveryPorts := r.discoveryPorts.map Port.normalize,
    observabilityPorts := r.observabilityPorts.map Port.normalize,
    controlPorts := r.controlPorts.map Port.normalize }

/-- A component with every empty optional string made missing. -/
def Component.normalize (c : Component) : Component :=
  { identity := c.identity.normalize, description := present c.description,
    externalDocs := c.externalDocs.map ExternalDocs.normalize }

/-- The components of a data product with every empty optional string made missing. -/
def InternalComponents.normalize (r : InternalComponents) : InternalComponents :=
  { r with
    applicationComponents := r.applicationComponents.map Component.normalize,
    infrastructuralComponents := r.infrastructuralComponents.map Component.normalize }

/-- A descriptor with every empty optional string made missing: the strings of the root, of
`info` and its owner and contact points, of every port, standard definition and internal
component, and of every external documentation. -/
def Descriptor.normalize (d : Descriptor) : Descriptor :=
  { d with
    dataProductDescriptor := present d.dataProductDescriptor, info := d.info.map Info.normalize,
    interfaceComponents := d.interfaceComponents.map InterfaceComponents.normalize,
    internalComponents := d.internalComponents.map InternalComponents.normalize,
    externalDocs := d.externalDocs.map ExternalDocs.normalize }

/-! ## Reading through `present` -/

@[simp] theorem isPresent_present (v : Option String) : isPresent (present v) = isPresent v := by
  rw [isPresent, isPresent, present_present]

@[simp] theorem require_present (v : Option String) (p : Path) : require (present v) p = require v p := by
  simp only [require, isPresent_present]

@[simp] theorem duplicateName_present (label : String) (name : Option String) (seen : List String)
    (p : Path) : duplicateName label (present name) seen p = duplicateName label name seen p := by
  simp only [duplicateName, present_present]

@[simp] theorem seenAfter_present (name : Option String) (seen : List String) :
    seenAfter (present name) seen = seenAfter name seen := by
  simp only [seenAfter, present_present]

@[simp] theorem childName_present (product : Option String) (segment : String) (name : Option String) :
    childName product segment (present name) = childName product segment name := by
  simp only [childName, present_present]

@[simp] theorem definitionNameOf_present (product name version : Option String) :
    definitionNameOf product (present name) (present version) = definitionNameOf product name version := by
  simp only [definitionNameOf, present_present]

/-- A fallback before an empty value gives, up to `present`, what it gives before a missing one. -/
theorem present_or_present (x v : Option String) : present (x.or (present v)) = present (x.or v) := by
  cases x with
  | none => exact present_present v
  | some s => rfl

/-! ## One identity -/

namespace Identity

@[simp] theorem normalize_name (i : Identity) : i.normalize.name = present i.name := rfl
@[simp] theorem normalize_version (i : Identity) : i.normalize.version = present i.version := rfl
@[simp] theorem normalize_fullyQualifiedName (i : Identity) :
    i.normalize.fullyQualifiedName = present i.fullyQualifiedName := rfl

theorem check_normalize (i : Identity) (expected : String) (p : Path) :
    i.normalize.check expected p = i.check expected p := by
  simp only [check, normalize, present_present]

/-- Filling commutes with making empty values missing, once the result is normalised too: a
value filling keeps is kept as it was, and a missing value and an empty one are replaced alike. -/
theorem normalize_filled (expected : String) (derived : Option String) (i : Identity) :
    (i.normalize.filled expected derived).normalize = (i.filled expected derived).normalize := by
  obtain ⟨f, t, n, v, d⟩ := i
  simp only [normalize, filled, mk.injEq, isPresent_present, present_present, true_and]
  -- the name first, as the identifier is derived from it
  have hf : present (if isPresent f then present f else derived.or (present f)) =
      present (if isPresent f then f else derived.or f) := by
    split
    · exact present_present f
    · exact present_or_present derived f
  refine ⟨hf, ?_, ?_⟩
  · split
    · exact present_present t
    · rfl
  · rw [hf]
    split
    · exact present_present d
    · exact present_or_present _ d

end Identity

/-- The identity step reports on an identity with its empty values made missing what it reports on
the identity, when the derivation reads the name and the version through `present`. -/
theorem Scope.identity_errors_normalize (s : Scope) {i : Identity} {expected : String}
    {derive : Identity → Option (Except IdentityError String)}
    (hd : ∀ j : Identity, present j.name = present i.name → present j.version = present i.version →
      derive j = derive i) :
    (s.identity i.normalize expected derive).errors = (s.identity i expected derive).errors := by
  have hN : derive i.normalize = derive i := hd _ (present_present _) (present_present _)
  rw [Scope.identity_errors, Scope.identity_errors, Identity.check_normalize,
    Identity.fill_snd fun t => (hd _ (present_present _) (present_present _)).trans hN.symm,
    Identity.fill_snd fun t => hd _ rfl rfl, hN, Identity.normalize_fullyQualifiedName,
    isPresent_present]

/-! ## What a walk reports on the normal form -/

section Walkers

variable (m : Mode) (path : Path) (P : Option String)

theorem StandardDefinition.errors_normalize (d : StandardDefinition) :
    (StandardDefinition.walk ⟨m, path, P⟩ d.normalize).errors =
      (StandardDefinition.walk ⟨m, path, P⟩ d).errors := by
  dsimp only [StandardDefinition.walk, StandardDefinition.normalize, Report.errors_bind,
    Report.errors_pure]
  rw [require_present, Scope.identity_errors_normalize _ fun j hn hv => by simp only [hn, hv]]

theorem Promises.errors_normalize (r : Promises) :
    (Promises.walk ⟨m, path, P⟩ r.normalize).errors = (Promises.walk ⟨m, path, P⟩ r).errors := by
  dsimp only [Promises.walk, Promises.normalize, Report.errors_bind, Report.errors_pure, Scope.child]
  simp only [errors_walkOption_map _ _ _ (StandardDefinition.errors_normalize m _ P)]

theorem Expectations.errors_normalize (r : Expectations) :
    (Expectations.walk ⟨m, path, P⟩ r.normalize).errors =
      (Expectations.walk ⟨m, path, P⟩ r).errors := by
  dsimp only [Expectations.walk, Expectations.normalize, Report.errors_bind, Report.errors_pure,
    Scope.child]
  simp only [errors_walkOption_map _ _ _ (StandardDefinition.errors_normalize m _ P)]

theorem Obligations.errors_normalize (r : Obligations) :
    (Obligations.walk ⟨m, path, P⟩ r.normalize).errors =
      (Obligations.walk ⟨m, path, P⟩ r).errors := by
  dsimp only [Obligations.walk, Obligations.normalize, Report.errors_bind, Report.errors_pure,
    Scope.child]
  simp only [errors_walkOption_map _ _ _ (StandardDefinition.errors_normalize m _ P)]

theorem Port.errors_normalize (kind : PortKind) (seen : List String) (p : Port) :
    (Port.walk kind ⟨m, path, P⟩ seen p.normalize).errors =
      (Port.walk kind ⟨m, path, P⟩ seen p).errors := by
  dsimp only [Port.walk, Port.normalize, Report.errors_bind, Report.errors_pure, Scope.child,
    Identity.normalize_name, Identity.normalize_version]
  rw [require_present, require_present, duplicateName_present,
    Scope.identity_errors_normalize _ fun j hn _ => by simp only [hn]]
  simp only [errors_walkOption_map _ _ _ (Promises.errors_normalize m _ P),
    errors_walkOption_map _ _ _ (Expectations.errors_normalize m _ P),
    errors_walkOption_map _ _ _ (Obligations.errors_normalize m _ P)]

theorem InterfaceComponents.errors_normalize (r : InterfaceComponents) :
    (InterfaceComponents.walk ⟨m, path, P⟩ r.normalize).errors =
      (InterfaceComponents.walk ⟨m, path, P⟩ r).errors := by
  -- the names seen after a port are its present name, the same in the normal form
  have hps (k : PortKind) (q : Path) (ps : List Port) :
      (walkItems (Port.walk k) (·.identity.name) ⟨m, q, P⟩ (ps.map Port.normalize) 0 []).errors =
        (walkItems (Port.walk k) (·.identity.name) ⟨m, q, P⟩ ps 0 []).errors := by
    refine walkItems_errors_map _ _ (fun _ _ => ?_) (fun i seen p => ?_) ps 0 []
    · exact seenAfter_present _ _
    · exact Port.errors_normalize m _ P k seen p
  dsimp only [InterfaceComponents.walk, InterfaceComponents.normalize, Report.errors_bind,
    Report.errors_pure, Scope.child]
  simp only [hps, Option.isSome_map,
    errors_walkOption_map (fun ps => walkItems (Port.walk .output) (·.identity.name) ⟨m, _, P⟩ ps 0 [])
      _ _ fun ps => hps .output _ ps]

theorem Component.errors_normalize (kind : ComponentKind) (seen : List String) (c : Component) :
    (Component.walk kind ⟨m, path, P⟩ seen c.normalize).errors =
      (Component.walk kind ⟨m, path, P⟩ seen c).errors := by
  dsimp only [Component.walk, Component.normalize, Report.errors_bind, Report.errors_pure,
    Identity.normalize_name]
  rw [require_present, duplicateName_present,
    Scope.identity_errors_normalize _ fun j hn _ => by simp only [hn]]

theorem InternalComponents.errors_normalize (r : InternalComponents) :
    (InternalComponents.walk ⟨m, path, P⟩ r.normalize).errors =
      (InternalComponents.walk ⟨m, path, P⟩ r).errors := by
  have hcs (k : ComponentKind) (q : Path) (cs : List Component) :
      (walkItems (Component.walk k) (·.identity.name) ⟨m, q, P⟩ (cs.map Component.normalize) 0
        []).errors = (walkItems (Component.walk k) (·.identity.name) ⟨m, q, P⟩ cs 0 []).errors := by
    refine walkItems_errors_map _ _ (fun _ _ => ?_) (fun i seen c => ?_) cs 0 []
    · exact seenAfter_present _ _
    · exact Component.errors_normalize m _ P k seen c
  dsimp only [InternalComponents.walk, InternalComponents.normalize, Report.errors_bind,
    Report.errors_pure, Scope.child]
  rw [hcs, hcs]

theorem Info.errors_normalize (r : Info) :
    (Info.walk ⟨m, path, P⟩ r.normalize).errors = (Info.walk ⟨m, path, P⟩ r).errors := by
  dsimp only [Info.walk, Info.normalize, Report.errors_bind, Report.errors_pure,
    Identity.normalize_name, Identity.normalize_version, Identity.normalize_fullyQualifiedName]
  rw [require_present, require_present, require_present, require_present,
    Scope.identity_errors_normalize _ fun _ _ _ => rfl]
  -- a missing owner is reported at `owner`, a present one at its `id`
  cases r.owner with
  | none => rfl
  | some o => simp only [Option.map_some, Owner.normalize, require_present]

end Walkers

/-- The data product's name is read through `present`. -/
@[simp] theorem Descriptor.productFqn_normalize (d : Descriptor) :
    d.normalize.productFqn = d.productFqn := by
  cases h : d.info with
  | none => simp [Descriptor.productFqn, Descriptor.normalize, h]
  | some i => simp [Descriptor.productFqn, Descriptor.normalize, Info.normalize, h, present_present]

/-- A walk in any mode reports on the normal form of a descriptor what it reports on the
descriptor. -/
theorem Descriptor.errors_normalize (m : Mode) (e : Option String) (d : Descriptor) :
    (d.normalize.walk m e).errors = (d.walk m e).errors := by
  dsimp only [Descriptor.walk, Report.errors_bind, Report.errors_pure, Scope.child]
  rw [Descriptor.productFqn_normalize]
  simp only [Descriptor.normalize, Option.isSome_map, require_present,
    errors_walkOption_map _ _ _ (Info.errors_normalize m _ _),
    errors_walkOption_map _ _ _ (InterfaceComponents.errors_normalize m _ _),
    errors_walkOption_map _ _ _ (InternalComponents.errors_normalize m _ _)]

/-! ## What a walk fills in the normal form -/

@[simp] theorem Owner.normalize_normalize (o : Owner) : o.normalize.normalize = o.normalize := by
  simp [Owner.normalize, present_present]

@[simp] theorem ContactPoint.normalize_normalize (c : ContactPoint) :
    c.normalize.normalize = c.normalize := by
  simp [ContactPoint.normalize, present_present]

@[simp] theorem ExternalDocs.normalize_normalize (x : ExternalDocs) :
    x.normalize.normalize = x.normalize := by
  simp [ExternalDocs.normalize, present_present]

section Generated

variable (P : Option String)

theorem StandardDefinition.normalize_generated (d : StandardDefinition) :
    (d.normalize.generated P).normalize = (d.generated P).normalize := by
  simp [StandardDefinition.generated, StandardDefinition.normalize, Identity.normalize_filled,
    Option.map_map, Function.comp_def, present_present]

theorem Promises.normalize_generated (r : Promises) :
    (r.normalize.generated P).normalize = (r.generated P).normalize := by
  simp [Promises.generated, Promises.normalize, Option.map_map, Function.comp_def, present_present,
    StandardDefinition.normalize_generated]

theorem Expectations.normalize_generated (r : Expectations) :
    (r.normalize.generated P).normalize = (r.generated P).normalize := by
  simp [Expectations.generated, Expectations.normalize, Option.map_map, Function.comp_def,
    StandardDefinition.normalize_generated]

theorem Obligations.normalize_generated (r : Obligations) :
    (r.normalize.generated P).normalize = (r.generated P).normalize := by
  simp [Obligations.generated, Obligations.normalize, Option.map_map, Function.comp_def,
    StandardDefinition.normalize_generated]

theorem Port.normalize_generated (kind : PortKind) (p : Port) :
    (p.normalize.generated P kind).normalize = (p.generated P kind).normalize := by
  simp [Port.generated, Port.normalize, Identity.normalize_filled, Option.map_map,
    Function.comp_def, present_present, Promises.normalize_generated,
    Expectations.normalize_generated, Obligations.normalize_generated]

theorem InterfaceComponents.normalize_generated (r : InterfaceComponents) :
    (r.normalize.generated P).normalize = (r.generated P).normalize := by
  simp [InterfaceComponents.generated, InterfaceComponents.normalize, Function.comp_def,
    Port.normalize_generated]

theorem Component.normalize_generated (kind : ComponentKind) (c : Component) :
    (c.normalize.generated P kind).normalize = (c.generated P kind).normalize := by
  simp [Component.generated, Component.normalize, Identity.normalize_filled, Option.map_map,
    Function.comp_def, present_present]

theorem InternalComponents.normalize_generated (r : InternalComponents) :
    (r.normalize.generated P).normalize = (r.generated P).normalize := by
  simp [InternalComponents.generated, InternalComponents.normalize, Function.comp_def,
    Component.normalize_generated]

end Generated

theorem Info.normalize_generated (r : Info) :
    r.normalize.generated.normalize = r.generated.normalize := by
  simp [Info.generated, Info.normalize, Identity.normalize_filled, Option.map_map,
    Function.comp_def, present_present]

/-- The fill of the normal form has the normal form of the fill: filling reads its inputs through
`present` and keeps what is present. -/
theorem Descriptor.normalize_generated (d : Descriptor) :
    d.normalize.generated.normalize = d.generated.normalize := by
  rw [Descriptor.generated, Descriptor.generated, productFqn_normalize]
  simp [Descriptor.normalize, Option.map_map, Function.comp_def, present_present,
    Info.normalize_generated, InterfaceComponents.normalize_generated,
    InternalComponents.normalize_generated]

/-- Empty strings are missing values. Two descriptors that differ only in that some optional
strings are missing in one and empty in the other are walked alike, in every mode and for every
expected name: the same errors in the same order, and descriptors that are equal once every empty
optional string is made missing. -/
theorem walk_blind_to_empty (m : Mode) (e : Option String) {d d' : Descriptor}
    (h : d.normalize = d'.normalize) :
    (Registry.run (some d) m e).map Report.errors = (Registry.run (some d') m e).map Report.errors ∧
      (Registry.run (some d) m e).map (·.value.normalize) =
        (Registry.run (some d') m e).map (·.value.normalize) := by
  have herr : (d.walk m e).errors = (d'.walk m e).errors := by
    rw [← Descriptor.errors_normalize, h, Descriptor.errors_normalize]
  have hval : (d.walk m e).value.normalize = (d'.walk m e).value.normalize := by
    rw [Descriptor.walk_value, Descriptor.walk_value]
    split
    · rw [← Descriptor.normalize_generated, h, Descriptor.normalize_generated]
    · exact h
  exact ⟨congrArg Except.ok herr, congrArg Except.ok hval⟩

/-- An empty descriptor version and a missing one: both are reported missing, and filling leaves
descriptors equal up to the empty string. -/
theorem walk_blind_to_empty_descriptor_version :
    ({ dataProductDescriptor := some "" } : Descriptor).normalize = ({} : Descriptor).normalize ∧
      (Registry.run (some { dataProductDescriptor := some "" }) .validateAndGenerate none).map
          Report.errors = (Registry.run (some {}) .validateAndGenerate none).map Report.errors ∧
      (Registry.run (some { dataProductDescriptor := some "" }) .validateAndGenerate none).map
          (·.value.normalize) =
        (Registry.run (some {}) .validateAndGenerate none).map (·.value.normalize) :=
  have h : ({ dataProductDescriptor := some "" } : Descriptor).normalize = ({} : Descriptor).normalize := rfl
  ⟨h, walk_blind_to_empty .validateAndGenerate none h⟩

end DataProduct
