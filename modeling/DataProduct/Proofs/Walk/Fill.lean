import DataProduct.Proofs.Walk.Step
import DataProduct.Registry

/-!
# What a walk fills

A walk in a mode that fills changes a descriptor only in the identities of its addressable nodes:
the data product's `info`, every port, every standard definition on a port, and every application
and infrastructural component. Each of those becomes `Identity.filled` of itself, with the entity
type of the node's place and the name the place derives from the data product's name (taken
before the walk), the node's name and, for a definition, its version. `Descriptor.generated`
writes this fill out over a whole descriptor; a walk that only checks changes nothing.

* `Identity.fill_fst`: filling an identity is `Identity.filled`;
* `Identity.fill_snd`: the failure filling reports is that of the derivation, asked only for a
  missing name;
* `Descriptor.walk_value`: the descriptor a walk leaves, in every mode;
* `run_fills_reference`: both filling modes leave `Descriptor.generated`;
* `run_validateOnly_keeps`: checking leaves the descriptor as it was.
-/

namespace DataProduct

/-! ## Filling one identity -/

/-- The error of a derivation that was asked and failed. -/
def derivationFailure : Option (Except IdentityError String) → Option IdentityError
  | some (.error e) => some e
  | _ => none

namespace Identity

/-- What filling leaves in an identity, at a place of entity type `expected` that would name it
`derived`: a present value is kept; a missing entity type becomes `expected`; a missing name
becomes `derived` when there is one; and a missing identifier becomes that of the name, given or
derived. -/
def filled (expected : String) (derived : Option String) (i : Identity) : Identity :=
  let fqn := if isPresent i.fullyQualifiedName then i.fullyQualifiedName
    else derived.or i.fullyQualifiedName
  { i with
    entityType := if isPresent i.entityType then i.entityType else some expected
    fullyQualifiedName := fqn
    id := if isPresent i.id then i.id else ((present fqn).map Uuid.ofUrl).or i.id }

/-- Filling is `filled` with the name the derivation gives, when the derivation does not read the
entity type (which filling writes before it derives the name). -/
theorem fill_fst {i : Identity} {expected : String}
    {derive : Identity → Option (Except IdentityError String)}
    (hd : ∀ t, derive { i with entityType := t } = derive i) :
    (i.fill expected derive).1 = i.filled expected ((derive i).bind Except.toOption) := by
  have hj : derive (if isPresent i.entityType then i else { i with entityType := some expected }) =
      derive i := by
    split
    · rfl
    · exact hd _
  generalize derive i = r at hj
  -- one case for each way the entity type, the name and the identifier can stand
  by_cases he : isPresent i.entityType <;> simp only [he, Bool.false_eq_true, ↓reduceIte] at hj <;>
    by_cases hf : isPresent i.fullyQualifiedName <;> rcases r with _ | (e | f) <;>
    by_cases hi : isPresent i.id <;>
    simp [fill, filled, he, hf, hi, hj, Except.toOption] <;> split <;> simp_all

/-- The failure filling reports: none when the name is present, else the derivation's failure, if
it failed. -/
theorem fill_snd {i : Identity} {expected : String}
    {derive : Identity → Option (Except IdentityError String)}
    (hd : ∀ t, derive { i with entityType := t } = derive i) :
    (i.fill expected derive).2 =
      if isPresent i.fullyQualifiedName then none else derivationFailure (derive i) := by
  -- filling the entity type first changes neither the name nor what the derivation gives
  have hf : (if isPresent i.entityType then i else { i with entityType := some expected }).fullyQualifiedName =
      i.fullyQualifiedName := by
    split <;> rfl
  have hj : derive (if isPresent i.entityType then i else { i with entityType := some expected }) =
      derive i := by
    split
    · rfl
    · exact hd _
  simp only [fill, hf]
  generalize (if isPresent i.entityType then i else { i with entityType := some expected }) = j at hj
  rw [hj]
  split
  · rfl
  · rcases derive i with _ | (e | f) <;> rfl

end Identity

/-! ## Names a place derives -/

/-- The name of a port or an internal component of the data product named `product`:
`product:segment:name`, when both names are present. -/
def childName (product : Option String) (segment : String) (name : Option String) :
    Option String :=
  match present product, present name with
  | some p, some n => some (p ++ ":" ++ segment ++ ":" ++ n)
  | _, _ => none

/-- The name of a standard definition of the data product named `product`: `ns:apis:name:version`,
where `ns` is the text of the product's name before its first `:dataproducts:`. There is none when
a part is missing, when the marker does not occur, or when `ns` is empty. -/
def definitionNameOf (product name version : Option String) : Option String :=
  match present product, present name, present version with
  | some p, some n, some v =>
    match Identity.meshNamespace p with
    | .ok ns => if ns = "" then none else some (ns ++ ":apis:" ++ n ++ ":" ++ v)
    | .error _ => none
  | _, _, _ => none

theorem nonEmpty_eq (value argument : String) :
    Identity.nonEmpty value argument =
      if value = "" then .error (.emptyArgument argument) else .ok value := by
  simp [Identity.nonEmpty]

theorem componentName_eq {p seg n : String} (hs : seg ≠ "") (hn : n ≠ "") :
    Identity.componentName p seg n =
      if p = "" then .error (.emptyArgument "parentFqn") else .ok (p ++ ":" ++ seg ++ ":" ++ n) := by
  by_cases hp : p = "" <;> simp [Identity.componentName, nonEmpty_eq, hp, hs, hn] <;> rfl

theorem definitionName_eq {ns n v : String} (hn : n ≠ "") (hv : v ≠ "") :
    Identity.definitionName ns DefinitionKind.api.entityType n v =
      if ns = "" then .error (.emptyArgument "namespace") else .ok (ns ++ ":apis:" ++ n ++ ":" ++ v) := by
  by_cases hs : ns = "" <;>
    simp only [Identity.definitionName, nonEmpty_eq, hs, hn, hv, DefinitionKind.entityType, String.append_assoc,
      ↓reduceIte] <;> rfl

theorem PortKind.segment_ne_empty (k : PortKind) : k.segment ≠ "" := by
  cases k <;> decide

theorem ComponentKind.segment_ne_empty (k : ComponentKind) : k.segment ≠ "" := by
  cases k <;> decide

/-- Where the data product and the node are named, the derivation of a child's name succeeds
exactly when the data product's name is present. -/
theorem componentName_toOption (q : String) {segment : String} {name : Option String} {n : String}
    (hs : segment ≠ "") (hn : present name = some n) :
    (Identity.componentName q segment n).toOption = childName (some q) segment name := by
  by_cases hq : q = "" <;>
    simp [componentName_eq hs (ne_empty_of_present hn), childName, present_some, hq, hn, Except.toOption]

/-- The name a port or a component derives, taken as an option, is `childName`: the derivation
runs when both names are present and fails only where `childName` has none. -/
theorem childName_derived (product : Option String) {segment : String} (hs : segment ≠ "")
    (name : Option String) :
    (match product, present name with
      | some parent, some n => some (Identity.componentName parent segment n)
      | _, _ => none).bind Except.toOption = childName product segment name := by
  cases product with
  | none => simp [childName]
  | some q =>
    cases hn : present name with
    | none => simp [childName, hn]
    | some n => simpa using componentName_toOption q hs hn

/-- Where the data product and the definition are named, the derivation of a definition's name
succeeds exactly when the data product's name is present and has a non-empty mesh namespace. -/
theorem definitionName_toOption (q : String) {name version : Option String} {n v : String}
    (hn : present name = some n) (hv : present version = some v) :
    (Identity.meshNamespace q >>= fun ns =>
      Identity.definitionName ns DefinitionKind.api.entityType n v).toOption =
      definitionNameOf (some q) name version := by
  by_cases hq : q = ""
  · subst hq
    rfl
  · simp only [definitionNameOf, present_some, hn, hv, String.isEmpty_iff, hq, ↓reduceIte]
    cases Identity.meshNamespace q with
    | error e => rfl
    | ok ns =>
      show (Identity.definitionName ns _ n v).toOption = _
      rw [definitionName_eq (ne_empty_of_present hn) (ne_empty_of_present hv)]
      by_cases hs : ns = "" <;> simp [hs, Except.toOption]

/-- The name a standard definition derives, taken as an option, is `definitionNameOf`: the
derivation runs when the three names are present and fails only where `definitionNameOf` has none. -/
theorem definitionNameOf_derived (product name version : Option String) :
    (match product, present name, present version with
      | some p, some n, some v =>
        some (do Identity.definitionName (← Identity.meshNamespace p) DefinitionKind.api.entityType n v)
      | _, _, _ => none).bind Except.toOption = definitionNameOf product name version := by
  cases product with
  | none => simp [definitionNameOf]
  | some q =>
    cases hn : present name with
    | none => simp [definitionNameOf, hn]
    | some n =>
      cases hv : present version with
      | none => simp [definitionNameOf, hn, hv]
      | some v => simpa using definitionName_toOption q hn hv

/-! ## The reference fill -/

/-- A standard definition as filling leaves it: an `api` definition, named in the mesh namespace. -/
def StandardDefinition.generated (product : Option String) (d : StandardDefinition) :
    StandardDefinition :=
  { d with
    identity := d.identity.filled DefinitionKind.api.entityType
      (definitionNameOf product d.identity.name d.identity.version) }

/-- The promises of a port as filling leaves them. -/
def Promises.generated (product : Option String) (r : Promises) : Promises :=
  { r with
    api := r.api.map (·.generated product)
    deprecationPolicy := r.deprecationPolicy.map (·.generated product)
    slo := r.slo.map (·.generated product) }

/-- The expectations of a port as filling leaves them. -/
def Expectations.generated (product : Option String) (r : Expectations) : Expectations :=
  { r with
    audience := r.audience.map (·.generated product)
    usage := r.usage.map (·.generated product) }

/-- The obligations of a port as filling leaves them. -/
def Obligations.generated (product : Option String) (r : Obligations) : Obligations :=
  { r with
    termsAndConditions := r.termsAndConditions.map (·.generated product)
    billingPolicy := r.billingPolicy.map (·.generated product)
    sla := r.sla.map (·.generated product) }

/-- A port of a kind as filling leaves it, with the definitions it carries. -/
def Port.generated (product : Option String) (kind : PortKind) (p : Port) : Port :=
  { p with
    identity := p.identity.filled kind.entityType (childName product kind.segment p.identity.name)
    promises := p.promises.map (·.generated product)
    expectations := p.expectations.map (·.generated product)
    obligations := p.obligations.map (·.generated product) }

/-- The ports of a data product as filling leaves them. -/
def InterfaceComponents.generated (product : Option String) (r : InterfaceComponents) :
    InterfaceComponents :=
  { r with
    inputPorts := r.inputPorts.map (·.generated product .input)
    outputPorts := r.outputPorts.map (·.map (·.generated product .output))
    discoveryPorts := r.discoveryPorts.map (·.generated product .discovery)
    observabilityPorts := r.observabilityPorts.map (·.generated product .observability)
    controlPorts := r.controlPorts.map (·.generated product .control) }

/-- A component of a kind as filling leaves it. -/
def Component.generated (product : Option String) (kind : ComponentKind) (c : Component) :
    Component :=
  { c with
    identity := c.identity.filled kind.entityType (childName product kind.segment c.identity.name) }

/-- The components of a data product as filling leaves them. -/
def InternalComponents.generated (product : Option String) (r : InternalComponents) :
    InternalComponents :=
  { r with
    applicationComponents := r.applicationComponents.map (·.generated product .application)
    infrastructuralComponents := r.infrastructuralComponents.map (·.generated product .infrastructural) }

/-- The data product's own part as filling leaves it: its name is never derived. -/
def Info.generated (r : Info) : Info :=
  { r with identity := r.identity.filled dataProductEntityType none }

/-- A descriptor as a filling walk leaves it. The names of ports, definitions and components are
derived from the data product's name as it stands before the walk. -/
def Descriptor.generated (d : Descriptor) : Descriptor :=
  { d with
    info := d.info.map Info.generated
    interfaceComponents := d.interfaceComponents.map (·.generated d.productFqn)
    internalComponents := d.internalComponents.map (·.generated d.productFqn) }

/-! ## The descriptor a walk leaves

Each proof first unfolds the walker and the report's projections with `dsimp` (they hold by
definition) and only then rewrites with the lemmas of the nodes below; done in one `simp` call,
the kernel's check of the proof takes minutes. -/

section Value

variable (s : Scope)

theorem StandardDefinition.walk_value (d : StandardDefinition) :
    (StandardDefinition.walk s d).value = if s.mode.generates then d.generated s.productFqn else d := by
  dsimp only [StandardDefinition.walk, Report.value_bind, Report.value_pure]
  rw [Scope.identity_value]
  split
  · rw [Identity.fill_fst fun _ => rfl]
    simp only [generated]
    congr 2
    exact definitionNameOf_derived _ _ _
  · rfl

theorem Promises.walk_value (r : Promises) :
    (Promises.walk s r).value = if s.mode.generates then r.generated s.productFqn else r := by
  dsimp only [Promises.walk, Report.value_bind, Report.value_pure]
  by_cases hg : s.mode.generates <;>
    simp [Promises.generated, StandardDefinition.walk_value, hg]

theorem Expectations.walk_value (r : Expectations) :
    (Expectations.walk s r).value = if s.mode.generates then r.generated s.productFqn else r := by
  dsimp only [Expectations.walk, Report.value_bind, Report.value_pure]
  by_cases hg : s.mode.generates <;>
    simp [Expectations.generated, StandardDefinition.walk_value, hg]

theorem Obligations.walk_value (r : Obligations) :
    (Obligations.walk s r).value = if s.mode.generates then r.generated s.productFqn else r := by
  dsimp only [Obligations.walk, Report.value_bind, Report.value_pure]
  by_cases hg : s.mode.generates <;>
    simp [Obligations.generated, StandardDefinition.walk_value, hg]

theorem Port.walk_value (kind : PortKind) (seen : List String) (p : Port) :
    (Port.walk kind s seen p).value = if s.mode.generates then p.generated s.productFqn kind else p := by
  dsimp only [Port.walk, Report.value_bind, Report.value_pure]
  simp only [Scope.identity_value, value_walkOption, Promises.walk_value, Expectations.walk_value,
    Obligations.walk_value, Scope.mode_child, Scope.productFqn_child]
  by_cases hg : s.mode.generates
  · simp only [hg, ↓reduceIte]
    rw [Identity.fill_fst fun _ => rfl]
    simp only [Port.generated]
    congr 2
    exact childName_derived _ kind.segment_ne_empty _
  · simp [hg]

theorem InterfaceComponents.walk_value (r : InterfaceComponents) :
    (InterfaceComponents.walk s r).value = if s.mode.generates then r.generated s.productFqn else r := by
  have hps (k : PortKind) (ps : List Port) :
      (walkItems (Port.walk k) (·.identity.name) (s.child k.collection) ps 0 []).value =
        ps.map fun p => if s.mode.generates then p.generated s.productFqn k else p :=
    walkItems_value _ _ (fun i seen p => Port.walk_value _ k seen p) ps 0 []
  dsimp only [InterfaceComponents.walk, Report.value_bind, Report.value_pure]
  by_cases hg : s.mode.generates <;>
    simp [InterfaceComponents.generated, hps, hg]

theorem Component.walk_value (kind : ComponentKind) (seen : List String) (c : Component) :
    (Component.walk kind s seen c).value =
      if s.mode.generates then c.generated s.productFqn kind else c := by
  dsimp only [Component.walk, Report.value_bind, Report.value_pure]
  rw [Scope.identity_value]
  split
  · rw [Identity.fill_fst fun _ => rfl]
    simp only [Component.generated]
    congr 2
    exact childName_derived _ kind.segment_ne_empty _
  · rfl

theorem InternalComponents.walk_value (r : InternalComponents) :
    (InternalComponents.walk s r).value = if s.mode.generates then r.generated s.productFqn else r := by
  have hcs (k : ComponentKind) (cs : List Component) :
      (walkItems (Component.walk k) (·.identity.name) (s.child k.collection) cs 0 []).value =
        cs.map fun c => if s.mode.generates then c.generated s.productFqn k else c :=
    walkItems_value _ _ (fun i seen c => Component.walk_value _ k seen c) cs 0 []
  dsimp only [InternalComponents.walk, Report.value_bind, Report.value_pure]
  by_cases hg : s.mode.generates <;>
    simp [InternalComponents.generated, hcs, hg]

theorem Components.walk_value (r : Components) : (Components.walk s r).value = r := rfl

theorem Info.walk_value (r : Info) :
    (Info.walk s r).value = if s.mode.generates then r.generated else r := by
  dsimp only [Info.walk, Report.value_bind, Report.value_pure]
  rw [Scope.identity_value]
  split
  · rw [Identity.fill_fst fun _ => rfl]
    rfl
  · rfl

end Value

/-- The descriptor a walk leaves: the reference fill when the walk fills, and the descriptor itself
when it only checks. -/
theorem Descriptor.walk_value (m : Mode) (e : Option String) (d : Descriptor) :
    (d.walk m e).value = if m.generates then d.generated else d := by
  dsimp only [Descriptor.walk, Report.value_bind, Report.value_pure]
  by_cases hg : m.generates <;>
    simp [Descriptor.generated, Info.walk_value, InterfaceComponents.walk_value,
      InternalComponents.walk_value, Components.walk_value, hg]

/-- Both modes that fill leave the reference fill of the descriptor, whatever name is expected:
only the entity types, names and identifiers of the addressable nodes change, as
`Descriptor.generated` says. -/
theorem run_fills_reference (d : Descriptor) (e : Option String) :
    (Registry.run (some d) .validateAndGenerate e).map Report.value = .ok d.generated ∧
      (Registry.run (some d) .generateOnly e).map Report.value = .ok d.generated := by
  have fills (m : Mode) (hm : m.generates) :
      (Registry.run (some d) m e).map Report.value = .ok d.generated := by
    show Except.ok (d.walk m e).value = _
    rw [Descriptor.walk_value, if_pos hm]
  exact ⟨fills _ rfl, fills _ rfl⟩

/-- A walk that only checks leaves the descriptor as it was, whatever it reports. -/
theorem run_validateOnly_keeps (d : Descriptor) (e : Option String) :
    (Registry.run (some d) .validateOnly e).map Report.value = .ok d := by
  show Except.ok (d.walk .validateOnly e).value = _
  rw [Descriptor.walk_value]
  rfl

end DataProduct
