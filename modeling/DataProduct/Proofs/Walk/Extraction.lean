import DataProduct.Proofs.Walk.Keys
import DataProduct.Proofs.Walk.Names
import Mathlib.Data.List.Forall2
import Mathlib.Data.List.Infix

/-!
# Names that cannot be derived

A walk that fills derives the name of a standard definition from the data product's name: the
text before its first `:dataproducts:` is the mesh namespace, and the definition is named
`namespace:apis:name:version` in it. That derivation fails in two ways, and it is the only one
that can: the data product's name has no `:dataproducts:`, or begins with it, which leaves the
namespace empty. Ports and components are named below the data product's name, which is never
empty where it is present, so their names are always derived.

A walk that checks and fills reports each failure at the definition's `fullyQualifiedName`. A walk
that only fills passes over it and leaves the same descriptor. Either way the definition keeps its
missing name and its identifier, and only gets its entity type.

* `Descriptor.definitionSites`: the standard definitions of a descriptor, with their paths;
* `definitionFailure`: the failure at one definition, stated on its own;
* `extraction_failures_exact`: the failures of a whole walk, and what it leaves where one is.
-/

namespace DataProduct

/-! ## Where the definitions stand -/

/-- The definitions in the slots of a node at `path`, each at its slot's key. -/
def slotSites (path : Path) (slots : List (String × Option StandardDefinition)) :
    List (Path × StandardDefinition) :=
  slots.flatMap fun x => x.2.toList.map fun d => (path ++ [.key x.1], d)

/-- The slots of a port's promises, by key. -/
def Promises.slots (r : Promises) : List (String × Option StandardDefinition) :=
  [("api", r.api), ("deprecationPolicy", r.deprecationPolicy), ("slo", r.slo)]

/-- The slots of a port's expectations, by key. -/
def Expectations.slots (r : Expectations) : List (String × Option StandardDefinition) :=
  [("audience", r.audience), ("usage", r.usage)]

/-- The slots of a port's obligations, by key. -/
def Obligations.slots (r : Obligations) : List (String × Option StandardDefinition) :=
  [("termsAndConditions", r.termsAndConditions), ("billingPolicy", r.billingPolicy), ("sla", r.sla)]

/-- The definitions a port at `path` carries, with their paths. -/
def Port.sites (path : Path) (p : Port) : List (Path × StandardDefinition) :=
  p.promises.toList.flatMap (fun r => slotSites (path ++ [.key "promises"]) r.slots) ++
    p.expectations.toList.flatMap (fun r => slotSites (path ++ [.key "expectations"]) r.slots) ++
    p.obligations.toList.flatMap (fun r => slotSites (path ++ [.key "obligations"]) r.slots)

/-- The definitions on the ports `ps` of a collection at `path`, the first at index `i`. -/
def Port.collectionSites (path : Path) (ps : List Port) (i : Nat) : List (Path × StandardDefinition) :=
  (ps.zipIdx i).flatMap fun x => x.1.sites (path ++ [.index x.2])

@[simp] theorem Port.collectionSites_nil (path : Path) (i : Nat) : Port.collectionSites path [] i = [] :=
  rfl

/-- The definitions on the ports at `path`, collection by collection and port by port. -/
def InterfaceComponents.sites (path : Path) (r : InterfaceComponents) :
    List (Path × StandardDefinition) :=
  PortKind.all.flatMap fun k => Port.collectionSites (path ++ [.key k.collection]) (r.ports k) 0

/-- The standard definitions of a descriptor with their paths, in the order a walk visits them. -/
def Descriptor.definitionSites (d : Descriptor) : List (Path × StandardDefinition) :=
  d.interfaceComponents.toList.flatMap (InterfaceComponents.sites [.key "interfaceComponents"])

/-! ## The failure at one definition -/

/-- What is wrong with the data product's name `p` as a source of mesh namespaces: it has no
`:dataproducts:`, or it begins with one, so that the namespace before it is empty. -/
def meshFailure (p : String) : Option String :=
  if ¬ ":dataproducts:".toList <:+: p.toList then
    some ("Cannot extract mesh namespace from '" ++ p ++ "': missing ':dataproducts:' segment")
  else if ":dataproducts:".toList <+: p.toList then some "'namespace' must not be empty"
  else none

/-- The failure met at the definition `x.2`, at path `x.1`, in the data product named `product`:
its name is missing while its own name and version are present, and the data product's name is
present but gives no mesh namespace. -/
def definitionFailure (product : Option String) (x : Path × StandardDefinition) : Option FieldError :=
  if isPresent x.2.identity.fullyQualifiedName || !isPresent x.2.identity.name ||
      !isPresent x.2.identity.version then none
  else (product.bind meshFailure).map fun message =>
    ⟨x.1 ++ [.key "fullyQualifiedName"], .fqnExtractionFailure, message⟩

theorem Identity.before_eq_none_iff (m l : List Char) : Identity.before m l = none ↔ ¬ m <:+: l := by
  induction l with
  | nil => cases m <;> simp [Identity.before]
  | cons c cs ih =>
    unfold Identity.before
    split
    · rename_i hm
      simpa using List.infix_cons_iff.mpr (.inl (List.isPrefixOf_iff_prefix.mp hm))
    · rename_i hm
      rw [Option.map_eq_none_iff, ih, List.infix_cons_iff, not_or]
      exact (and_iff_right fun h => hm (List.isPrefixOf_iff_prefix.mpr h)).symm

theorem Identity.before_eq_some_nil_iff (m l : List Char) :
    Identity.before m l = some [] ↔ m <+: l := by
  cases l with
  | nil => cases m <;> simp [Identity.before]
  | cons c cs =>
    unfold Identity.before
    split
    · rename_i hm
      simpa using List.isPrefixOf_iff_prefix.mp hm
    · rename_i hm
      simp only [Option.map_eq_some_iff, reduceCtorEq, and_false, exists_false, false_iff]
      exact fun h => hm (List.isPrefixOf_iff_prefix.mpr h)

/-- Deriving a definition's name from present parts fails as `meshFailure` says. -/
theorem meshFailure_eq (p : String) {n v : String} (hn : n ≠ "") (hv : v ≠ "") :
    (derivationFailure (some (Identity.meshNamespace p >>= fun ns =>
      Identity.definitionName ns DefinitionKind.api.entityType n v))).map IdentityError.message =
      meshFailure p := by
  have hm : Identity.marker = ":dataproducts:" := rfl
  unfold Identity.meshNamespace meshFailure
  rw [hm]
  cases hb : Identity.before ":dataproducts:".toList p.toList with
  | none =>
    rw [if_pos ((Identity.before_eq_none_iff _ _).mp hb)]
    rfl
  | some ns =>
    have hi : ":dataproducts:".toList <:+: p.toList := by
      by_contra h
      rw [(Identity.before_eq_none_iff _ _).mpr h] at hb
      cases hb
    show (derivationFailure (some (Identity.definitionName (String.ofList ns) _ n v))).map _ = _
    rw [definitionName_eq hn hv, if_neg (not_not.mpr hi)]
    by_cases h0 : ns = []
    · subst h0
      rw [if_pos rfl, if_pos ((Identity.before_eq_some_nil_iff _ _).mp hb)]
      rfl
    · have hs : String.ofList ns ≠ "" := fun h => h0 (by simpa using congrArg String.toList h)
      have hp : ¬ ":dataproducts:".toList <+: p.toList := fun h => by
        rw [(Identity.before_eq_some_nil_iff _ _).mpr h] at hb
        exact h0 (Option.some.inj hb).symm
      rw [if_neg hs, if_neg hp]
      rfl

/-- The failure of deriving a definition's name, when the three names are present. -/
theorem definitionName_failure (product name version : Option String) :
    (derivationFailure (match product, present name, present version with
      | some p, some n, some v =>
        some (do Identity.definitionName (← Identity.meshNamespace p) DefinitionKind.api.entityType n v)
      | _, _, _ => none)).map IdentityError.message =
      if isPresent name && isPresent version then product.bind meshFailure else none := by
  cases product with
  | none => simp [derivationFailure]
  | some q =>
    cases hn : present name with
    | none => simp [derivationFailure, isPresent, hn]
    | some n =>
      cases hv : present version with
      | none => simp [derivationFailure, isPresent, hn, hv]
      | some v =>
        simp only [isPresent, hn, hv, Option.isSome_some, Bool.and_self, ↓reduceIte, Option.bind_some]
        exact meshFailure_eq q (ne_empty_of_present hn) (ne_empty_of_present hv)

/-- Deriving the name of a port or a component fails only below an empty data product's name. -/
theorem childName_failure (product : Option String) {segment : String} (hs : segment ≠ "")
    (name : Option String) :
    derivationFailure (match product, present name with
      | some parent, some n => some (Identity.componentName parent segment n)
      | _, _ => none) =
      if product = some "" ∧ isPresent name then some (.emptyArgument "parentFqn") else none := by
  cases product with
  | none => simp [derivationFailure]
  | some q =>
    cases hn : present name with
    | none => simp [derivationFailure, isPresent, hn]
    | some n =>
      show derivationFailure (some (Identity.componentName q segment n)) = _
      rw [componentName_eq hs (ne_empty_of_present hn)]
      by_cases hq : q = "" <;> simp [derivationFailure, isPresent, hn, hq]

/-- The failures on the ports, collection by collection. -/
theorem InterfaceComponents.filterMap_sites (F : Path × StandardDefinition → Option FieldError)
    (path : Path) (r : InterfaceComponents) :
    (r.sites path).filterMap F =
      (Port.collectionSites (path ++ [.key PortKind.input.collection]) r.inputPorts 0).filterMap F ++
        ((r.outputPorts.toList.flatMap fun ps =>
            (Port.collectionSites (path ++ [.key PortKind.output.collection]) ps 0).filterMap F) ++
          ((Port.collectionSites (path ++ [.key PortKind.discovery.collection]) r.discoveryPorts
              0).filterMap F ++
            ((Port.collectionSites (path ++ [.key PortKind.observability.collection])
                r.observabilityPorts 0).filterMap F ++
              (Port.collectionSites (path ++ [.key PortKind.control.collection]) r.controlPorts
                0).filterMap F))) := by
  simp only [InterfaceComponents.sites, PortKind.all, List.flatMap_cons, List.flatMap_nil,
    List.append_nil, InterfaceComponents.ports, List.filterMap_append]
  -- by `rw`: as definitional steps of `simp`, these make the kernel compare long appends term by term
  cases r.outputPorts
  · rw [Option.getD_none, Port.collectionSites_nil, List.filterMap_nil, Option.toList_none,
      List.flatMap_nil]
  · rw [Option.getD_some, Option.toList_some, List.flatMap_singleton]

/-! ## The walkers -/

theorem Mode.validates_and_generates (m : Mode) :
    (m.validates && m.generates) = decide (m = .validateAndGenerate) := by
  cases m <;> rfl

section Walkers

variable (s : Scope)

theorem Scope.filter_extractionError (e : Option IdentityError) :
    (e.map s.extractionError).toList.filter (FieldError.ofKind .fqnExtractionFailure) =
      (e.map s.extractionError).toList := by
  cases e <;> rfl

theorem filter_extraction_require (v : Option String) (p : Path) :
    (require v p).filter (FieldError.ofKind .fqnExtractionFailure) = [] :=
  filter_ofKind_require (by decide) v p

theorem filter_extraction_duplicateName (label : String) (name : Option String) (seen : List String)
    (p : Path) : (duplicateName label name seen p).filter (FieldError.ofKind .fqnExtractionFailure) = [] :=
  filter_ofKind_duplicateName (by decide) label name seen p

theorem filter_extraction_missing (p : Path) (message : String) :
    [(⟨p, .missingRequiredField, message⟩ : FieldError)].filter
      (FieldError.ofKind .fqnExtractionFailure) = [] := rfl

/-- The failures an identity step reports: that of its derivation, asked for a missing name, when
the walk checks and fills. -/
theorem Scope.filter_extraction_identity (i : Identity) (expected : String)
    {derive : Identity → Option (Except IdentityError String)}
    (hd : ∀ t, derive { i with entityType := t } = derive i) :
    (s.identity i expected derive).errors.filter (FieldError.ofKind .fqnExtractionFailure) =
      if s.mode = .validateAndGenerate ∧ ¬ isPresent i.fullyQualifiedName then
        ((derivationFailure (derive i)).map s.extractionError).toList
      else [] := by
  rw [Scope.identity_errors, List.filter_append, Identity.fill_snd hd,
    apply_ite (List.filter (FieldError.ofKind .fqnExtractionFailure)),
    Identity.filter_ofKind_check (by decide) (by decide), List.filter_nil, ite_self, List.nil_append,
    apply_ite (List.filter (FieldError.ofKind .fqnExtractionFailure)), Scope.filter_extractionError,
    List.filter_nil, Mode.validates_and_generates]
  by_cases hm : s.mode = .validateAndGenerate <;> by_cases hf : isPresent i.fullyQualifiedName <;>
    simp [hm, hf]

theorem Scope.filter_extraction_identity_eq_nil (i : Identity) (expected : String)
    {derive : Identity → Option (Except IdentityError String)}
    (hd : ∀ t, derive { i with entityType := t } = derive i) (h : derivationFailure (derive i) = none) :
    (s.identity i expected derive).errors.filter (FieldError.ofKind .fqnExtractionFailure) = [] := by
  rw [Scope.filter_extraction_identity s i expected hd, h]
  split <;> rfl

/-- The failure reported at a definition, from the failure of deriving its name. -/
theorem definitionFailure_of_derivation (d : StandardDefinition) {r : Option IdentityError}
    (hr : r.map IdentityError.message =
      if isPresent d.identity.name && isPresent d.identity.version then s.productFqn.bind meshFailure
      else none) :
    (if s.mode = .validateAndGenerate ∧ ¬ isPresent d.identity.fullyQualifiedName then
        (r.map s.extractionError).toList
      else []) =
      if s.mode = .validateAndGenerate then (definitionFailure s.productFqn (s.path, d)).toList
      else [] := by
  have he : s.extractionError =
      (fun m => ⟨s.path ++ [.key "fullyQualifiedName"], .fqnExtractionFailure, m⟩) ∘
        IdentityError.message := rfl
  rw [he, ← Option.map_map, hr]
  by_cases hm : s.mode = .validateAndGenerate <;> by_cases hf : isPresent d.identity.fullyQualifiedName <;>
    simp [definitionFailure, hm, hf]
  cases isPresent d.identity.name <;> cases isPresent d.identity.version <;> simp [Option.map_bind]

/-- A definition reports its own failure, when the walk checks and fills. -/
theorem StandardDefinition.filter_extraction (d : StandardDefinition) :
    (StandardDefinition.walk s d).errors.filter (FieldError.ofKind .fqnExtractionFailure) =
      if s.mode = .validateAndGenerate then (definitionFailure s.productFqn (s.path, d)).toList
      else [] := by
  dsimp only [StandardDefinition.walk, Report.errors_bind, Report.errors_pure]
  rw [List.append_nil, List.filter_append, Scope.filter_errors_check,
    Scope.filter_extraction_identity s _ _ fun _ => rfl]
  simp only [List.filter_append, filter_extraction_require, List.nil_append,
    apply_ite (List.filter (FieldError.ofKind .fqnExtractionFailure)), List.filter_nil,
    filter_extraction_missing, ite_self]
  exact definitionFailure_of_derivation s d (definitionName_failure _ _ _)

/-- The slots of a node, walked in turn, report the failures of the definitions in them. -/
theorem filter_extraction_slots (slots : List (String × Option StandardDefinition)) :
    (slots.flatMap fun x => (walkOption (StandardDefinition.walk (s.child x.1)) x.2).errors.filter
        (FieldError.ofKind .fqnExtractionFailure)) =
      if s.mode = .validateAndGenerate then
        (slotSites s.path slots).filterMap (definitionFailure s.productFqn)
      else [] := by
  by_cases hm : s.mode = .validateAndGenerate
  · rw [if_pos hm, slotSites, List.filterMap_flatMap]
    refine List.flatMap_congr fun x _ => ?_
    rcases x with ⟨key, _ | d⟩
    · rfl
    · simp only [Option.toList_some, List.map_cons, List.map_nil, List.flatMap_cons, List.flatMap_nil,
        filter_errors_walkOption, StandardDefinition.filter_extraction, Scope.child, if_pos hm,
        List.append_nil, List.filterMap_cons, List.filterMap_nil]
      cases definitionFailure s.productFqn (s.path ++ [.key key], d) <;> rfl
  · rw [if_neg hm]
    simp [filter_errors_walkOption, StandardDefinition.filter_extraction, hm]

theorem Promises.filter_extraction (r : Promises) :
    (Promises.walk s r).errors.filter (FieldError.ofKind .fqnExtractionFailure) =
      if s.mode = .validateAndGenerate then
        (slotSites s.path r.slots).filterMap (definitionFailure s.productFqn)
      else [] := by
  dsimp only [Promises.walk, Report.errors_bind, Report.errors_pure]
  simp only [List.filter_append]
  exact filter_extraction_slots s r.slots

theorem Expectations.filter_extraction (r : Expectations) :
    (Expectations.walk s r).errors.filter (FieldError.ofKind .fqnExtractionFailure) =
      if s.mode = .validateAndGenerate then
        (slotSites s.path r.slots).filterMap (definitionFailure s.productFqn)
      else [] := by
  dsimp only [Expectations.walk, Report.errors_bind, Report.errors_pure]
  simp only [List.filter_append]
  exact filter_extraction_slots s r.slots

theorem Obligations.filter_extraction (r : Obligations) :
    (Obligations.walk s r).errors.filter (FieldError.ofKind .fqnExtractionFailure) =
      if s.mode = .validateAndGenerate then
        (slotSites s.path r.slots).filterMap (definitionFailure s.productFqn)
      else [] := by
  dsimp only [Obligations.walk, Report.errors_bind, Report.errors_pure]
  simp only [List.filter_append]
  exact filter_extraction_slots s r.slots

section Ports

variable (hP : ∀ p ∈ s.productFqn, p ≠ "")
include hP

/-- A port reports the failures of the definitions it carries: its own name is always derived. -/
theorem Port.filter_extraction (kind : PortKind) (seen : List String) (p : Port) :
    (Port.walk kind s seen p).errors.filter (FieldError.ofKind .fqnExtractionFailure) =
      if s.mode = .validateAndGenerate then (p.sites s.path).filterMap (definitionFailure s.productFqn)
      else [] := by
  dsimp only [Port.walk, Report.errors_bind, Report.errors_pure]
  simp only [List.filter_append, List.append_nil]
  rw [Scope.filter_extraction_identity_eq_nil s _ _ ?hd ?hid]
  case hd => exact fun _ => rfl
  case hid =>
    exact (childName_failure s.productFqn kind.segment_ne_empty p.identity.name).trans
      (if_neg fun h => hP "" h.1 rfl)
  simp only [Scope.filter_errors_check, List.filter_append, filter_extraction_require,
    filter_extraction_duplicateName, List.append_nil, ite_self, List.nil_append,
    filter_errors_walkOption, Promises.filter_extraction,
    Expectations.filter_extraction, Obligations.filter_extraction, Scope.mode_child,
    Scope.productFqn_child]
  by_cases hm : s.mode = .validateAndGenerate
  · simp [hm, Port.sites, List.filterMap_append, List.filterMap_flatMap, Scope.child]
  · simp [hm]

/-- A collection of ports reports the failures of the definitions its ports carry, port by port:
unlike the other filters, what a port reports depends on its index. -/
theorem Port.filter_extraction_walkItems (kind : PortKind) (ps : List Port) (i : Nat)
    (seen : List String) :
    (walkItems (Port.walk kind) (·.identity.name) s ps i seen).errors.filter
        (FieldError.ofKind .fqnExtractionFailure) =
      if s.mode = .validateAndGenerate then
        (Port.collectionSites s.path ps i).filterMap (definitionFailure s.productFqn)
      else [] := by
  induction ps generalizing i seen with
  | nil => split <;> rfl
  | cons p ps ih =>
    dsimp only [walkItems, Report.errors_bind, Report.errors_pure]
    rw [List.append_nil, List.filter_append, Port.filter_extraction (s.item i) hP, ih]
    show _ = if _ then
      (p.sites (s.path ++ [PathStep.index i]) ++ Port.collectionSites s.path ps (i + 1)).filterMap _ else []
    rw [List.filterMap_append, Scope.mode_item, Scope.productFqn_item]
    by_cases hm : s.mode = .validateAndGenerate
    · simp only [hm, ↓reduceIte]
      rfl
    · simp only [hm, ↓reduceIte, List.nil_append]

/-- The ports report the failures of the definitions they carry, collection by collection. -/
theorem InterfaceComponents.filter_extraction (r : InterfaceComponents) :
    (InterfaceComponents.walk s r).errors.filter (FieldError.ofKind .fqnExtractionFailure) =
      if s.mode = .validateAndGenerate then (r.sites s.path).filterMap (definitionFailure s.productFqn)
      else [] := by
  dsimp only [InterfaceComponents.walk, Report.errors_bind, Report.errors_pure]
  have hc : ∀ k, ∀ p ∈ (s.child k).productFqn, p ≠ "" := fun _ => hP
  simp only [List.filter_append, List.append_nil, Scope.filter_errors_check, filter_errors_walkOption,
    fun k => Port.filter_extraction_walkItems (s.child k) (hc k),
    apply_ite (List.filter (FieldError.ofKind .fqnExtractionFailure)), List.filter_nil,
    filter_extraction_missing, ite_self]
  -- by `rw`: as a definitional step, the kernel would compare the two long appends term by term
  rw [List.nil_append]
  by_cases hm : s.mode = .validateAndGenerate
  · have hmc : ∀ k, (s.child k).mode = .validateAndGenerate := fun _ => hm
    rw [if_pos hm, InterfaceComponents.filterMap_sites]
    simp only [hmc, ↓reduceIte]
    rfl
  · have hmc : ∀ k, ¬ (s.child k).mode = .validateAndGenerate := fun _ => hm
    simp only [hm, hmc, ↓reduceIte]
    cases r.outputPorts <;> rfl

/-- A component's name is always derived. -/
theorem Component.filter_extraction (kind : ComponentKind) (seen : List String) (c : Component) :
    (Component.walk kind s seen c).errors.filter (FieldError.ofKind .fqnExtractionFailure) = [] := by
  dsimp only [Component.walk, Report.errors_bind, Report.errors_pure]
  simp only [List.filter_append, List.append_nil]
  rw [Scope.filter_extraction_identity_eq_nil s _ _ ?hd ?hid]
  case hd => exact fun _ => rfl
  case hid =>
    exact (childName_failure s.productFqn kind.segment_ne_empty c.identity.name).trans
      (if_neg fun h => hP "" h.1 rfl)
  simp only [Scope.filter_errors_check, List.filter_append, filter_extraction_require,
    filter_extraction_duplicateName, List.append_nil, ite_self]

theorem InternalComponents.filter_extraction (r : InternalComponents) :
    (InternalComponents.walk s r).errors.filter (FieldError.ofKind .fqnExtractionFailure) = [] := by
  have hcs (k : ComponentKind) (cs : List Component) :
      (walkItems (Component.walk k) (·.identity.name) (s.child k.collection) cs 0 []).errors.filter
        (FieldError.ofKind .fqnExtractionFailure) = [] := by
    refine filter_walkItems_eq_nil _ _ (fun i seen c => ?_) cs 0 []
    exact Component.filter_extraction ((s.child k.collection).item i) hP k seen c
  dsimp only [InternalComponents.walk, Report.errors_bind, Report.errors_pure]
  rw [List.append_nil, List.filter_append, hcs, hcs]
  rfl

end Ports

/-- The keys of the reusable components are all the components' check reports. -/
theorem componentKeyErrors_kind (label : Path) (ks seen : List String) :
    ∀ e ∈ componentKeyErrors label ks seen, e.kind = .invalidOrDuplicateComponentKey := by
  induction ks generalizing seen with
  | nil => simp [componentKeyErrors]
  | cons k ks ih =>
    intro e he
    rcases List.mem_append.mp he with he | he
    · split_ifs at he <;> simp at he <;> simp [he]
    · exact ih _ e he

theorem Components.filter_extraction (r : Components) :
    (Components.walk s r).errors.filter (FieldError.ofKind .fqnExtractionFailure) = [] := by
  rw [Components.walk_eq]
  dsimp only [Report.errors_bind, Report.errors_pure]
  rw [List.append_nil, Scope.filter_errors_check, List.filter_eq_nil_iff.mpr, ite_self]
  intro e he
  obtain ⟨mp, -, he⟩ := List.mem_flatMap.mp he
  simp [FieldError.ofKind, componentKeyErrors_kind _ _ _ e he]

/-- The data product's own name is never derived. -/
theorem Info.filter_extraction (r : Info) :
    (Info.walk s r).errors.filter (FieldError.ofKind .fqnExtractionFailure) = [] := by
  dsimp only [Info.walk, Report.errors_bind, Report.errors_pure]
  rw [List.append_nil, List.filter_append,
    Scope.filter_extraction_identity_eq_nil s _ _ (fun _ => rfl) rfl,
    List.append_nil, Scope.filter_errors_check]
  cases r.owner <;> simp

end Walkers

/-- The failures of a whole walk: those of the standard definitions, in the order the walk meets
them, when it checks and fills. -/
theorem Descriptor.filter_extraction (d : Descriptor) (m : Mode) (e : Option String) :
    (d.walk m e).errors.filter (FieldError.ofKind .fqnExtractionFailure) =
      if m = .validateAndGenerate then d.definitionSites.filterMap (definitionFailure d.productFqn)
      else [] := by
  -- the data product's name, taken before the walk, is present or missing, never empty
  have hP : ∀ p ∈ d.productFqn, p ≠ "" := by
    unfold Descriptor.productFqn
    split
    · exact fun p hp => ne_empty_of_present hp
    · exact fun p hp => nomatch hp
  rw [Descriptor.filter_errors (by decide) (by decide),
    filter_errors_walkOption_eq_nil (Info.filter_extraction _),
    filter_errors_walkOption_eq_nil
      (InternalComponents.filter_extraction ⟨m, [.key "internalComponents"], d.productFqn⟩ hP),
    filter_errors_walkOption_eq_nil (Components.filter_extraction _), List.nil_append, List.append_nil,
    List.append_nil, filter_errors_walkOption]
  unfold Descriptor.definitionSites
  cases d.interfaceComponents with
  | none => split <;> rfl
  | some r =>
    simpa using
      InterfaceComponents.filter_extraction ⟨m, [.key "interfaceComponents"], d.productFqn⟩ hP r

/-! ## What filling leaves at a failure -/

/-- A failure at a definition needs its name missing, its own name and version present, and the
data product's name giving no mesh namespace. -/
theorem definitionFailure_isSome {product : Option String} {x : Path × StandardDefinition}
    (h : (definitionFailure product x).isSome) :
    ¬ isPresent x.2.identity.fullyQualifiedName ∧ isPresent x.2.identity.name ∧
      isPresent x.2.identity.version ∧ ∃ p, product = some p ∧ (meshFailure p).isSome := by
  unfold definitionFailure at h
  split at h
  · cases h
  · rename_i hpres
    simp only [Bool.or_eq_true, Bool.not_eq_eq_eq_not, Bool.not_true, not_or, Bool.not_eq_false]
      at hpres
    refine ⟨hpres.1.1, hpres.1.2, hpres.2, ?_⟩
    cases product with
    | none => cases h
    | some q => exact ⟨q, rfl, Option.isSome_map.symm.trans h⟩

/-- Where a definition's name cannot be derived, none is. -/
theorem definitionNameOf_eq_none {product : Option String} {x : Path × StandardDefinition}
    (h : (definitionFailure product x).isSome) :
    definitionNameOf product x.2.identity.name x.2.identity.version = none := by
  obtain ⟨-, hname, hversion, q, rfl, hq⟩ := definitionFailure_isSome h
  obtain ⟨n, hn⟩ := (isPresent_iff _).mp hname
  obtain ⟨v, hv⟩ := (isPresent_iff _).mp hversion
  obtain ⟨msg, hmsg⟩ := Option.isSome_iff_exists.mp hq
  have hf := meshFailure_eq q (ne_empty_of_present hn) (ne_empty_of_present hv)
  rw [hmsg] at hf
  rw [← definitionName_toOption q hn hv]
  cases hX : (Identity.meshNamespace q >>= fun ns =>
      Identity.definitionName ns DefinitionKind.api.entityType n v) with
  | error _ => rfl
  | ok _ => simp [hX, derivationFailure] at hf

/-- Filling a definition whose name cannot be derived only gives it its entity type: its name stays
missing and its identifier as it was. -/
theorem StandardDefinition.generated_of_failure {product : Option String}
    {x : Path × StandardDefinition} (h : (definitionFailure product x).isSome) :
    x.2.generated product = { x.2 with identity := { x.2.identity with
      entityType := if isPresent x.2.identity.entityType then x.2.identity.entityType
        else some "api" } } := by
  have hf : present x.2.identity.fullyQualifiedName = none :=
    Option.not_isSome_iff_eq_none.mp (definitionFailure_isSome h).1
  rw [StandardDefinition.generated, definitionNameOf_eq_none h]
  simp [Identity.filled, isPresent, hf, DefinitionKind.entityType]

/-! ## The definitions a fill leaves -/

section Generated

variable (P : Option String)

theorem slotSites_map (path : Path) (slots : List (String × Option StandardDefinition)) :
    slotSites path (slots.map fun x => (x.1, x.2.map (·.generated P))) =
      (slotSites path slots).map fun y => (y.1, y.2.generated P) := by
  simp only [slotSites, List.flatMap_map, List.map_flatMap]
  refine List.flatMap_congr fun x _ => ?_
  cases x.2 <;> rfl

theorem Promises.slots_generated (r : Promises) :
    (r.generated P).slots = r.slots.map fun x => (x.1, x.2.map (·.generated P)) := rfl

theorem Expectations.slots_generated (r : Expectations) :
    (r.generated P).slots = r.slots.map fun x => (x.1, x.2.map (·.generated P)) := rfl

theorem Obligations.slots_generated (r : Obligations) :
    (r.generated P).slots = r.slots.map fun x => (x.1, x.2.map (·.generated P)) := rfl

theorem Port.sites_generated (path : Path) (kind : PortKind) (p : Port) :
    (p.generated P kind).sites path = (p.sites path).map fun y => (y.1, y.2.generated P) := by
  simp only [Port.sites, Port.generated, List.map_append, List.map_flatMap]
  cases p.promises <;> cases p.expectations <;> cases p.obligations <;>
    simp only [Option.map_none, Option.map_some, Option.toList_none, Option.toList_some,
      List.flatMap_nil, List.flatMap_cons, List.append_nil, Promises.slots_generated,
      Expectations.slots_generated, Obligations.slots_generated, slotSites_map]

theorem Port.collectionSites_generated (path : Path) (kind : PortKind) (ps : List Port) (i : Nat) :
    Port.collectionSites path (ps.map (·.generated P kind)) i =
      (Port.collectionSites path ps i).map fun y => (y.1, y.2.generated P) := by
  simp only [Port.collectionSites, List.zipIdx_map, List.flatMap_map, List.map_flatMap]
  refine List.flatMap_congr fun x _ => ?_
  exact Port.sites_generated P _ kind x.1

theorem InterfaceComponents.sites_generated (path : Path) (r : InterfaceComponents) :
    (r.generated P).sites path = (r.sites path).map fun y => (y.1, y.2.generated P) := by
  simp only [InterfaceComponents.sites, InterfaceComponents.ports_generated, List.map_flatMap,
    Port.collectionSites_generated]

end Generated

/-- A fill leaves the same definitions at the same paths, each filled. -/
theorem Descriptor.definitionSites_generated (d : Descriptor) :
    d.generated.definitionSites =
      d.definitionSites.map fun y => (y.1, y.2.generated d.productFqn) := by
  unfold Descriptor.definitionSites Descriptor.generated
  cases d.interfaceComponents <;> simp [InterfaceComponents.sites_generated]

/-- Name-derivation failures are exactly the standard definitions whose name cannot be derived. A
walk that checks and fills reports, for each standard definition on a port, in the order it walks
them, one failure when the definition's name is missing while its own name and version are present,
and the data product's name (which is present) has no `:dataproducts:` or begins with it; the
failure stands at the definition's `fullyQualifiedName` and says which. It reports no other failure:
no port, component or `info` ever fails. A walk that only checks, or only fills, reports none.
Where a definition fails, the fill gives it its entity type and leaves its name missing and its
identifier as it was; a walk that only fills leaves the same descriptor. -/
theorem extraction_failures_exact (d : Descriptor) (e : Option String) :
    (∀ m : Mode, (d.walk m e).errors.filter (FieldError.ofKind .fqnExtractionFailure) =
      if m = .validateAndGenerate then d.definitionSites.filterMap (definitionFailure d.productFqn)
      else []) ∧
    List.Forall₂ (fun a b => b.1 = a.1 ∧ ((definitionFailure d.productFqn a).isSome →
        b.2 = { a.2 with identity := { a.2.identity with
          entityType := if isPresent a.2.identity.entityType then a.2.identity.entityType
            else some "api" } }))
      d.definitionSites (d.walk .validateAndGenerate e).value.definitionSites ∧
    (d.walk .generateOnly e).value = (d.walk .validateAndGenerate e).value := by
  have hg : Mode.validateAndGenerate.generates = true := rfl
  refine ⟨fun m => Descriptor.filter_extraction d m e, ?_, ?_⟩
  · rw [Descriptor.walk_value, if_pos hg, Descriptor.definitionSites_generated,
      List.forall₂_map_right_iff, List.forall₂_same]
    exact fun x _ => ⟨rfl, StandardDefinition.generated_of_failure⟩
  · rw [Descriptor.walk_value, Descriptor.walk_value]
    rfl

end DataProduct
