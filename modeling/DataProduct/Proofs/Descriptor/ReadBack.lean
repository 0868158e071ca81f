import DataProduct.Proofs.Json.Typed
import DataProduct.Descriptor.Decode
import DataProduct.Descriptor.Encode

/-!
# Reading written descriptors back

A descriptor is written as the value `Descriptor.toValue` gives, and each of its parts is read by
a record decoder. Every part is read back from its value (`Port.readsBack`, `Descriptor.readsBack`
and the others), so a whole descriptor is read back from its compact or pretty text
(`Descriptor.parse_compact`, `Descriptor.parse_pretty`) when it is `Descriptor.Faithful`:

* every value of open shape in it (`Descriptor.values`: a definition, a part of a lifecycle task,
  a map of reusable parts taken as an object) is no `null` and has exact integers
  (`Value.Faithful`);
* it nests fewer than 128 levels.

Its maps and the objects of its values of open shape have increasing keys by their types
(`Json.Map`, `Json.SortedValue`), as an object read from text has them.

A field is read back member by member: an optional field is written when present and read as
`some`, a list or a map when it is not empty, and a missing field keeps the default of the
starting record, which is what it held (`foldl_changes_isSome`, `foldl_changes_isEmpty`). Output
ports that are present but empty are written as `[]` and read back as such.
-/

namespace DataProduct

open Json Json.Decoder

/-! ## Values of open shape -/

/-- A value of open shape that writing and reading give back as itself: it is no `null`, which an
optional slot would read back as missing, and its integers are exact. -/
def Json.Value.Faithful (v : Value) : Prop := v ≠ .null ∧ v.Numbers Number.Exact

/-- The value a standard definition holds. -/
def StandardDefinition.values (r : StandardDefinition) : List Value :=
  r.definition.toList.map SortedValue.val

/-- The values the definitions of a port's promises hold. -/
def Promises.values (r : Promises) : List Value :=
  (r.api.toList ++ r.deprecationPolicy.toList ++ r.slo.toList).flatMap StandardDefinition.values

def Expectations.values (r : Expectations) : List Value :=
  (r.audience.toList ++ r.usage.toList).flatMap StandardDefinition.values

def Obligations.values (r : Obligations) : List Value :=
  (r.termsAndConditions.toList ++ r.billingPolicy.toList ++ r.sla.toList).flatMap
    StandardDefinition.values

def Port.values (p : Port) : List Value :=
  p.promises.toList.flatMap Promises.values ++ p.expectations.toList.flatMap Expectations.values ++
    p.obligations.toList.flatMap Obligations.values

def InterfaceComponents.values (r : InterfaceComponents) : List Value :=
  (r.inputPorts ++ r.outputPorts.getD [] ++ r.discoveryPorts ++ r.observabilityPorts ++
    r.controlPorts).flatMap Port.values

def LifecycleTask.values (t : LifecycleTask) : List Value :=
  (t.service.toList ++ t.template.toList ++ t.configurations.toList).map SortedValue.val

def InternalComponents.values (r : InternalComponents) : List Value :=
  r.lifecycleInfo.entries.flatMap fun e => e.2.values

/-- The nine maps of reusable parts, each as an object. -/
def Components.values (r : Components) : List Value := r.maps.map fun m => m.2.toValue SortedValue.val

def Descriptor.values (d : Descriptor) : List Value :=
  d.interfaceComponents.toList.flatMap InterfaceComponents.values ++
    d.internalComponents.toList.flatMap InternalComponents.values ++
    d.components.toList.flatMap Components.values

/-! ## Fields -/

section Fields

variable {α β : Type} {fields : List (Decoder.Field α)}

theorem member?_read {key : String} {d : Decoder β} {set : Option β → α → α} {w : β → Value}
    (hf : fields.find? (·.key == key) = some (field key (option d) set)) {x : Option β}
    (hx : ∀ a ∈ x, d.ReadsBack (w a) a ∧ w a ≠ .null) :
    MembersRead fields [key] (member? key w x) (changes set x.isSome x) := by
  cases x with
  | none => exact ⟨.nil, List.nil_sublist _⟩
  | some a =>
    obtain ⟨ha, hn⟩ := hx a rfl
    exact ⟨.cons ⟨_, hf, field_readsBack (option_readsBack ha hn)⟩ .nil, .refl _⟩

theorem text?_read {key : String} {set : Option String → α → α}
    (hf : fields.find? (·.key == key) = some (textField key set)) (x : Option String) :
    MembersRead fields [key] (text? key x) (changes set x.isSome x) :=
  member?_read hf fun a _ => ⟨string_readsBack a, fun h => nomatch h⟩

theorem value?_read {key : String} {set : Option SortedValue → α → α}
    (hf : fields.find? (·.key == key) = some (valueField key set)) {x : Option SortedValue}
    (hx : ∀ v ∈ x, v.val.Faithful) :
    MembersRead fields [key] (member? key SortedValue.val x) (changes set x.isSome x) :=
  member?_read hf fun v hv => ⟨value_readsBack v (hx v hv).2, (hx v hv).1⟩

theorem items?_read {key : String} {d : Decoder β} {set : List β → α → α} {w : β → Value}
    (hf : fields.find? (·.key == key) = some (field key (list d) set)) {xs : List β}
    (hx : ∀ a ∈ xs, d.ReadsBack (w a) a) :
    MembersRead fields [key] (items? key w xs) (changes set (!xs.isEmpty) xs) := by
  cases xs with
  | nil => exact ⟨.nil, List.nil_sublist _⟩
  | cons a as =>
    have h : List.Forall₂ d.ReadsBack ((a :: as).map w) (a :: as) :=
      List.forall₂_map_left_iff.2 (List.forall₂_same.2 hx)
    exact ⟨.cons ⟨_, hf, field_readsBack (list_readsBack h)⟩ .nil, .refl _⟩

theorem entries?_read {key : String} {d : Decoder β} {set : Map β → α → α} {w : β → Value}
    (hf : fields.find? (·.key == key) = some (field key (dict d) set)) {m : Map β}
    (hx : ∀ e ∈ m.entries, d.ReadsBack (w e.2) e.2) :
    MembersRead fields [key] (entries? key w m) (changes set (!m.entries.isEmpty) m) := by
  obtain ⟨ms, hs⟩ := m
  cases ms with
  | nil => exact ⟨.nil, List.nil_sublist _⟩
  | cons e es =>
    refine ⟨.cons ⟨_, hf, field_readsBack (dict_readsBack ?_)⟩ .nil, .refl _⟩
    refine List.forall₂_map_left_iff.2 (List.forall₂_same.2 ?_)
    rintro ⟨k, a⟩ hka
    exact ⟨rfl, hx _ hka⟩

theorem mapField?_read {key : String} {set : Map SortedValue → α → α}
    (hf : fields.find? (·.key == key) = some (mapField key set)) {m : Map SortedValue}
    (h : (m.toValue SortedValue.val).Faithful) :
    MembersRead fields [key] (entries? key SortedValue.val m) (changes set (!m.entries.isEmpty) m) :=
  entries?_read hf fun e he =>
    value_readsBack e.2 ((membersNumbers_iff _ _).1 h.2 _ (List.mem_map_of_mem he))

end Fields

/-! ## Records -/

theorem Owner.readsBack (o : Owner) : Owner.decoder.ReadsBack o.toValue o := by
  refine (text?_read rfl o.id |>.append (text?_read rfl o.name)).record_readsBack (by decide) ?_
  rw [List.foldl_append, foldl_changes_isSome o.id, foldl_changes_isSome o.name]
  all_goals rfl

theorem ContactPoint.readsBack (c : ContactPoint) : ContactPoint.decoder.ReadsBack c.toValue c := by
  refine (text?_read rfl c.name |>.append (text?_read rfl c.description)
    |>.append (text?_read rfl c.channel) |>.append (text?_read rfl c.address)).record_readsBack
    (by decide) ?_
  simp only [List.foldl_append]
  rw [foldl_changes_isSome c.name, foldl_changes_isSome c.description,
    foldl_changes_isSome c.channel, foldl_changes_isSome c.address]
  all_goals rfl

theorem ExternalDocs.readsBack (e : ExternalDocs) : ExternalDocs.decoder.ReadsBack e.toValue e := by
  refine (text?_read rfl e.description |>.append (text?_read rfl e.mediaType)
    |>.append (text?_read rfl e.url)).record_readsBack (by decide) ?_
  simp only [List.foldl_append]
  rw [foldl_changes_isSome e.description, foldl_changes_isSome e.mediaType,
    foldl_changes_isSome e.url]
  all_goals rfl

theorem Info.readsBack (r : Info) : Info.decoder.ReadsBack r.toValue r := by
  refine (text?_read rfl r.identity.fullyQualifiedName |>.append (text?_read rfl r.identity.entityType)
    |>.append (text?_read rfl r.identity.name) |>.append (text?_read rfl r.identity.version)
    |>.append (text?_read rfl r.displayName) |>.append (text?_read rfl r.description)
    |>.append (text?_read rfl r.domain) |>.append (text?_read rfl r.identity.id)
    |>.append (member?_read rfl fun (o : Owner) _ => ⟨o.readsBack, fun h => nomatch h⟩)
    |>.append (items?_read rfl fun (c : ContactPoint) _ => c.readsBack)).record_readsBack (by decide) ?_
  simp only [List.foldl_append]
  rw [foldl_changes_isSome r.identity.fullyQualifiedName, foldl_changes_isSome r.identity.entityType,
    foldl_changes_isSome r.identity.name, foldl_changes_isSome r.identity.version,
    foldl_changes_isSome r.displayName, foldl_changes_isSome r.description,
    foldl_changes_isSome r.domain, foldl_changes_isSome r.identity.id,
    foldl_changes_isSome r.owner, foldl_changes_isEmpty r.contactPoints]
  all_goals rfl

theorem Component.readsBack (k : ComponentKind) (c : Component) :
    (Component.decoder k).ReadsBack c.toValue c := by
  refine (text?_read rfl c.identity.fullyQualifiedName |>.append (text?_read rfl c.identity.entityType)
    |>.append (text?_read rfl c.identity.name) |>.append (text?_read rfl c.identity.version)
    |>.append (text?_read rfl c.description) |>.append (text?_read rfl c.identity.id)
    |>.append (member?_read rfl fun (e : ExternalDocs) _ => ⟨e.readsBack, fun h => nomatch h⟩)
    ).record_readsBack (by decide) ?_
  simp only [List.foldl_append]
  rw [foldl_changes_isSome c.identity.fullyQualifiedName, foldl_changes_isSome c.identity.entityType,
    foldl_changes_isSome c.identity.name, foldl_changes_isSome c.identity.version,
    foldl_changes_isSome c.description, foldl_changes_isSome c.identity.id,
    foldl_changes_isSome c.externalDocs]
  all_goals rfl

theorem StandardDefinition.readsBack (r : StandardDefinition) (h : ∀ v ∈ r.values, v.Faithful) :
    StandardDefinition.decoder.ReadsBack r.toValue r := by
  refine (text?_read rfl r.identity.fullyQualifiedName |>.append (text?_read rfl r.identity.entityType)
    |>.append (text?_read rfl r.identity.name) |>.append (text?_read rfl r.identity.version)
    |>.append (text?_read rfl r.description) |>.append (text?_read rfl r.specification)
    |>.append (text?_read rfl r.specificationVersion)
    |>.append (value?_read rfl fun v hv => h v.val (List.mem_map_of_mem (Option.mem_toList.2 hv)))
    |>.append (text?_read rfl r.identity.id)
    |>.append (member?_read rfl fun (e : ExternalDocs) _ => ⟨e.readsBack, fun h => nomatch h⟩)
    ).record_readsBack (by decide) ?_
  simp only [List.foldl_append]
  rw [foldl_changes_isSome r.identity.fullyQualifiedName, foldl_changes_isSome r.identity.entityType,
    foldl_changes_isSome r.identity.name, foldl_changes_isSome r.identity.version,
    foldl_changes_isSome r.description, foldl_changes_isSome r.specification,
    foldl_changes_isSome r.specificationVersion, foldl_changes_isSome r.definition,
    foldl_changes_isSome r.identity.id, foldl_changes_isSome r.externalDocs]
  all_goals rfl

/-- A present standard definition whose values are faithful is written as an object that its
decoder reads back. -/
theorem StandardDefinition.read_some {x : Option StandardDefinition}
    (h : ∀ s ∈ x, ∀ v ∈ s.values, v.Faithful) :
    ∀ s ∈ x, StandardDefinition.decoder.ReadsBack s.toValue s ∧ s.toValue ≠ .null :=
  fun s hs => ⟨s.readsBack (h s hs), fun h => nomatch h⟩

theorem Promises.readsBack (r : Promises) (h : ∀ v ∈ r.values, v.Faithful) :
    Promises.decoder.ReadsBack r.toValue r := by
  simp only [Promises.values, List.forall_mem_flatMap, List.forall_mem_append,
    Option.mem_toList] at h
  obtain ⟨⟨h₁, h₂⟩, h₃⟩ := h
  refine (text?_read rfl r.platform |>.append (text?_read rfl r.servicesType)
    |>.append (member?_read rfl (StandardDefinition.read_some h₁))
    |>.append (member?_read rfl (StandardDefinition.read_some h₂))
    |>.append (member?_read rfl (StandardDefinition.read_some h₃))).record_readsBack (by decide) ?_
  simp only [List.foldl_append]
  rw [foldl_changes_isSome r.platform, foldl_changes_isSome r.servicesType,
    foldl_changes_isSome r.api, foldl_changes_isSome r.deprecationPolicy,
    foldl_changes_isSome r.slo]
  all_goals rfl

theorem Expectations.readsBack (r : Expectations) (h : ∀ v ∈ r.values, v.Faithful) :
    Expectations.decoder.ReadsBack r.toValue r := by
  simp only [Expectations.values, List.forall_mem_flatMap, List.forall_mem_append,
    Option.mem_toList] at h
  obtain ⟨h₁, h₂⟩ := h
  refine (member?_read rfl (StandardDefinition.read_some h₁)
    |>.append (member?_read rfl (StandardDefinition.read_some h₂))).record_readsBack (by decide) ?_
  rw [List.foldl_append, foldl_changes_isSome r.audience, foldl_changes_isSome r.usage]
  all_goals rfl

theorem Obligations.readsBack (r : Obligations) (h : ∀ v ∈ r.values, v.Faithful) :
    Obligations.decoder.ReadsBack r.toValue r := by
  simp only [Obligations.values, List.forall_mem_flatMap, List.forall_mem_append,
    Option.mem_toList] at h
  obtain ⟨⟨h₁, h₂⟩, h₃⟩ := h
  refine (member?_read rfl (StandardDefinition.read_some h₁)
    |>.append (member?_read rfl (StandardDefinition.read_some h₂))
    |>.append (member?_read rfl (StandardDefinition.read_some h₃))).record_readsBack (by decide) ?_
  simp only [List.foldl_append]
  rw [foldl_changes_isSome r.termsAndConditions, foldl_changes_isSome r.billingPolicy,
    foldl_changes_isSome r.sla]
  all_goals rfl

theorem Port.readsBack (p : Port) (h : ∀ v ∈ p.values, v.Faithful) :
    Port.decoder.ReadsBack p.toValue p := by
  simp only [Port.values, List.forall_mem_flatMap, List.forall_mem_append,
    Option.mem_toList] at h
  obtain ⟨⟨h₁, h₂⟩, h₃⟩ := h
  refine (text?_read rfl p.identity.fullyQualifiedName |>.append (text?_read rfl p.identity.entityType)
    |>.append (text?_read rfl p.identity.name) |>.append (text?_read rfl p.identity.version)
    |>.append (text?_read rfl p.displayName) |>.append (text?_read rfl p.description)
    |>.append (text?_read rfl p.identity.id)
    |>.append (member?_read rfl fun (x : Promises) hx => ⟨x.readsBack (h₁ x hx), fun h => nomatch h⟩)
    |>.append (member?_read rfl fun (x : Expectations) hx =>
      ⟨x.readsBack (h₂ x hx), fun h => nomatch h⟩)
    |>.append (member?_read rfl fun (x : Obligations) hx =>
      ⟨x.readsBack (h₃ x hx), fun h => nomatch h⟩)
    |>.append (member?_read rfl fun (e : ExternalDocs) _ => ⟨e.readsBack, fun h => nomatch h⟩)
    |>.append (items?_read rfl fun (s : String) _ => string_readsBack s)).record_readsBack
      (by decide) ?_
  simp only [List.foldl_append]
  rw [foldl_changes_isSome p.identity.fullyQualifiedName, foldl_changes_isSome p.identity.entityType,
    foldl_changes_isSome p.identity.name, foldl_changes_isSome p.identity.version,
    foldl_changes_isSome p.displayName, foldl_changes_isSome p.description,
    foldl_changes_isSome p.identity.id, foldl_changes_isSome p.promises,
    foldl_changes_isSome p.expectations, foldl_changes_isSome p.obligations,
    foldl_changes_isSome p.externalDocs, foldl_changes_isEmpty p.tags]
  all_goals rfl

/-- Ports whose values are faithful are read back as a list. -/
theorem Port.readsBack_array {ps : List Port} (h : ∀ p ∈ ps, ∀ v ∈ p.values, v.Faithful) :
    (list Port.decoder).ReadsBack (.array (ps.map Port.toValue)) ps :=
  list_readsBack (List.forall₂_map_left_iff.2 (List.forall₂_same.2 fun p hp => p.readsBack (h p hp)))

theorem InterfaceComponents.readsBack (r : InterfaceComponents) (h : ∀ v ∈ r.values, v.Faithful) :
    InterfaceComponents.decoder.ReadsBack r.toValue r := by
  simp only [InterfaceComponents.values, List.forall_mem_flatMap, List.forall_mem_append] at h
  obtain ⟨⟨⟨⟨h₁, h₂⟩, h₃⟩, h₄⟩, h₅⟩ := h
  have hout : ∀ ps ∈ r.outputPorts, (list Port.decoder).ReadsBack (.array (ps.map Port.toValue)) ps ∧
      Value.array (ps.map Port.toValue) ≠ .null := by
    intro ps hps
    rw [Option.mem_def.1 hps, Option.getD_some] at h₂
    exact ⟨Port.readsBack_array h₂, fun h => nomatch h⟩
  refine ((items?_read rfl fun (p : Port) hp => p.readsBack (h₁ p hp))
    |>.append (member?_read rfl hout)
    |>.append (items?_read rfl fun (p : Port) hp => p.readsBack (h₃ p hp))
    |>.append (items?_read rfl fun (p : Port) hp => p.readsBack (h₄ p hp))
    |>.append (items?_read rfl fun (p : Port) hp => p.readsBack (h₅ p hp))).record_readsBack
      (by decide) ?_
  simp only [List.foldl_append]
  rw [foldl_changes_isEmpty r.inputPorts, foldl_changes_isSome r.outputPorts,
    foldl_changes_isEmpty r.discoveryPorts, foldl_changes_isEmpty r.observabilityPorts,
    foldl_changes_isEmpty r.controlPorts]
  all_goals rfl

theorem LifecycleTask.readsBack (t : LifecycleTask) (h : ∀ v ∈ t.values, v.Faithful) :
    LifecycleTask.decoder.ReadsBack t.toValue t := by
  simp only [LifecycleTask.values, List.forall_mem_map, List.forall_mem_append,
    Option.mem_toList] at h
  obtain ⟨⟨h₁, h₂⟩, h₃⟩ := h
  refine (value?_read rfl h₁ |>.append (value?_read rfl h₂)
    |>.append (value?_read rfl h₃)).record_readsBack (by decide) ?_
  simp only [List.foldl_append]
  rw [foldl_changes_isSome t.service, foldl_changes_isSome t.template,
    foldl_changes_isSome t.configurations]
  all_goals rfl

theorem InternalComponents.readsBack (r : InternalComponents) (h : ∀ v ∈ r.values, v.Faithful) :
    InternalComponents.decoder.ReadsBack r.toValue r := by
  simp only [InternalComponents.values, List.forall_mem_flatMap] at h
  refine ((items?_read rfl fun (c : Component) _ => c.readsBack .application)
    |>.append (items?_read rfl fun (c : Component) _ => c.readsBack .infrastructural)
    |>.append (entries?_read rfl fun e he => e.2.readsBack (h e he))).record_readsBack
      (by decide) ?_
  simp only [List.foldl_append]
  rw [foldl_changes_isEmpty r.applicationComponents, foldl_changes_isEmpty r.infrastructuralComponents,
    foldl_changes_entries r.lifecycleInfo]
  all_goals rfl

theorem Components.readsBack (r : Components) (h : ∀ v ∈ r.values, v.Faithful) :
    Components.decoder.ReadsBack r.toValue r := by
  simp only [Components.values, Components.maps, List.map_cons, List.map_nil,
    List.forall_mem_cons, List.not_mem_nil, IsEmpty.forall_iff, implies_true, and_true] at h
  obtain ⟨h₁, h₂, h₃, h₄, h₅, h₆, h₇, h₈, h₉⟩ := h
  -- the maps are written one after another, each followed by the rest
  refine ((mapField?_read rfl h₁).append ((mapField?_read rfl h₂).append
    ((mapField?_read rfl h₃).append ((mapField?_read rfl h₄).append
    ((mapField?_read rfl h₅).append ((mapField?_read rfl h₆).append
    ((mapField?_read rfl h₇).append ((mapField?_read rfl h₈).append
    ((mapField?_read rfl h₉).append MembersRead.nil))))))))).record_readsBack (by decide) ?_
  simp only [List.foldl_append, List.foldl_nil]
  rw [foldl_changes_entries r.inputPorts, foldl_changes_entries r.outputPorts,
    foldl_changes_entries r.discoveryPorts, foldl_changes_entries r.observabilityPorts,
    foldl_changes_entries r.controlPorts, foldl_changes_entries r.applicationComponents,
    foldl_changes_entries r.infrastructuralComponents, foldl_changes_entries r.apis,
    foldl_changes_entries r.templates]
  all_goals rfl

theorem Descriptor.readsBack (d : Descriptor) (h : ∀ v ∈ d.values, v.Faithful) :
    Descriptor.decoder.ReadsBack d.toValue d := by
  simp only [Descriptor.values, List.forall_mem_flatMap, List.forall_mem_append,
    Option.mem_toList] at h
  obtain ⟨⟨h₁, h₂⟩, h₃⟩ := h
  refine (text?_read rfl d.dataProductDescriptor
    |>.append (member?_read rfl fun (i : Info) _ => ⟨i.readsBack, fun h => nomatch h⟩)
    |>.append (member?_read rfl fun (x : InterfaceComponents) hx =>
      ⟨x.readsBack (h₁ x hx), fun h => nomatch h⟩)
    |>.append (member?_read rfl fun (x : InternalComponents) hx =>
      ⟨x.readsBack (h₂ x hx), fun h => nomatch h⟩)
    |>.append (member?_read rfl fun (x : Components) hx =>
      ⟨x.readsBack (h₃ x hx), fun h => nomatch h⟩)
    |>.append (items?_read rfl fun (s : String) _ => string_readsBack s)
    |>.append (member?_read rfl fun (e : ExternalDocs) _ => ⟨e.readsBack, fun h => nomatch h⟩)
    ).record_readsBack (by decide) ?_
  simp only [List.foldl_append]
  rw [foldl_changes_isSome d.dataProductDescriptor, foldl_changes_isSome d.info,
    foldl_changes_isSome d.interfaceComponents, foldl_changes_isSome d.internalComponents,
    foldl_changes_isSome d.components, foldl_changes_isEmpty d.tags,
    foldl_changes_isSome d.externalDocs]
  all_goals rfl

/-! ## Whole descriptors -/

/-- A descriptor that its text gives back. -/
structure Descriptor.Faithful (d : Descriptor) : Prop where
  values : ∀ v ∈ d.values, v.Faithful
  nesting : d.toValue.nesting < 128

/-- A faithful descriptor written in any layout is parsed back as itself. -/
theorem Descriptor.parse_layout {d : Descriptor} (h : d.Faithful) (L : Layout) {s : String}
    (hs : s.toList = L.text 0 d.toValue) : Descriptor.parse s = .ok (some d) :=
  readText_readsBack (option_readsBack (d.readsBack h.values) fun h => nomatch h) L
    h.nesting hs

theorem Descriptor.parse_compact {d : Descriptor} (h : d.Faithful) :
    Descriptor.parse d.toValue.compact = .ok (some d) :=
  Descriptor.parse_layout h Layout.compact (Value.compact_toList 0 _)

theorem Descriptor.parse_pretty {d : Descriptor} (h : d.Faithful) :
    Descriptor.parse d.toValue.pretty = .ok (some d) :=
  Descriptor.parse_layout h Layout.pretty (Value.prettyAt_toList 0 _)

end DataProduct
