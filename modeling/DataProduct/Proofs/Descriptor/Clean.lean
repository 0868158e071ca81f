import Mathlib.Data.Option.Basic
import DataProduct.Proofs.Json.Clean
import DataProduct.Descriptor.Encode
import DataProduct.Proofs.Walk.Fill
import DataProduct.Proofs.Walk.Names
import DataProduct.Proofs.Publish

/-!
# Descriptors with no placeholder

A descriptor is clean when no text in it holds a placeholder: no text field, no string of a list
of tags, and no string or key of its values of open shape and of its maps (`Descriptor.Clean`).

Reading a clean text gives a clean descriptor, since every part is read field by field from the
text. Filling keeps a descriptor clean: a name it derives joins the data product's name, the
node's name and version, and fixed words with `:`, which no placeholder holds, and an identifier
is hex digits and hyphens. Written as a value, a clean descriptor holds no placeholder in any of
its strings or keys.

* `Descriptor.decoder_draws`: what reading a clean text gives;
* `Descriptor.Clean.generated`: filling keeps a descriptor clean;
* `Descriptor.Clean.toValue`: no string or key of a clean descriptor written as a value holds a
  placeholder.
-/

namespace DataProduct

open Json Json.Decoder Template

/-- No string of an optional text field holds a placeholder. -/
def OptClean (o : Option String) : Prop := ∀ s ∈ o, Template.Clean s

theorem optClean_none : OptClean none := fun _ h => nomatch h

/-- A missing part holds nothing. -/
theorem forall_mem_none {α : Type} {P : α → Prop} : ∀ a ∈ (none : Option α), P a :=
  fun _ h => nomatch h

/-- No key and no string of a map of values of open shape holds a placeholder. -/
def MapClean (m : Map SortedValue) : Prop := ∀ e ∈ m.entries, Template.Clean e.1 ∧ e.2.val.Clean

theorem mapClean_empty : MapClean .empty := fun _ h => nomatch h

/-! ## Clean parts -/

/-- No part of a name holds a placeholder. -/
structure Identity.Clean (i : Identity) : Prop where
  fullyQualifiedName : OptClean i.fullyQualifiedName
  entityType : OptClean i.entityType
  name : OptClean i.name
  version : OptClean i.version
  id : OptClean i.id

theorem Identity.clean_empty : Identity.Clean {} :=
  ⟨optClean_none, optClean_none, optClean_none, optClean_none, optClean_none⟩

structure Owner.Clean (o : Owner) : Prop where
  id : OptClean o.id
  name : OptClean o.name

structure ContactPoint.Clean (c : ContactPoint) : Prop where
  name : OptClean c.name
  description : OptClean c.description
  channel : OptClean c.channel
  address : OptClean c.address

structure ExternalDocs.Clean (d : ExternalDocs) : Prop where
  description : OptClean d.description
  mediaType : OptClean d.mediaType
  url : OptClean d.url

structure Info.Clean (r : Info) : Prop where
  identity : r.identity.Clean
  displayName : OptClean r.displayName
  description : OptClean r.description
  domain : OptClean r.domain
  owner : ∀ o ∈ r.owner, o.Clean
  contactPoints : ∀ c ∈ r.contactPoints, c.Clean

structure StandardDefinition.Clean (r : StandardDefinition) : Prop where
  identity : r.identity.Clean
  description : OptClean r.description
  specification : OptClean r.specification
  specificationVersion : OptClean r.specificationVersion
  definition : ∀ v ∈ r.definition, v.val.Clean
  externalDocs : ∀ e ∈ r.externalDocs, e.Clean

structure Promises.Clean (r : Promises) : Prop where
  platform : OptClean r.platform
  servicesType : OptClean r.servicesType
  api : ∀ a ∈ r.api, a.Clean
  deprecationPolicy : ∀ a ∈ r.deprecationPolicy, a.Clean
  slo : ∀ a ∈ r.slo, a.Clean

structure Expectations.Clean (r : Expectations) : Prop where
  audience : ∀ a ∈ r.audience, a.Clean
  usage : ∀ a ∈ r.usage, a.Clean

structure Obligations.Clean (r : Obligations) : Prop where
  termsAndConditions : ∀ a ∈ r.termsAndConditions, a.Clean
  billingPolicy : ∀ a ∈ r.billingPolicy, a.Clean
  sla : ∀ a ∈ r.sla, a.Clean

structure Port.Clean (p : Port) : Prop where
  identity : p.identity.Clean
  displayName : OptClean p.displayName
  description : OptClean p.description
  promises : ∀ a ∈ p.promises, a.Clean
  expectations : ∀ a ∈ p.expectations, a.Clean
  obligations : ∀ a ∈ p.obligations, a.Clean
  externalDocs : ∀ e ∈ p.externalDocs, e.Clean
  tags : ∀ t ∈ p.tags, Template.Clean t

structure InterfaceComponents.Clean (r : InterfaceComponents) : Prop where
  inputPorts : ∀ p ∈ r.inputPorts, p.Clean
  outputPorts : ∀ ps ∈ r.outputPorts, ∀ p ∈ ps, p.Clean
  discoveryPorts : ∀ p ∈ r.discoveryPorts, p.Clean
  observabilityPorts : ∀ p ∈ r.observabilityPorts, p.Clean
  controlPorts : ∀ p ∈ r.controlPorts, p.Clean

structure Component.Clean (c : Component) : Prop where
  identity : c.identity.Clean
  description : OptClean c.description
  externalDocs : ∀ e ∈ c.externalDocs, e.Clean

structure LifecycleTask.Clean (t : LifecycleTask) : Prop where
  service : ∀ v ∈ t.service, v.val.Clean
  template : ∀ v ∈ t.template, v.val.Clean
  configurations : ∀ v ∈ t.configurations, v.val.Clean

structure InternalComponents.Clean (r : InternalComponents) : Prop where
  applicationComponents : ∀ c ∈ r.applicationComponents, c.Clean
  infrastructuralComponents : ∀ c ∈ r.infrastructuralComponents, c.Clean
  lifecycleInfo : ∀ e ∈ r.lifecycleInfo.entries, Template.Clean e.1 ∧ e.2.Clean

structure Components.Clean (r : Components) : Prop where
  inputPorts : MapClean r.inputPorts
  outputPorts : MapClean r.outputPorts
  discoveryPorts : MapClean r.discoveryPorts
  observabilityPorts : MapClean r.observabilityPorts
  controlPorts : MapClean r.controlPorts
  applicationComponents : MapClean r.applicationComponents
  infrastructuralComponents : MapClean r.infrastructuralComponents
  apis : MapClean r.apis
  templates : MapClean r.templates

/-- No text anywhere in a descriptor holds a placeholder. -/
structure Descriptor.Clean (d : Descriptor) : Prop where
  dataProductDescriptor : OptClean d.dataProductDescriptor
  info : ∀ i ∈ d.info, i.Clean
  interfaceComponents : ∀ a ∈ d.interfaceComponents, a.Clean
  internalComponents : ∀ a ∈ d.internalComponents, a.Clean
  components : ∀ a ∈ d.components, a.Clean
  tags : ∀ t ∈ d.tags, Template.Clean t
  externalDocs : ∀ e ∈ d.externalDocs, e.Clean

/-! ## Reading -/

section Fields

variable {α : Type} {Inv : α → Prop}

/-- A text field keeps every invariant that its setter keeps with a clean string. -/
theorem text_draws {key : String} {set : Option String → α → α}
    (h : ∀ x r, OptClean x → Inv r → Inv (set x r)) (F : Nat) :
    Draws ((textField key set).read F) (Preserves Inv) :=
  field_draws (fun F => option_draws (string_draws F)) h F

/-- An optional field of a part that reading a clean text leaves clean. -/
theorem part_draws {β : Type} {key : String} {d : Decoder β} {G : β → Prop}
    {set : Option β → α → α} (hd : ∀ F, Draws (d F) G)
    (h : ∀ x r, (∀ a ∈ x, G a) → Inv r → Inv (set x r)) (F : Nat) :
    Draws ((field key (option d) set).read F) (Preserves Inv) :=
  field_draws (fun F => option_draws (hd F)) h F

end Fields

theorem Owner.decoder_draws (F : Nat) : Draws (Owner.decoder F) Owner.Clean := by
  refine record_draws Owner.Clean ⟨optClean_none, optClean_none⟩ ?_ F
  exact ⟨text_draws fun _ _ hx h => { h with id := hx },
    text_draws fun _ _ hx h => { h with name := hx }⟩

theorem ContactPoint.decoder_draws (F : Nat) : Draws (ContactPoint.decoder F) ContactPoint.Clean := by
  refine record_draws ContactPoint.Clean
    ⟨optClean_none, optClean_none, optClean_none, optClean_none⟩ ?_ F
  exact ⟨text_draws fun _ _ hx h => { h with name := hx },
    text_draws fun _ _ hx h => { h with description := hx },
    text_draws fun _ _ hx h => { h with channel := hx },
    text_draws fun _ _ hx h => { h with address := hx }⟩

theorem ExternalDocs.decoder_draws (F : Nat) : Draws (ExternalDocs.decoder F) ExternalDocs.Clean := by
  refine record_draws ExternalDocs.Clean ⟨optClean_none, optClean_none, optClean_none⟩ ?_ F
  exact ⟨text_draws fun _ _ hx h => { h with description := hx },
    text_draws fun _ _ hx h => { h with mediaType := hx },
    text_draws fun _ _ hx h => { h with url := hx }⟩

theorem Info.decoder_draws (F : Nat) : Draws (Info.decoder F) Info.Clean := by
  refine record_draws Info.Clean ⟨Identity.clean_empty, optClean_none, optClean_none,
    optClean_none, forall_mem_none, List.forall_mem_nil _⟩ ?_ F
  exact ⟨text_draws fun _ _ hx h => { h with identity.fullyQualifiedName := hx },
    text_draws fun _ _ hx h => { h with identity.entityType := hx },
    text_draws fun _ _ hx h => { h with identity.name := hx },
    text_draws fun _ _ hx h => { h with identity.version := hx },
    text_draws fun _ _ hx h => { h with displayName := hx },
    text_draws fun _ _ hx h => { h with description := hx },
    text_draws fun _ _ hx h => { h with domain := hx },
    text_draws fun _ _ hx h => { h with identity.id := hx },
    part_draws Owner.decoder_draws fun _ _ hx h => { h with owner := hx },
    field_draws (list_draws ContactPoint.decoder_draws)
      fun _ _ hx h => { h with contactPoints := hx }⟩

/-- A present value of open shape read from a clean text. -/
theorem valueField_draws {α : Type} {Inv : α → Prop} {key : String}
    {set : Option SortedValue → α → α} (h : ∀ x r, (∀ v ∈ x, v.val.Clean) → Inv r → Inv (set x r))
    (F : Nat) : Draws ((valueField key set).read F) (Preserves Inv) :=
  part_draws value_draws h F

theorem StandardDefinition.decoder_draws (F : Nat) :
    Draws (StandardDefinition.decoder F) StandardDefinition.Clean := by
  refine record_draws StandardDefinition.Clean ⟨Identity.clean_empty, optClean_none, optClean_none,
    optClean_none, forall_mem_none, forall_mem_none⟩ ?_ F
  exact ⟨text_draws fun _ _ hx h => { h with identity.fullyQualifiedName := hx },
    text_draws fun _ _ hx h => { h with identity.entityType := hx },
    text_draws fun _ _ hx h => { h with identity.name := hx },
    text_draws fun _ _ hx h => { h with identity.version := hx },
    text_draws fun _ _ hx h => { h with description := hx },
    text_draws fun _ _ hx h => { h with specification := hx },
    text_draws fun _ _ hx h => { h with specificationVersion := hx },
    valueField_draws fun _ _ hx h => { h with definition := hx },
    text_draws fun _ _ hx h => { h with identity.id := hx },
    part_draws ExternalDocs.decoder_draws fun _ _ hx h => { h with externalDocs := hx }⟩

theorem Promises.decoder_draws (F : Nat) : Draws (Promises.decoder F) Promises.Clean := by
  refine record_draws Promises.Clean ⟨optClean_none, optClean_none, forall_mem_none,
    forall_mem_none, forall_mem_none⟩ ?_ F
  exact ⟨text_draws fun _ _ hx h => { h with platform := hx },
    text_draws fun _ _ hx h => { h with servicesType := hx },
    part_draws StandardDefinition.decoder_draws fun _ _ hx h => { h with api := hx },
    part_draws StandardDefinition.decoder_draws fun _ _ hx h => { h with deprecationPolicy := hx },
    part_draws StandardDefinition.decoder_draws fun _ _ hx h => { h with slo := hx }⟩

theorem Expectations.decoder_draws (F : Nat) : Draws (Expectations.decoder F) Expectations.Clean := by
  refine record_draws Expectations.Clean ⟨forall_mem_none, forall_mem_none⟩ ?_ F
  exact ⟨part_draws StandardDefinition.decoder_draws fun _ _ hx h => { h with audience := hx },
    part_draws StandardDefinition.decoder_draws fun _ _ hx h => { h with usage := hx }⟩

theorem Obligations.decoder_draws (F : Nat) : Draws (Obligations.decoder F) Obligations.Clean := by
  refine record_draws Obligations.Clean
    ⟨forall_mem_none, forall_mem_none, forall_mem_none⟩ ?_ F
  exact ⟨part_draws StandardDefinition.decoder_draws
      fun _ _ hx h => { h with termsAndConditions := hx },
    part_draws StandardDefinition.decoder_draws fun _ _ hx h => { h with billingPolicy := hx },
    part_draws StandardDefinition.decoder_draws fun _ _ hx h => { h with sla := hx }⟩

theorem Port.decoder_draws (F : Nat) : Draws (Port.decoder F) Port.Clean := by
  refine record_draws Port.Clean ⟨Identity.clean_empty, optClean_none, optClean_none,
    forall_mem_none, forall_mem_none, forall_mem_none, forall_mem_none, List.forall_mem_nil _⟩ ?_ F
  exact ⟨text_draws fun _ _ hx h => { h with identity.fullyQualifiedName := hx },
    text_draws fun _ _ hx h => { h with identity.entityType := hx },
    text_draws fun _ _ hx h => { h with identity.name := hx },
    text_draws fun _ _ hx h => { h with identity.version := hx },
    text_draws fun _ _ hx h => { h with displayName := hx },
    text_draws fun _ _ hx h => { h with description := hx },
    text_draws fun _ _ hx h => { h with identity.id := hx },
    part_draws Promises.decoder_draws fun _ _ hx h => { h with promises := hx },
    part_draws Expectations.decoder_draws fun _ _ hx h => { h with expectations := hx },
    part_draws Obligations.decoder_draws fun _ _ hx h => { h with obligations := hx },
    part_draws ExternalDocs.decoder_draws fun _ _ hx h => { h with externalDocs := hx },
    field_draws (list_draws string_draws) fun _ _ hx h => { h with tags := hx }⟩

theorem InterfaceComponents.decoder_draws (F : Nat) :
    Draws (InterfaceComponents.decoder F) InterfaceComponents.Clean := by
  refine record_draws InterfaceComponents.Clean ⟨List.forall_mem_nil _, forall_mem_none,
    List.forall_mem_nil _, List.forall_mem_nil _, List.forall_mem_nil _⟩ ?_ F
  have hl := list_draws Port.decoder_draws
  exact ⟨field_draws hl fun _ _ hx h => { h with inputPorts := hx },
    part_draws hl fun _ _ hx h => { h with outputPorts := hx },
    field_draws hl fun _ _ hx h => { h with discoveryPorts := hx },
    field_draws hl fun _ _ hx h => { h with observabilityPorts := hx },
    field_draws hl fun _ _ hx h => { h with controlPorts := hx }⟩

theorem Component.decoder_draws (k : ComponentKind) (F : Nat) :
    Draws (Component.decoder k F) Component.Clean := by
  refine record_draws Component.Clean ⟨Identity.clean_empty, optClean_none, forall_mem_none⟩ ?_ F
  exact ⟨text_draws fun _ _ hx h => { h with identity.fullyQualifiedName := hx },
    text_draws fun _ _ hx h => { h with identity.entityType := hx },
    text_draws fun _ _ hx h => { h with identity.name := hx },
    text_draws fun _ _ hx h => { h with identity.version := hx },
    text_draws fun _ _ hx h => { h with description := hx },
    text_draws fun _ _ hx h => { h with identity.id := hx },
    part_draws ExternalDocs.decoder_draws fun _ _ hx h => { h with externalDocs := hx }⟩

theorem LifecycleTask.decoder_draws (F : Nat) : Draws (LifecycleTask.decoder F) LifecycleTask.Clean := by
  refine record_draws LifecycleTask.Clean
    ⟨forall_mem_none, forall_mem_none, forall_mem_none⟩ ?_ F
  exact ⟨valueField_draws fun _ _ hx h => { h with service := hx },
    valueField_draws fun _ _ hx h => { h with template := hx },
    valueField_draws fun _ _ hx h => { h with configurations := hx }⟩

theorem InternalComponents.decoder_draws (F : Nat) :
    Draws (InternalComponents.decoder F) InternalComponents.Clean := by
  refine record_draws InternalComponents.Clean
    ⟨List.forall_mem_nil _, List.forall_mem_nil _, List.forall_mem_nil _⟩ ?_ F
  exact ⟨field_draws (list_draws (Component.decoder_draws .application))
      fun _ _ hx h => { h with applicationComponents := hx },
    field_draws (list_draws (Component.decoder_draws .infrastructural))
      fun _ _ hx h => { h with infrastructuralComponents := hx },
    field_draws (dict_draws LifecycleTask.decoder_draws)
      fun _ _ hx h => { h with lifecycleInfo := hx }⟩

/-- A map of values of open shape read from a clean text. -/
theorem map_draws {α : Type} {Inv : α → Prop} {key : String} {set : Map SortedValue → α → α}
    (h : ∀ x r, MapClean x → Inv r → Inv (set x r)) (F : Nat) :
    Draws ((mapField key set).read F) (Preserves Inv) :=
  field_draws (dict_draws value_draws) h F

theorem Components.decoder_draws (F : Nat) : Draws (Components.decoder F) Components.Clean := by
  refine record_draws Components.Clean ⟨mapClean_empty, mapClean_empty, mapClean_empty,
    mapClean_empty, mapClean_empty, mapClean_empty, mapClean_empty, mapClean_empty,
    mapClean_empty⟩ ?_ F
  exact ⟨map_draws fun _ _ hx h => { h with inputPorts := hx },
    map_draws fun _ _ hx h => { h with outputPorts := hx },
    map_draws fun _ _ hx h => { h with discoveryPorts := hx },
    map_draws fun _ _ hx h => { h with observabilityPorts := hx },
    map_draws fun _ _ hx h => { h with controlPorts := hx },
    map_draws fun _ _ hx h => { h with applicationComponents := hx },
    map_draws fun _ _ hx h => { h with infrastructuralComponents := hx },
    map_draws fun _ _ hx h => { h with apis := hx },
    map_draws fun _ _ hx h => { h with templates := hx }⟩

theorem Descriptor.decoder_draws (F : Nat) : Draws (Descriptor.decoder F) Descriptor.Clean := by
  refine record_draws Descriptor.Clean ⟨optClean_none, forall_mem_none, forall_mem_none,
    forall_mem_none, forall_mem_none, List.forall_mem_nil _, forall_mem_none⟩ ?_ F
  exact ⟨text_draws fun _ _ hx h => { h with dataProductDescriptor := hx },
    part_draws Info.decoder_draws fun _ _ hx h => { h with info := hx },
    part_draws InterfaceComponents.decoder_draws fun _ _ hx h => { h with interfaceComponents := hx },
    part_draws InternalComponents.decoder_draws fun _ _ hx h => { h with internalComponents := hx },
    part_draws Components.decoder_draws fun _ _ hx h => { h with components := hx },
    field_draws (list_draws string_draws) fun _ _ hx h => { h with tags := hx },
    part_draws ExternalDocs.decoder_draws fun _ _ hx h => { h with externalDocs := hx }⟩

/-- A descriptor read from a clean text is clean. -/
theorem Descriptor.parse_clean {t : String} {d : Descriptor}
    (h : Descriptor.parse t = .ok (some d)) (ht : CleanText t.toList) : d.Clean :=
  readText_draws (fun F => option_draws (Descriptor.decoder_draws F)) h ht d rfl

/-! ## Filling -/

theorem optClean_some {s : String} (h : Template.Clean s) : OptClean (some s) :=
  fun _ hs => Option.some_inj.1 hs ▸ h

theorem OptClean.or {a b : Option String} (ha : OptClean a) (hb : OptClean b) :
    OptClean (a.or b) := by
  cases a with
  | none => exact hb
  | some s => exact ha

theorem OptClean.present {v : Option String} (h : OptClean v) : OptClean (present v) :=
  fun s hs => h s (eq_some_of_present hs)

/-- Two texts with no placeholder, joined by `:`, hold none: `:` is no character of one. -/
theorem not_hasPlaceholder_colon {A B : List Char} (hA : ¬ HasPlaceholder A)
    (hB : ¬ HasPlaceholder B) : ¬ HasPlaceholder (A ++ ':' :: B) :=
  fun h => (hasPlaceholder_append_cons rfl h).elim hA hB

theorem clean_append_colon {a b : String} (ha : Template.Clean a) (hb : Template.Clean b) :
    Template.Clean (a ++ ":" ++ b) := by
  have hl : (a ++ ":" ++ b).toList = a.toList ++ ':' :: b.toList := by simp
  rw [Template.Clean, hl]
  exact not_hasPlaceholder_colon ha hb

theorem Uuid.hexDigit_ne_dollar : ∀ n < 16, Uuid.hexDigit n ≠ '$' := by decide

/-- An identifier is hex digits and hyphens. -/
theorem Uuid.clean_ofUrl (s : String) : Template.Clean (Uuid.ofUrl s) := by
  apply clean_of_dollar_not_mem
  simp only [Uuid.ofUrl, Uuid.render, String.toList_ofList, List.mem_flatMap, List.mem_append,
    Uuid.hexByte, List.mem_cons, List.not_mem_nil, or_false, not_exists, not_and]
  rintro ⟨b, i⟩ - (h | h | h)
  · split at h
    · exact absurd (List.mem_singleton.1 h) (by decide)
    · exact absurd h List.not_mem_nil
  · have := (b, i).1.toNat_lt
    exact Uuid.hexDigit_ne_dollar _ (by omega) h.symm
  · exact Uuid.hexDigit_ne_dollar _ (Nat.mod_lt _ (by decide)) h.symm

theorem childName_clean {product name : Option String} {segment : String}
    (hp : OptClean product) (hn : OptClean name) (hs : '$' ∉ segment.toList) :
    OptClean (childName product segment name) := by
  intro f hf
  obtain ⟨p, n, hp', hn', rfl⟩ := childName_eq_some hf
  exact clean_append_colon (clean_append_colon (hp p (eq_some_of_present hp'))
    (clean_of_dollar_not_mem hs)) (hn n (eq_some_of_present hn'))

theorem definitionNameOf_clean {product name version : Option String} (hp : OptClean product)
    (hn : OptClean name) (hv : OptClean version) :
    OptClean (definitionNameOf product name version) := by
  intro f hf
  obtain ⟨p, ns, n, v, hp', hns, hn', hv', rfl⟩ := definitionNameOf_eq_some hf
  obtain ⟨rest, hrest⟩ := Identity.meshNamespace_eq_ok hns
  -- the mesh namespace is the front of the data product's name
  have hns' : Template.Clean ns := fun h =>
    hp p (eq_some_of_present hp') (h.mono ⟨[], Identity.marker.toList ++ rest, by simp [hrest]⟩)
  have hl : (ns ++ ":apis:" ++ n ++ ":" ++ v).toList =
      ns.toList ++ ':' :: ("apis".toList ++ ':' :: (n.toList ++ ':' :: v.toList)) := by simp
  rw [Template.Clean, hl]
  exact not_hasPlaceholder_colon hns' (not_hasPlaceholder_colon (clean_of_dollar_not_mem (by decide))
    (not_hasPlaceholder_colon (hn n (eq_some_of_present hn')) (hv v (eq_some_of_present hv'))))

/-- Filling a clean identity with a fixed entity type and a clean derived name keeps it clean:
what it writes is the entity type, the name, and the identifier of a name. -/
theorem Identity.Clean.filled {i : Identity} (h : i.Clean) {expected : String}
    (he : '$' ∉ expected.toList) {derived : Option String} (hd : OptClean derived) :
    (i.filled expected derived).Clean := by
  have hfqn : OptClean (if isPresent i.fullyQualifiedName then i.fullyQualifiedName
      else derived.or i.fullyQualifiedName) := by
    split
    · exact h.fullyQualifiedName
    · exact hd.or h.fullyQualifiedName
  refine ⟨hfqn, ?_, h.name, h.version, ?_⟩
  · show OptClean (if isPresent i.entityType then i.entityType else some expected)
    split
    · exact h.entityType
    · exact optClean_some (clean_of_dollar_not_mem he)
  · show OptClean (if isPresent i.id then i.id else _)
    split
    · exact h.id
    · exact OptClean.or (Option.forall_mem_map.2 fun a _ => Uuid.clean_ofUrl a) h.id

theorem PortKind.dollar_not_mem_entityType (k : PortKind) : '$' ∉ k.entityType.toList := by
  cases k <;> decide

theorem PortKind.dollar_not_mem_segment (k : PortKind) : '$' ∉ k.segment.toList := by
  cases k <;> decide

theorem ComponentKind.dollar_not_mem_entityType (k : ComponentKind) :
    '$' ∉ k.entityType.toList := by
  cases k <;> decide

theorem ComponentKind.dollar_not_mem_segment (k : ComponentKind) : '$' ∉ k.segment.toList := by
  cases k <;> decide

section Generated

variable {product : Option String} (hp : OptClean product)
include hp

theorem StandardDefinition.Clean.generated {d : StandardDefinition} (h : d.Clean) :
    (d.generated product).Clean :=
  { h with
    identity := h.identity.filled (by decide)
      (definitionNameOf_clean hp h.identity.name h.identity.version) }

theorem Promises.Clean.generated {r : Promises} (h : r.Clean) : (r.generated product).Clean :=
  { h with
    api := Option.forall_mem_map.2 fun a ha => (h.api a ha).generated hp
    deprecationPolicy := Option.forall_mem_map.2 fun a ha => (h.deprecationPolicy a ha).generated hp
    slo := Option.forall_mem_map.2 fun a ha => (h.slo a ha).generated hp }

theorem Expectations.Clean.generated {r : Expectations} (h : r.Clean) :
    (r.generated product).Clean :=
  { audience := Option.forall_mem_map.2 fun a ha => (h.audience a ha).generated hp
    usage := Option.forall_mem_map.2 fun a ha => (h.usage a ha).generated hp }

theorem Obligations.Clean.generated {r : Obligations} (h : r.Clean) :
    (r.generated product).Clean :=
  { termsAndConditions := Option.forall_mem_map.2 fun a ha => (h.termsAndConditions a ha).generated hp
    billingPolicy := Option.forall_mem_map.2 fun a ha => (h.billingPolicy a ha).generated hp
    sla := Option.forall_mem_map.2 fun a ha => (h.sla a ha).generated hp }

theorem Port.Clean.generated {p : Port} (h : p.Clean) (kind : PortKind) :
    (p.generated product kind).Clean :=
  { h with
    identity := h.identity.filled kind.dollar_not_mem_entityType
      (childName_clean hp h.identity.name kind.dollar_not_mem_segment)
    promises := Option.forall_mem_map.2 fun a ha => (h.promises a ha).generated hp
    expectations := Option.forall_mem_map.2 fun a ha => (h.expectations a ha).generated hp
    obligations := Option.forall_mem_map.2 fun a ha => (h.obligations a ha).generated hp }

theorem InterfaceComponents.Clean.generated {r : InterfaceComponents} (h : r.Clean) :
    (r.generated product).Clean :=
  { inputPorts := List.forall_mem_map.2 fun p hp' => (h.inputPorts p hp').generated hp _
    outputPorts := Option.forall_mem_map.2 fun ps hps =>
      List.forall_mem_map.2 fun p hp' => (h.outputPorts ps hps p hp').generated hp _
    discoveryPorts := List.forall_mem_map.2 fun p hp' => (h.discoveryPorts p hp').generated hp _
    observabilityPorts :=
      List.forall_mem_map.2 fun p hp' => (h.observabilityPorts p hp').generated hp _
    controlPorts := List.forall_mem_map.2 fun p hp' => (h.controlPorts p hp').generated hp _ }

theorem Component.Clean.generated {c : Component} (h : c.Clean) (kind : ComponentKind) :
    (c.generated product kind).Clean :=
  { h with
    identity := h.identity.filled kind.dollar_not_mem_entityType
      (childName_clean hp h.identity.name kind.dollar_not_mem_segment) }

theorem InternalComponents.Clean.generated {r : InternalComponents} (h : r.Clean) :
    (r.generated product).Clean :=
  { h with
    applicationComponents :=
      List.forall_mem_map.2 fun c hc => (h.applicationComponents c hc).generated hp _
    infrastructuralComponents :=
      List.forall_mem_map.2 fun c hc => (h.infrastructuralComponents c hc).generated hp _ }

end Generated

theorem Info.Clean.generated {r : Info} (h : r.Clean) : r.generated.Clean :=
  { h with identity := h.identity.filled (by decide) optClean_none }

/-- The data product's name, which filling derives other names from, is clean. -/
theorem Descriptor.Clean.productFqn {d : Descriptor} (h : d.Clean) : OptClean d.productFqn := by
  unfold Descriptor.productFqn
  split
  · rename_i i hi
    exact (h.info i hi).identity.fullyQualifiedName.present
  · exact optClean_none

/-- Filling keeps a descriptor clean. -/
theorem Descriptor.Clean.generated {d : Descriptor} (h : d.Clean) : d.generated.Clean :=
  { h with
    info := Option.forall_mem_map.2 fun a ha => (h.info a ha).generated
    interfaceComponents :=
      Option.forall_mem_map.2 fun a ha => (h.interfaceComponents a ha).generated h.productFqn
    internalComponents :=
      Option.forall_mem_map.2 fun a ha => (h.internalComponents a ha).generated h.productFqn }

/-! ## Written as a value -/

/-- No key and no string of the members of an object holds a placeholder. -/
def MembersClean (ms : List (String × Value)) : Prop := ∀ t ∈ membersTexts ms, Template.Clean t

theorem membersTexts_append (ms₁ ms₂ : List (String × Value)) :
    membersTexts (ms₁ ++ ms₂) = membersTexts ms₁ ++ membersTexts ms₂ := by
  induction ms₁ with
  | nil => rfl
  | cons m ms ih =>
    obtain ⟨k, v⟩ := m
    simp [membersTexts, ih]

theorem MembersClean.append {ms₁ ms₂ : List (String × Value)} (h₁ : MembersClean ms₁)
    (h₂ : MembersClean ms₂) : MembersClean (ms₁ ++ ms₂) := by
  intro t ht
  rw [membersTexts_append, List.mem_append] at ht
  exact ht.elim (h₁ t) (h₂ t)

theorem membersClean_nil : MembersClean [] := fun _ h => absurd h List.not_mem_nil

/-- One member whose key is a fixed word without `$`. -/
theorem membersClean_singleton {k : String} {v : Value} (hk : '$' ∉ k.toList) (hv : v.Clean) :
    MembersClean [(k, v)] := by
  intro t ht
  simp only [membersTexts, List.append_nil, List.mem_cons] at ht
  rcases ht with rfl | ht
  · exact clean_of_dollar_not_mem hk
  · exact hv t ht

theorem Value.clean_string {s : String} (h : Template.Clean s) : (Value.string s).Clean := by
  intro t ht
  simp only [Value.texts, List.mem_singleton] at ht
  exact ht ▸ h

theorem Value.clean_array {vs : List Value} (h : ∀ v ∈ vs, v.Clean) : (Value.array vs).Clean := by
  intro t ht
  obtain ⟨v, hv, ht⟩ := mem_itemsTexts.1 ht
  exact h v hv t ht

section Members

variable {α : Type} {key : String} {f : α → Value}

theorem member?_clean {x : Option α} (hk : '$' ∉ key.toList) (h : ∀ a ∈ x, (f a).Clean) :
    MembersClean (member? key f x) := by
  cases x with
  | none => exact membersClean_nil
  | some a => exact membersClean_singleton hk (h a rfl)

theorem text?_clean {x : Option String} (hk : '$' ∉ key.toList) (h : OptClean x) :
    MembersClean (text? key x) :=
  member?_clean hk fun s hs => Value.clean_string (h s hs)

theorem items?_clean {xs : List α} (hk : '$' ∉ key.toList) (h : ∀ a ∈ xs, (f a).Clean) :
    MembersClean (items? key f xs) := by
  unfold items?
  split
  · exact membersClean_nil
  · exact membersClean_singleton hk (Value.clean_array (List.forall_mem_map.2 h))

theorem entries?_clean {m : Map α} (hk : '$' ∉ key.toList)
    (h : ∀ e ∈ m.entries, Template.Clean e.1 ∧ (f e.2).Clean) : MembersClean (entries? key f m) := by
  unfold entries?
  split
  · exact membersClean_nil
  · refine membersClean_singleton hk fun t ht => ?_
    obtain ⟨e', he', ht⟩ := mem_membersTexts.1 ht
    obtain ⟨⟨k, a⟩, he, rfl⟩ := List.mem_map.1 he'
    rcases ht with rfl | ht
    · exact (h _ he).1
    · exact (h _ he).2 t ht

end Members

theorem Identity.Clean.leading {i : Identity} (h : i.Clean) : MembersClean i.leading :=
  text?_clean (by decide) h.fullyQualifiedName |>.append (text?_clean (by decide) h.entityType)
    |>.append (text?_clean (by decide) h.name) |>.append (text?_clean (by decide) h.version)

theorem Owner.Clean.toValue {o : Owner} (h : o.Clean) : o.toValue.Clean :=
  (text?_clean (by decide) h.id).append (text?_clean (by decide) h.name)

theorem ContactPoint.Clean.toValue {c : ContactPoint} (h : c.Clean) : c.toValue.Clean :=
  text?_clean (by decide) h.name |>.append (text?_clean (by decide) h.description)
    |>.append (text?_clean (by decide) h.channel) |>.append (text?_clean (by decide) h.address)

theorem ExternalDocs.Clean.toValue {d : ExternalDocs} (h : d.Clean) : d.toValue.Clean :=
  text?_clean (by decide) h.description |>.append (text?_clean (by decide) h.mediaType)
    |>.append (text?_clean (by decide) h.url)

theorem Info.Clean.toValue {r : Info} (h : r.Clean) : r.toValue.Clean :=
  h.identity.leading |>.append (text?_clean (by decide) h.displayName)
    |>.append (text?_clean (by decide) h.description) |>.append (text?_clean (by decide) h.domain)
    |>.append (text?_clean (by decide) h.identity.id)
    |>.append (member?_clean (by decide) fun o ho => (h.owner o ho).toValue)
    |>.append (items?_clean (by decide) fun c hc => (h.contactPoints c hc).toValue)

theorem StandardDefinition.Clean.toValue {r : StandardDefinition} (h : r.Clean) :
    r.toValue.Clean :=
  h.identity.leading |>.append (text?_clean (by decide) h.description)
    |>.append (text?_clean (by decide) h.specification)
    |>.append (text?_clean (by decide) h.specificationVersion)
    |>.append (member?_clean (by decide) h.definition)
    |>.append (text?_clean (by decide) h.identity.id)
    |>.append (member?_clean (by decide) fun e he => (h.externalDocs e he).toValue)

theorem Promises.Clean.toValue {r : Promises} (h : r.Clean) : r.toValue.Clean :=
  text?_clean (by decide) h.platform |>.append (text?_clean (by decide) h.servicesType)
    |>.append (member?_clean (by decide) fun a ha => (h.api a ha).toValue)
    |>.append (member?_clean (by decide) fun a ha => (h.deprecationPolicy a ha).toValue)
    |>.append (member?_clean (by decide) fun a ha => (h.slo a ha).toValue)

theorem Expectations.Clean.toValue {r : Expectations} (h : r.Clean) : r.toValue.Clean :=
  (member?_clean (by decide) fun a ha => (h.audience a ha).toValue).append
    (member?_clean (by decide) fun a ha => (h.usage a ha).toValue)

theorem Obligations.Clean.toValue {r : Obligations} (h : r.Clean) : r.toValue.Clean :=
  member?_clean (by decide) (fun a ha => (h.termsAndConditions a ha).toValue)
    |>.append (member?_clean (by decide) fun a ha => (h.billingPolicy a ha).toValue)
    |>.append (member?_clean (by decide) fun a ha => (h.sla a ha).toValue)

theorem Port.Clean.toValue {p : Port} (h : p.Clean) : p.toValue.Clean :=
  h.identity.leading |>.append (text?_clean (by decide) h.displayName)
    |>.append (text?_clean (by decide) h.description)
    |>.append (text?_clean (by decide) h.identity.id)
    |>.append (member?_clean (by decide) fun a ha => (h.promises a ha).toValue)
    |>.append (member?_clean (by decide) fun a ha => (h.expectations a ha).toValue)
    |>.append (member?_clean (by decide) fun a ha => (h.obligations a ha).toValue)
    |>.append (member?_clean (by decide) fun e he => (h.externalDocs e he).toValue)
    |>.append (items?_clean (by decide) fun t ht => Value.clean_string (h.tags t ht))

theorem InterfaceComponents.Clean.toValue {r : InterfaceComponents} (h : r.Clean) :
    r.toValue.Clean :=
  items?_clean (by decide) (fun p hp => (h.inputPorts p hp).toValue)
    |>.append (member?_clean (by decide) fun ps hps =>
      Value.clean_array (List.forall_mem_map.2 fun p hp => (h.outputPorts ps hps p hp).toValue))
    |>.append (items?_clean (by decide) fun p hp => (h.discoveryPorts p hp).toValue)
    |>.append (items?_clean (by decide) fun p hp => (h.observabilityPorts p hp).toValue)
    |>.append (items?_clean (by decide) fun p hp => (h.controlPorts p hp).toValue)

theorem Component.Clean.toValue {c : Component} (h : c.Clean) : c.toValue.Clean :=
  h.identity.leading |>.append (text?_clean (by decide) h.description)
    |>.append (text?_clean (by decide) h.identity.id)
    |>.append (member?_clean (by decide) fun e he => (h.externalDocs e he).toValue)

theorem LifecycleTask.Clean.toValue {t : LifecycleTask} (h : t.Clean) : t.toValue.Clean :=
  member?_clean (by decide) h.service |>.append (member?_clean (by decide) h.template)
    |>.append (member?_clean (by decide) h.configurations)

theorem InternalComponents.Clean.toValue {r : InternalComponents} (h : r.Clean) :
    r.toValue.Clean :=
  items?_clean (by decide) (fun c hc => (h.applicationComponents c hc).toValue)
    |>.append (items?_clean (by decide) fun c hc => (h.infrastructuralComponents c hc).toValue)
    |>.append (entries?_clean (by decide) fun e he =>
      ⟨(h.lifecycleInfo e he).1, (h.lifecycleInfo e he).2.toValue⟩)

theorem membersClean_flatMap {β : Type} {l : List β} {g : β → List (String × Value)}
    (h : ∀ b ∈ l, MembersClean (g b)) : MembersClean (l.flatMap g) := by
  induction l with
  | nil => exact membersClean_nil
  | cons b l ih =>
    rw [List.flatMap_cons]
    exact (h b List.mem_cons_self).append (ih fun b' hb' => h b' (List.mem_cons_of_mem _ hb'))

theorem Components.Clean.toValue {r : Components} (h : r.Clean) : r.toValue.Clean := by
  refine membersClean_flatMap fun m hm => ?_
  -- the nine maps, each under a fixed key
  simp only [Components.maps, List.mem_cons, List.not_mem_nil, or_false] at hm
  rcases hm with rfl | rfl | rfl | rfl | rfl | rfl | rfl | rfl | rfl
  · exact entries?_clean (by decide) h.inputPorts
  · exact entries?_clean (by decide) h.outputPorts
  · exact entries?_clean (by decide) h.discoveryPorts
  · exact entries?_clean (by decide) h.observabilityPorts
  · exact entries?_clean (by decide) h.controlPorts
  · exact entries?_clean (by decide) h.applicationComponents
  · exact entries?_clean (by decide) h.infrastructuralComponents
  · exact entries?_clean (by decide) h.apis
  · exact entries?_clean (by decide) h.templates

/-- A clean descriptor written as a value holds no placeholder in any string or key. -/
theorem Descriptor.Clean.toValue {d : Descriptor} (h : d.Clean) : d.toValue.Clean :=
  text?_clean (by decide) h.dataProductDescriptor
    |>.append (member?_clean (by decide) fun i hi => (h.info i hi).toValue)
    |>.append (member?_clean (by decide) fun a ha => (h.interfaceComponents a ha).toValue)
    |>.append (member?_clean (by decide) fun a ha => (h.internalComponents a ha).toValue)
    |>.append (member?_clean (by decide) fun a ha => (h.components a ha).toValue)
    |>.append (items?_clean (by decide) fun t ht => Value.clean_string (h.tags t ht))
    |>.append (member?_clean (by decide) fun e he => (h.externalDocs e he).toValue)

end DataProduct
