import DataProduct.Proofs.Json.Decoded
import DataProduct.Proofs.Descriptor.ReadBack

/-!
# What reading a descriptor gives

Whatever the text, a descriptor that `Descriptor.parse` reads from it is close to faithful
(`Descriptor.parse_parsed`): its values of open shape are no `null` and have numbers that are
exact integers or binary64 numbers, and written back it nests fewer than 128 levels. Their objects
have increasing keys by their type (`Json.SortedValue`): sorting a value read changes nothing
(`Json.value_sound`).

Each part is read by `record_sound` with an invariant on the fields that nest, which every field
keeps: a string field keeps all of them, and a field holding a part or a list of parts sets its
own conjunct from what the part's decoder gives. From the invariant the part written back is
bounded member by member (`member?_nesting`, `items?_nesting`, `entries?_nesting`): a member
nests fewer levels than the record.
-/

namespace DataProduct

open Json Json.Decoder

/-- What reading leaves in a part of a descriptor read at depth `D`: its values of open shape are
no `null` and their numbers are as `Number.Read` says, and written back the part nests fewer than
`D` levels. -/
structure Parsed (values : List Value) (v : Value) (D : Nat) : Prop where
  values : ∀ w ∈ values, w ≠ .null ∧ w.Numbers Number.Read
  nesting : v.nesting < D

/-! ## How deep members nest -/

section Nesting

variable {α : Type} {E : Nat}

theorem object_nesting_lt {ms : List (String × Value)} {D : Nat} (hD : 1 < D)
    (h : ∀ m ∈ ms, m.2.nesting < D - 1) : (Value.object ms).nesting < D := by
  have := membersNesting_lt (by omega) h
  show membersNesting ms + 1 < D
  omega

theorem array_nesting_lt {vs : List Value} {D : Nat} (hD : 1 < D)
    (h : ∀ v ∈ vs, v.nesting < D - 1) : (Value.array vs).nesting < D := by
  have := itemsNesting_lt (by omega) h
  show itemsNesting vs + 1 < D
  omega

theorem member?_nesting (key : String) {f : α → Value} {x : Option α}
    (h : ∀ a ∈ x, (f a).nesting < E) : ∀ m ∈ member? key f x, m.2.nesting < E := by
  cases x with
  | none => exact fun _ hm => nomatch hm
  | some a =>
    intro m hm
    rw [List.mem_singleton.1 hm]
    exact h a rfl

theorem text?_nesting (hE : 0 < E) (key : String) (x : Option String) :
    ∀ m ∈ text? key x, m.2.nesting < E :=
  member?_nesting key fun _ _ => hE

theorem Identity.leading_nesting (hE : 0 < E) (i : Identity) :
    ∀ m ∈ i.leading, m.2.nesting < E := by
  simp only [Identity.leading, List.forall_mem_append]
  exact ⟨⟨⟨text?_nesting hE _ _, text?_nesting hE _ _⟩, text?_nesting hE _ _⟩, text?_nesting hE _ _⟩

/-- A list field nests one level deeper than its items, and is left out when it is empty. -/
theorem items?_nesting (key : String) {f : α → Value} {xs : List α}
    (h : ∀ a ∈ xs, 1 < E ∧ (f a).nesting < E - 1) : ∀ m ∈ items? key f xs, m.2.nesting < E := by
  unfold items?
  split
  · exact fun _ hm => nomatch hm
  · rename_i hne
    obtain ⟨a, ha⟩ := List.exists_mem_of_ne_nil xs (by simpa using hne)
    intro m hm
    rw [List.mem_singleton.1 hm]
    refine array_nesting_lt (h a ha).1 fun v hv => ?_
    obtain ⟨b, hb, rfl⟩ := List.mem_map.1 hv
    exact (h b hb).2

theorem entries?_nesting (key : String) {f : α → Value} {es : Map α}
    (h : ∀ e ∈ es.entries, 1 < E ∧ (f e.2).nesting < E - 1) :
    ∀ m ∈ entries? key f es, m.2.nesting < E := by
  unfold entries?
  split
  · exact fun _ hm => nomatch hm
  · rename_i hne
    obtain ⟨e, he⟩ := List.exists_mem_of_ne_nil es.entries (by simpa using hne)
    intro m hm
    rw [List.mem_singleton.1 hm]
    refine object_nesting_lt (h e he).1 fun m hm => ?_
    obtain ⟨⟨k, b⟩, hb, rfl⟩ := List.mem_map.1 hm
    exact (h _ hb).2

/-- A slot for a value read one level down: the value nests fewer levels than the record. -/
theorem slot_nesting (key : String) {x : Option SortedValue}
    (h : ∀ v ∈ x, v.val ≠ .null ∧ v.val.Good E) :
    ∀ m ∈ member? key SortedValue.val x, m.2.nesting < E :=
  member?_nesting key fun v hv => (h v hv).2.2.2

/-- A part that reading leaves, in an optional field. -/
theorem parsed_nesting (key : String) {values : α → List Value} {f : α → Value} {x : Option α}
    (h : ∀ a ∈ x, Parsed (values a) (f a) E) : ∀ m ∈ member? key f x, m.2.nesting < E :=
  member?_nesting key fun a ha => (h a ha).nesting

/-- Parts that reading leaves one level down, in a list field. -/
theorem parsed_items_nesting (key : String) {values : α → List Value} {f : α → Value}
    {xs : List α} (h : ∀ a ∈ xs, 1 < E ∧ Parsed (values a) (f a) (E - 1)) :
    ∀ m ∈ items? key f xs, m.2.nesting < E :=
  items?_nesting key fun a ha => ⟨(h a ha).1, (h a ha).2.nesting⟩

/-- Strings written as a list nest one level. -/
theorem strings_nesting (key : String) {ts : List String} (h : ∀ t ∈ ts, 1 < E) :
    ∀ m ∈ items? key Value.string ts, m.2.nesting < E :=
  items?_nesting key fun t ht => ⟨h t ht, Nat.sub_pos_of_lt (h t ht)⟩

end Nesting

/-! ## Fields -/

section Fields

variable {α : Type} {Inv : Nat → α → Prop}

/-- A string field keeps every invariant that does not look at it. -/
theorem text_keeps {key : String} {set : Option String → α → α}
    (h : ∀ E x r, Inv E r → Inv E (set x r)) (F : Nat) :
    Sound ((textField key set).read F) (Keeps Inv) :=
  field_keeps (fun F => option_sound (string_sound F)) (fun E x r _ => h E x r) F

/-- A present value of open shape is read as a value that is no `null`. -/
theorem optionValue_sound (F : Nat) :
    Sound (option value F) fun D o => ∀ v ∈ o, v.val ≠ .null ∧ v.val.Good D :=
  ((option_sound (value_sound F)).and_returns (option_value_ne_null F)).mono
    fun _ _ h v hv => ⟨h.2 v hv, h.1 v hv⟩

/-- The value a slot holds is what reading gives. -/
theorem slot_values {E : Nat} {x : Option SortedValue}
    (h : ∀ v ∈ x, v.val ≠ .null ∧ v.val.Good E) :
    ∀ w ∈ x.toList.map SortedValue.val, w ≠ .null ∧ w.Numbers Number.Read := by
  intro w hw
  obtain ⟨v, hv, rfl⟩ := List.mem_map.1 hw
  have hv := h v (Option.mem_toList.1 hv)
  exact ⟨hv.1, hv.2.2.1⟩

end Fields

/-! ## Parts without values of open shape -/

theorem Owner.decoder_sound (F : Nat) :
    Sound (Owner.decoder F) fun D o => o.toValue.nesting < D := by
  refine (record_sound (fun _ _ => True) (fun _ _ => trivial) ?_ F).mono ?_
  · exact ⟨text_keeps fun _ _ _ h => h, text_keeps fun _ _ _ h => h⟩
  rintro D o ⟨hD, -⟩
  have hE : 0 < D - 1 := by omega
  refine object_nesting_lt hD ?_
  simp only [List.forall_mem_append]
  exact ⟨text?_nesting hE _ _, text?_nesting hE _ _⟩

theorem ContactPoint.decoder_sound (F : Nat) :
    Sound (ContactPoint.decoder F) fun D c => c.toValue.nesting < D := by
  refine (record_sound (fun _ _ => True) (fun _ _ => trivial) ?_ F).mono ?_
  · exact ⟨text_keeps fun _ _ _ h => h, text_keeps fun _ _ _ h => h,
      text_keeps fun _ _ _ h => h, text_keeps fun _ _ _ h => h⟩
  rintro D c ⟨hD, -⟩
  have hE : 0 < D - 1 := by omega
  refine object_nesting_lt hD ?_
  simp only [List.forall_mem_append]
  exact ⟨⟨⟨text?_nesting hE _ _, text?_nesting hE _ _⟩, text?_nesting hE _ _⟩, text?_nesting hE _ _⟩

theorem ExternalDocs.decoder_sound (F : Nat) :
    Sound (ExternalDocs.decoder F) fun D e => e.toValue.nesting < D := by
  refine (record_sound (fun _ _ => True) (fun _ _ => trivial) ?_ F).mono ?_
  · exact ⟨text_keeps fun _ _ _ h => h, text_keeps fun _ _ _ h => h,
      text_keeps fun _ _ _ h => h⟩
  rintro D e ⟨hD, -⟩
  have hE : 0 < D - 1 := by omega
  refine object_nesting_lt hD ?_
  simp only [List.forall_mem_append]
  exact ⟨⟨text?_nesting hE _ _, text?_nesting hE _ _⟩, text?_nesting hE _ _⟩

theorem Info.decoder_sound (F : Nat) :
    Sound (Info.decoder F) fun D r => r.toValue.nesting < D := by
  -- the owner and the contact points are the only fields that nest
  refine (record_sound (fun E (r : Info) => (∀ o ∈ r.owner, o.toValue.nesting < E) ∧
      ∀ c ∈ r.contactPoints, 1 < E ∧ c.toValue.nesting < E - 1) ?_ ?_ F).mono ?_
  · simp
  · exact ⟨text_keeps fun _ _ _ h => h, text_keeps fun _ _ _ h => h,
      text_keeps fun _ _ _ h => h, text_keeps fun _ _ _ h => h,
      text_keeps fun _ _ _ h => h, text_keeps fun _ _ _ h => h, text_keeps fun _ _ _ h => h,
      text_keeps fun _ _ _ h => h,
      field_keeps (fun F => option_sound (Owner.decoder_sound F)) (fun _ _ _ ho h => ⟨ho, h.2⟩),
      field_keeps (list_sound ContactPoint.decoder_sound)
        (fun _ _ _ hc h => ⟨h.1, fun c h => ⟨hc.1, hc.2 c h⟩⟩)⟩
  rintro D r ⟨hD, ho, hc⟩
  have hE : 0 < D - 1 := by omega
  refine object_nesting_lt hD ?_
  simp only [List.forall_mem_append]
  exact ⟨⟨⟨⟨⟨⟨Identity.leading_nesting hE _, text?_nesting hE _ _⟩, text?_nesting hE _ _⟩,
    text?_nesting hE _ _⟩, text?_nesting hE _ _⟩, member?_nesting _ ho⟩, items?_nesting _ hc⟩

theorem Component.decoder_sound (k : ComponentKind) (F : Nat) :
    Sound (Component.decoder k F) fun D c => c.toValue.nesting < D := by
  refine (record_sound (fun E (c : Component) => ∀ e ∈ c.externalDocs, e.toValue.nesting < E)
    ?_ ?_ F).mono ?_
  · simp
  · exact ⟨text_keeps fun _ _ _ h => h, text_keeps fun _ _ _ h => h,
      text_keeps fun _ _ _ h => h, text_keeps fun _ _ _ h => h,
      text_keeps fun _ _ _ h => h, text_keeps fun _ _ _ h => h,
      field_keeps (fun F => option_sound (ExternalDocs.decoder_sound F)) fun _ _ _ he _ => he⟩
  rintro D c ⟨hD, he⟩
  have hE : 0 < D - 1 := by omega
  refine object_nesting_lt hD ?_
  simp only [List.forall_mem_append]
  exact ⟨⟨⟨Identity.leading_nesting hE _, text?_nesting hE _ _⟩, text?_nesting hE _ _⟩,
    member?_nesting _ he⟩

/-! ## Parts with values of open shape -/

theorem StandardDefinition.decoder_sound (F : Nat) :
    Sound (StandardDefinition.decoder F) fun D r => Parsed r.values r.toValue D := by
  -- the definition and the external documentation are the only fields that nest
  refine (record_sound (fun E (r : StandardDefinition) =>
      (∀ v ∈ r.definition, v.val ≠ .null ∧ v.val.Good E) ∧
        ∀ e ∈ r.externalDocs, e.toValue.nesting < E)
    ?_ ?_ F).mono ?_
  · simp
  · exact ⟨text_keeps fun _ _ _ h => h, text_keeps fun _ _ _ h => h,
      text_keeps fun _ _ _ h => h, text_keeps fun _ _ _ h => h,
      text_keeps fun _ _ _ h => h, text_keeps fun _ _ _ h => h, text_keeps fun _ _ _ h => h,
      field_keeps optionValue_sound fun _ _ _ hv h => ⟨hv, h.2⟩,
      text_keeps fun _ _ _ h => h,
      field_keeps (fun F => option_sound (ExternalDocs.decoder_sound F))
        fun _ _ _ he h => ⟨h.1, he⟩⟩
  rintro D r ⟨hD, hv, he⟩
  have hE : 0 < D - 1 := by omega
  refine ⟨slot_values hv, object_nesting_lt hD ?_⟩
  simp only [List.forall_mem_append]
  exact ⟨⟨⟨⟨⟨⟨Identity.leading_nesting hE _, text?_nesting hE _ _⟩, text?_nesting hE _ _⟩,
    text?_nesting hE _ _⟩, slot_nesting _ hv⟩, text?_nesting hE _ _⟩, member?_nesting _ he⟩

theorem Promises.decoder_sound (F : Nat) :
    Sound (Promises.decoder F) fun D r => Parsed r.values r.toValue D := by
  refine (record_sound (fun E (r : Promises) =>
      (∀ a ∈ r.api, Parsed a.values a.toValue E) ∧
      (∀ a ∈ r.deprecationPolicy, Parsed a.values a.toValue E) ∧
      ∀ a ∈ r.slo, Parsed a.values a.toValue E) ?_ ?_ F).mono ?_
  · simp
  · have hd := fun F => option_sound (StandardDefinition.decoder_sound F)
    exact ⟨text_keeps fun _ _ _ h => h, text_keeps fun _ _ _ h => h,
      field_keeps hd fun _ _ _ ha h => ⟨ha, h.2⟩,
      field_keeps hd fun _ _ _ ha h => ⟨h.1, ha, h.2.2⟩,
      field_keeps hd fun _ _ _ ha h => ⟨h.1, h.2.1, ha⟩⟩
  rintro D r ⟨hD, ha, hd, hs⟩
  have hE : 0 < D - 1 := by omega
  refine ⟨?_, object_nesting_lt hD ?_⟩
  · simp only [Promises.values, List.forall_mem_flatMap, List.forall_mem_append, Option.mem_toList]
    exact ⟨⟨fun a h => (ha a h).values, fun a h => (hd a h).values⟩, fun a h => (hs a h).values⟩
  · simp only [List.forall_mem_append]
    exact ⟨⟨⟨⟨text?_nesting hE _ _, text?_nesting hE _ _⟩, parsed_nesting _ ha⟩,
      parsed_nesting _ hd⟩, parsed_nesting _ hs⟩

theorem Expectations.decoder_sound (F : Nat) :
    Sound (Expectations.decoder F) fun D r => Parsed r.values r.toValue D := by
  refine (record_sound (fun E (r : Expectations) =>
      (∀ a ∈ r.audience, Parsed a.values a.toValue E) ∧
      ∀ a ∈ r.usage, Parsed a.values a.toValue E) ?_ ?_ F).mono ?_
  · simp
  · have hd := fun F => option_sound (StandardDefinition.decoder_sound F)
    exact ⟨field_keeps hd fun _ _ _ ha h => ⟨ha, h.2⟩, field_keeps hd fun _ _ _ ha h => ⟨h.1, ha⟩⟩
  rintro D r ⟨hD, ha, hu⟩
  refine ⟨?_, object_nesting_lt hD ?_⟩
  · simp only [Expectations.values, List.forall_mem_flatMap, List.forall_mem_append,
      Option.mem_toList]
    exact ⟨fun a h => (ha a h).values, fun a h => (hu a h).values⟩
  · simp only [List.forall_mem_append]
    exact ⟨parsed_nesting _ ha, parsed_nesting _ hu⟩

theorem Obligations.decoder_sound (F : Nat) :
    Sound (Obligations.decoder F) fun D r => Parsed r.values r.toValue D := by
  refine (record_sound (fun E (r : Obligations) =>
      (∀ a ∈ r.termsAndConditions, Parsed a.values a.toValue E) ∧
      (∀ a ∈ r.billingPolicy, Parsed a.values a.toValue E) ∧
      ∀ a ∈ r.sla, Parsed a.values a.toValue E) ?_ ?_ F).mono ?_
  · simp
  · have hd := fun F => option_sound (StandardDefinition.decoder_sound F)
    exact ⟨field_keeps hd fun _ _ _ ha h => ⟨ha, h.2⟩,
      field_keeps hd fun _ _ _ ha h => ⟨h.1, ha, h.2.2⟩,
      field_keeps hd fun _ _ _ ha h => ⟨h.1, h.2.1, ha⟩⟩
  rintro D r ⟨hD, ht, hb, hs⟩
  refine ⟨?_, object_nesting_lt hD ?_⟩
  · simp only [Obligations.values, List.forall_mem_flatMap, List.forall_mem_append,
      Option.mem_toList]
    exact ⟨⟨fun a h => (ht a h).values, fun a h => (hb a h).values⟩, fun a h => (hs a h).values⟩
  · simp only [List.forall_mem_append]
    exact ⟨⟨parsed_nesting _ ht, parsed_nesting _ hb⟩, parsed_nesting _ hs⟩

theorem Port.decoder_sound (F : Nat) :
    Sound (Port.decoder F) fun D p => Parsed p.values p.toValue D := by
  refine (record_sound (fun E (p : Port) =>
      (∀ a ∈ p.promises, Parsed a.values a.toValue E) ∧
      (∀ a ∈ p.expectations, Parsed a.values a.toValue E) ∧
      (∀ a ∈ p.obligations, Parsed a.values a.toValue E) ∧
      (∀ e ∈ p.externalDocs, e.toValue.nesting < E) ∧ ∀ t ∈ p.tags, 1 < E) ?_ ?_ F).mono ?_
  · simp
  · exact ⟨text_keeps fun _ _ _ h => h, text_keeps fun _ _ _ h => h,
      text_keeps fun _ _ _ h => h, text_keeps fun _ _ _ h => h,
      text_keeps fun _ _ _ h => h, text_keeps fun _ _ _ h => h, text_keeps fun _ _ _ h => h,
      field_keeps (fun F => option_sound (Promises.decoder_sound F))
        fun _ _ _ ha h => ⟨ha, h.2⟩,
      field_keeps (fun F => option_sound (Expectations.decoder_sound F))
        fun _ _ _ ha h => ⟨h.1, ha, h.2.2⟩,
      field_keeps (fun F => option_sound (Obligations.decoder_sound F))
        fun _ _ _ ha h => ⟨h.1, h.2.1, ha, h.2.2.2⟩,
      field_keeps (fun F => option_sound (ExternalDocs.decoder_sound F))
        fun _ _ _ he h => ⟨h.1, h.2.1, h.2.2.1, he, h.2.2.2.2⟩,
      field_keeps (list_sound string_sound)
        fun _ _ _ ht h => ⟨h.1, h.2.1, h.2.2.1, h.2.2.2.1, fun _ _ => ht.1⟩⟩
  rintro D p ⟨hD, hp, he, ho, hx, ht⟩
  have hE : 0 < D - 1 := by omega
  refine ⟨?_, object_nesting_lt hD ?_⟩
  · simp only [Port.values, List.forall_mem_flatMap, List.forall_mem_append, Option.mem_toList]
    exact ⟨⟨fun a h => (hp a h).values, fun a h => (he a h).values⟩, fun a h => (ho a h).values⟩
  · simp only [List.forall_mem_append]
    exact ⟨⟨⟨⟨⟨⟨⟨⟨Identity.leading_nesting hE _, text?_nesting hE _ _⟩, text?_nesting hE _ _⟩,
      text?_nesting hE _ _⟩, parsed_nesting _ hp⟩, parsed_nesting _ he⟩, parsed_nesting _ ho⟩,
      member?_nesting _ hx⟩, strings_nesting _ ht⟩

/-- Ports read as a list one level down: what reading leaves in a port field. -/
theorem InterfaceComponents.decoder_sound (F : Nat) :
    Sound (InterfaceComponents.decoder F) fun D r => Parsed r.values r.toValue D := by
  refine (record_sound (fun E (r : InterfaceComponents) =>
      (∀ p ∈ r.inputPorts, 1 < E ∧ Parsed p.values p.toValue (E - 1)) ∧
      (∀ ps ∈ r.outputPorts, 1 < E ∧ ∀ p ∈ ps, Parsed p.values p.toValue (E - 1)) ∧
      (∀ p ∈ r.discoveryPorts, 1 < E ∧ Parsed p.values p.toValue (E - 1)) ∧
      (∀ p ∈ r.observabilityPorts, 1 < E ∧ Parsed p.values p.toValue (E - 1)) ∧
      ∀ p ∈ r.controlPorts, 1 < E ∧ Parsed p.values p.toValue (E - 1)) ?_ ?_ F).mono ?_
  · simp
  · have hl := list_sound Port.decoder_sound
    exact ⟨field_keeps hl fun _ _ _ hx h => ⟨fun p hp => ⟨hx.1, hx.2 p hp⟩, h.2⟩,
      field_keeps (fun F => option_sound (hl F)) fun _ _ _ hx h => ⟨h.1, hx, h.2.2⟩,
      field_keeps hl fun _ _ _ hx h => ⟨h.1, h.2.1, fun p hp => ⟨hx.1, hx.2 p hp⟩, h.2.2.2⟩,
      field_keeps hl fun _ _ _ hx h =>
        ⟨h.1, h.2.1, h.2.2.1, fun p hp => ⟨hx.1, hx.2 p hp⟩, h.2.2.2.2⟩,
      field_keeps hl fun _ _ _ hx h =>
        ⟨h.1, h.2.1, h.2.2.1, h.2.2.2.1, fun p hp => ⟨hx.1, hx.2 p hp⟩⟩⟩
  rintro D r ⟨hD, hi, ho, hd, hb, hc⟩
  refine ⟨?_, object_nesting_lt hD ?_⟩
  · -- the output ports count when they are present
    have hout : ∀ p ∈ r.outputPorts.getD [], Parsed p.values p.toValue (D - 1 - 1) := by
      intro p hp
      cases hps : r.outputPorts with
      | none => rw [hps] at hp; exact absurd hp List.not_mem_nil
      | some ps => rw [hps] at hp; exact (ho ps hps).2 p hp
    simp only [InterfaceComponents.values, List.forall_mem_flatMap, List.forall_mem_append]
    exact ⟨⟨⟨⟨fun p h => (hi p h).2.values, fun p h => (hout p h).values⟩,
      fun p h => (hd p h).2.values⟩, fun p h => (hb p h).2.values⟩, fun p h => (hc p h).2.values⟩
  · simp only [List.forall_mem_append]
    refine ⟨⟨⟨⟨parsed_items_nesting _ hi, member?_nesting _ fun ps h => ?_⟩,
      parsed_items_nesting _ hd⟩, parsed_items_nesting _ hb⟩, parsed_items_nesting _ hc⟩
    -- present output ports are written as a list, even when there are none
    refine array_nesting_lt (ho ps h).1 fun v hv => ?_
    obtain ⟨p, hp, rfl⟩ := List.mem_map.1 hv
    exact ((ho ps h).2 p hp).nesting

theorem LifecycleTask.decoder_sound (F : Nat) :
    Sound (LifecycleTask.decoder F) fun D t => Parsed t.values t.toValue D := by
  refine (record_sound (fun E (t : LifecycleTask) =>
      (∀ v ∈ t.service, v.val ≠ .null ∧ v.val.Good E) ∧
        (∀ v ∈ t.template, v.val ≠ .null ∧ v.val.Good E) ∧
        ∀ v ∈ t.configurations, v.val ≠ .null ∧ v.val.Good E) ?_ ?_ F).mono ?_
  · simp
  · exact ⟨field_keeps optionValue_sound fun _ _ _ hv h => ⟨hv, h.2⟩,
      field_keeps optionValue_sound fun _ _ _ hv h => ⟨h.1, hv, h.2.2⟩,
      field_keeps optionValue_sound fun _ _ _ hv h => ⟨h.1, h.2.1, hv⟩⟩
  rintro D t ⟨hD, hs, ht, hc⟩
  refine ⟨?_, object_nesting_lt hD ?_⟩
  · simp only [LifecycleTask.values, List.map_append, List.forall_mem_append]
    exact ⟨⟨slot_values hs, slot_values ht⟩, slot_values hc⟩
  · simp only [List.forall_mem_append]
    exact ⟨⟨slot_nesting _ hs, slot_nesting _ ht⟩, slot_nesting _ hc⟩

theorem InternalComponents.decoder_sound (F : Nat) :
    Sound (InternalComponents.decoder F) fun D r => Parsed r.values r.toValue D := by
  refine (record_sound (fun E (r : InternalComponents) =>
      (∀ c ∈ r.applicationComponents, 1 < E ∧ c.toValue.nesting < E - 1) ∧
      (∀ c ∈ r.infrastructuralComponents, 1 < E ∧ c.toValue.nesting < E - 1) ∧
      ∀ e ∈ r.lifecycleInfo.entries, 1 < E ∧ Parsed e.2.values e.2.toValue (E - 1)) ?_ ?_ F).mono ?_
  · simp
  · exact ⟨field_keeps (list_sound (Component.decoder_sound .application))
        fun _ _ _ hx h => ⟨fun c hc => ⟨hx.1, hx.2 c hc⟩, h.2⟩,
      field_keeps (list_sound (Component.decoder_sound .infrastructural))
        fun _ _ _ hx h => ⟨h.1, fun c hc => ⟨hx.1, hx.2 c hc⟩, h.2.2⟩,
      field_keeps (dict_sound LifecycleTask.decoder_sound)
        fun _ _ _ hx h => ⟨h.1, h.2.1, fun e he => ⟨hx.1, hx.2 e he⟩⟩⟩
  rintro D r ⟨hD, ha, hi, ht⟩
  refine ⟨?_, object_nesting_lt hD ?_⟩
  · simp only [InternalComponents.values, List.forall_mem_flatMap]
    exact fun e he => (ht e he).2.values
  · simp only [List.forall_mem_append]
    exact ⟨⟨items?_nesting _ ha, items?_nesting _ hi⟩,
      entries?_nesting _ fun e he => ⟨(ht e he).1, (ht e he).2.nesting⟩⟩

/-- What reading leaves in a map of values of open shape read at depth `E`: its values are what
reading gives one level down. -/
def ParsedMap (E : Nat) (m : Map SortedValue) : Prop :=
  ∀ e ∈ m.entries, 1 < E ∧ e.2.val.Good (E - 1)

theorem ParsedMap.empty (E : Nat) : ParsedMap E .empty := fun _ h => absurd h List.not_mem_nil

theorem dict_value_sound (F : Nat) : Sound (dict value F) ParsedMap :=
  (dict_sound value_sound F).mono fun _ _ h e he => ⟨h.1, h.2 e he⟩

/-- A map that reading leaves, taken as an object, is a value that reading gives. -/
theorem ParsedMap.object {E : Nat} {m : Map SortedValue} (h : ParsedMap E m) :
    m.toValue SortedValue.val ≠ .null ∧ (m.toValue SortedValue.val).Numbers Number.Read := by
  refine ⟨nofun, (membersNumbers_iff _ _).2 fun e he => ?_⟩
  obtain ⟨⟨k, v⟩, hv, rfl⟩ := List.mem_map.1 he
  exact (h _ hv).2.2.1

theorem Components.decoder_sound (F : Nat) :
    Sound (Components.decoder F) fun D r => Parsed r.values r.toValue D := by
  refine (record_sound (fun E (r : Components) =>
      ParsedMap E r.inputPorts ∧ ParsedMap E r.outputPorts ∧ ParsedMap E r.discoveryPorts ∧
      ParsedMap E r.observabilityPorts ∧ ParsedMap E r.controlPorts ∧
      ParsedMap E r.applicationComponents ∧ ParsedMap E r.infrastructuralComponents ∧
      ParsedMap E r.apis ∧ ParsedMap E r.templates) ?_ ?_ F).mono ?_
  · exact fun E _ => ⟨.empty E, .empty E, .empty E, .empty E, .empty E, .empty E, .empty E,
      .empty E, .empty E⟩
  · exact ⟨field_keeps dict_value_sound fun _ _ _ hm h => ⟨hm, h.2⟩,
      field_keeps dict_value_sound fun _ _ _ hm h => ⟨h.1, hm, h.2.2⟩,
      field_keeps dict_value_sound fun _ _ _ hm h => ⟨h.1, h.2.1, hm, h.2.2.2⟩,
      field_keeps dict_value_sound fun _ _ _ hm h => ⟨h.1, h.2.1, h.2.2.1, hm, h.2.2.2.2⟩,
      field_keeps dict_value_sound fun _ _ _ hm h =>
        ⟨h.1, h.2.1, h.2.2.1, h.2.2.2.1, hm, h.2.2.2.2.2⟩,
      field_keeps dict_value_sound fun _ _ _ hm h =>
        ⟨h.1, h.2.1, h.2.2.1, h.2.2.2.1, h.2.2.2.2.1, hm, h.2.2.2.2.2.2⟩,
      field_keeps dict_value_sound fun _ _ _ hm h =>
        ⟨h.1, h.2.1, h.2.2.1, h.2.2.2.1, h.2.2.2.2.1, h.2.2.2.2.2.1, hm, h.2.2.2.2.2.2.2⟩,
      field_keeps dict_value_sound fun _ _ _ hm h =>
        ⟨h.1, h.2.1, h.2.2.1, h.2.2.2.1, h.2.2.2.2.1, h.2.2.2.2.2.1, h.2.2.2.2.2.2.1, hm,
          h.2.2.2.2.2.2.2.2⟩,
      field_keeps dict_value_sound fun _ _ _ hm h =>
        ⟨h.1, h.2.1, h.2.2.1, h.2.2.2.1, h.2.2.2.2.1, h.2.2.2.2.2.1, h.2.2.2.2.2.2.1,
          h.2.2.2.2.2.2.2.1, hm⟩⟩
  rintro D r ⟨hD, h⟩
  -- the nine maps, as `Components.maps` lists them
  have hmaps : ∀ m ∈ r.maps, ParsedMap (D - 1) m.2 := by
    simp only [Components.maps, List.forall_mem_cons, List.not_mem_nil, IsEmpty.forall_iff,
      implies_true, and_true]
    exact h
  refine ⟨?_, object_nesting_lt hD ?_⟩
  · simp only [Components.values, List.forall_mem_map]
    exact fun m hm => (hmaps m hm).object
  · simp only [List.forall_mem_flatMap]
    intro m hm
    exact entries?_nesting _ fun e he => ⟨((hmaps m hm) e he).1, ((hmaps m hm) e he).2.2.2⟩

theorem Descriptor.decoder_sound (F : Nat) :
    Sound (Descriptor.decoder F) fun D d => Parsed d.values d.toValue D := by
  refine (record_sound (fun E (d : Descriptor) =>
      (∀ i ∈ d.info, i.toValue.nesting < E) ∧
      (∀ a ∈ d.interfaceComponents, Parsed a.values a.toValue E) ∧
      (∀ a ∈ d.internalComponents, Parsed a.values a.toValue E) ∧
      (∀ a ∈ d.components, Parsed a.values a.toValue E) ∧
      (∀ t ∈ d.tags, 1 < E) ∧ ∀ e ∈ d.externalDocs, e.toValue.nesting < E) ?_ ?_ F).mono ?_
  · simp
  · exact ⟨text_keeps fun _ _ _ h => h,
      field_keeps (fun F => option_sound (Info.decoder_sound F)) fun _ _ _ hx h => ⟨hx, h.2⟩,
      field_keeps (fun F => option_sound (InterfaceComponents.decoder_sound F))
        fun _ _ _ hx h => ⟨h.1, hx, h.2.2⟩,
      field_keeps (fun F => option_sound (InternalComponents.decoder_sound F))
        fun _ _ _ hx h => ⟨h.1, h.2.1, hx, h.2.2.2⟩,
      field_keeps (fun F => option_sound (Components.decoder_sound F))
        fun _ _ _ hx h => ⟨h.1, h.2.1, h.2.2.1, hx, h.2.2.2.2⟩,
      field_keeps (list_sound string_sound)
        fun _ _ _ hx h => ⟨h.1, h.2.1, h.2.2.1, h.2.2.2.1, fun _ _ => hx.1, h.2.2.2.2.2⟩,
      field_keeps (fun F => option_sound (ExternalDocs.decoder_sound F))
        fun _ _ _ hx h => ⟨h.1, h.2.1, h.2.2.1, h.2.2.2.1, h.2.2.2.2.1, hx⟩⟩
  rintro D d ⟨hD, hi, hf, hn, hc, ht, hx⟩
  have hE : 0 < D - 1 := by omega
  refine ⟨?_, object_nesting_lt hD ?_⟩
  · simp only [Descriptor.values, List.forall_mem_flatMap, List.forall_mem_append,
      Option.mem_toList]
    exact ⟨⟨fun a h => (hf a h).values, fun a h => (hn a h).values⟩, fun a h => (hc a h).values⟩
  · simp only [List.forall_mem_append]
    exact ⟨⟨⟨⟨⟨⟨text?_nesting hE _ _, member?_nesting _ hi⟩, parsed_nesting _ hf⟩,
      parsed_nesting _ hn⟩, parsed_nesting _ hc⟩,
      strings_nesting _ ht⟩, member?_nesting _ hx⟩

/-! ## Parsed descriptors -/

/-- A descriptor that a text holds has values of open shape that reading gives, and written back
it nests fewer than 128 levels. -/
theorem Descriptor.parse_parsed {t : String} {d : Descriptor}
    (h : Descriptor.parse t = .ok (some d)) : Parsed d.values d.toValue 128 :=
  readText_sound (fun F => option_sound (Descriptor.decoder_sound F)) h d rfl

end DataProduct
