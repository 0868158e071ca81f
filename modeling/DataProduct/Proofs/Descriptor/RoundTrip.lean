import DataProduct.Proofs.Descriptor.Parsed
import DataProduct.Proofs.Walk.Fill

/-!
# Written descriptors read back

A descriptor written as compact or pretty text is read back as itself, and so is what a run in
any mode leaves of it (`Descriptor.run_roundTrips`), for two kinds of descriptor:

* one that a text holds, when the values of open shape in it hold no binary64 number: reading
  gives it faithful (`Descriptor.faithful_of_parse`), as `Descriptor.parse_parsed` leaves every
  integer exact;
* any faithful one (`Descriptor.Faithful`): no `null` where an optional value stands, exact
  integers, and fewer than 128 levels of nesting. The keys of the values of open shape increase
  by their type (`Json.SortedValue`), as do those of every map (`Json.Map`).

A run fills only names, entity types and identifiers, which are strings, so it keeps a
descriptor faithful (`Descriptor.Faithful.run`): a filled part holds the same values and nests
as deep as before (`Descriptor.values_generated`, `Descriptor.nesting_generated`).
-/

namespace DataProduct

open Json

/-! ## Numbers -/

mutual

/-- Two properties of every number of a value give their consequence of every number. -/
theorem Json.Value.numbers_imp {p q r : Number → Prop} (h : ∀ n, p n → q n → r n) :
    ∀ v : Value, v.Numbers p → v.Numbers q → v.Numbers r
  | .null, _, _ => trivial
  | .bool _, _, _ => trivial
  | .number n, hp, hq => h n hp hq
  | .string _, _, _ => trivial
  | .array vs, hp, hq => Json.itemsNumbers_imp h vs hp hq
  | .object ms, hp, hq => Json.membersNumbers_imp h ms hp hq

theorem Json.itemsNumbers_imp {p q r : Number → Prop} (h : ∀ n, p n → q n → r n) :
    ∀ vs : List Value, itemsNumbers p vs → itemsNumbers q vs → itemsNumbers r vs
  | [], _, _ => trivial
  | v :: vs, hp, hq => ⟨v.numbers_imp h hp.1 hq.1, Json.itemsNumbers_imp h vs hp.2 hq.2⟩

theorem Json.membersNumbers_imp {p q r : Number → Prop} (h : ∀ n, p n → q n → r n) :
    ∀ ms : List (String × Value), membersNumbers p ms → membersNumbers q ms → membersNumbers r ms
  | [], _, _ => trivial
  | (_, v) :: ms, hp, hq => ⟨v.numbers_imp h hp.1 hq.1, Json.membersNumbers_imp h ms hp.2 hq.2⟩

end

/-- A value that reading gives and that holds no binary64 number is faithful. -/
theorem Json.Value.faithful_of_read {v : Value} (h : v ≠ .null ∧ v.Numbers Number.Read)
    (hd : v.Numbers fun n => ¬ IsDouble n) : v.Faithful :=
  ⟨h.1, v.numbers_imp (fun _ hr hn => hr.resolve_right hn) h.2 hd⟩

/-- A descriptor that a text holds is faithful when its values of open shape hold no binary64
number. -/
theorem Descriptor.faithful_of_parse {t : String} {d : Descriptor}
    (h : Descriptor.parse t = .ok (some d)) (hd : ∀ v ∈ d.values, v.Numbers fun n => ¬ IsDouble n) :
    d.Faithful := by
  have hp := Descriptor.parse_parsed h
  exact ⟨fun v hv => Value.faithful_of_read (hp.values v hv) (hd v hv), hp.nesting⟩

/-! ## How deep a written part nests -/

section Nesting

variable {α : Type}

@[simp] theorem membersNesting_append (a b : List (String × Value)) :
    membersNesting (a ++ b) = max (membersNesting a) (membersNesting b) := by
  induction a with
  | nil => simp [membersNesting]
  | cons m a ih =>
    obtain ⟨k, v⟩ := m
    simp only [List.cons_append, membersNesting, ih, Nat.max_assoc]

theorem itemsNesting_map (f : α → Value) (xs : List α) :
    itemsNesting (xs.map f) = (xs.map fun a => (f a).nesting).foldr max 0 := by
  induction xs with
  | nil => rfl
  | cons a xs ih => simp only [List.map_cons, itemsNesting, ih, List.foldr_cons]

@[simp] theorem membersNesting_member? (key : String) (f : α → Value) (x : Option α) :
    membersNesting (member? key f x) = (x.map fun a => (f a).nesting).getD 0 := by
  cases x with
  | none => rfl
  | some a => simp [member?, membersNesting]

@[simp] theorem membersNesting_text? (key : String) (x : Option String) :
    membersNesting (text? key x) = 0 := by
  cases x <;> simp [text?, Value.nesting]

@[simp] theorem Identity.membersNesting_leading (i : Identity) : membersNesting i.leading = 0 := by
  simp [Identity.leading]

@[simp] theorem membersNesting_items? (key : String) (f : α → Value) (xs : List α) :
    membersNesting (items? key f xs) =
      if xs = [] then 0 else (xs.map fun a => (f a).nesting).foldr max 0 + 1 := by
  unfold items?
  split <;> simp_all [membersNesting, Value.nesting, itemsNesting_map]

end Nesting

/-! ## Filling keeps what reading needs

Filling changes only names, entity types and identifiers, which are strings: a filled part nests
as deep as before and holds the same values of open shape. -/

section Generated

variable (product : Option String)

@[simp] theorem StandardDefinition.nesting_generated (d : StandardDefinition) :
    (d.generated product).toValue.nesting = d.toValue.nesting := by
  simp [StandardDefinition.toValue, StandardDefinition.generated, Value.nesting]

@[simp] theorem Promises.nesting_generated (r : Promises) :
    (r.generated product).toValue.nesting = r.toValue.nesting := by
  simp [Promises.toValue, Promises.generated, Value.nesting, Function.comp_def]

@[simp] theorem Expectations.nesting_generated (r : Expectations) :
    (r.generated product).toValue.nesting = r.toValue.nesting := by
  simp [Expectations.toValue, Expectations.generated, Value.nesting, Function.comp_def]

@[simp] theorem Obligations.nesting_generated (r : Obligations) :
    (r.generated product).toValue.nesting = r.toValue.nesting := by
  simp [Obligations.toValue, Obligations.generated, Value.nesting, Function.comp_def]

@[simp] theorem Port.nesting_generated (kind : PortKind) (p : Port) :
    (p.generated product kind).toValue.nesting = p.toValue.nesting := by
  simp [Port.toValue, Port.generated, Value.nesting, Function.comp_def]

@[simp] theorem InterfaceComponents.nesting_generated (r : InterfaceComponents) :
    (r.generated product).toValue.nesting = r.toValue.nesting := by
  simp [InterfaceComponents.toValue, InterfaceComponents.generated, Value.nesting,
    Function.comp_def, itemsNesting_map]

@[simp] theorem Component.nesting_generated (kind : ComponentKind) (c : Component) :
    (c.generated product kind).toValue.nesting = c.toValue.nesting := by
  simp [Component.toValue, Component.generated, Value.nesting]

@[simp] theorem InternalComponents.nesting_generated (r : InternalComponents) :
    (r.generated product).toValue.nesting = r.toValue.nesting := by
  simp [InternalComponents.toValue, InternalComponents.generated, Value.nesting, Function.comp_def]

end Generated

@[simp] theorem Info.nesting_generated (r : Info) :
    r.generated.toValue.nesting = r.toValue.nesting := by
  simp [Info.toValue, Info.generated, Value.nesting]

theorem Descriptor.nesting_generated (d : Descriptor) :
    d.generated.toValue.nesting = d.toValue.nesting := by
  simp [Descriptor.toValue, Descriptor.generated, Value.nesting, Function.comp_def]

section Generated

variable (product : Option String)

@[simp] theorem StandardDefinition.values_generated (d : StandardDefinition) :
    (d.generated product).values = d.values := rfl

@[simp] theorem Promises.values_generated (r : Promises) :
    (r.generated product).values = r.values := by
  simp [Promises.values, Promises.generated, Option.toList_map, List.flatMap_map]

@[simp] theorem Expectations.values_generated (r : Expectations) :
    (r.generated product).values = r.values := by
  simp [Expectations.values, Expectations.generated, Option.toList_map, List.flatMap_map]

@[simp] theorem Obligations.values_generated (r : Obligations) :
    (r.generated product).values = r.values := by
  simp [Obligations.values, Obligations.generated, Option.toList_map, List.flatMap_map]

@[simp] theorem Port.values_generated (kind : PortKind) (p : Port) :
    (p.generated product kind).values = p.values := by
  simp [Port.values, Port.generated, Option.toList_map, List.flatMap_map]

@[simp] theorem InterfaceComponents.values_generated (r : InterfaceComponents) :
    (r.generated product).values = r.values := by
  cases ho : r.outputPorts <;>
    simp [InterfaceComponents.values, InterfaceComponents.generated, ho, List.flatMap_map]

@[simp] theorem InternalComponents.values_generated (r : InternalComponents) :
    (r.generated product).values = r.values := rfl

end Generated

theorem Descriptor.values_generated (d : Descriptor) : d.generated.values = d.values := by
  simp [Descriptor.values, Descriptor.generated, Option.toList_map, List.flatMap_map]

/-- Filling keeps a descriptor faithful. -/
theorem Descriptor.Faithful.generated {d : Descriptor} (h : d.Faithful) : d.generated.Faithful where
  values := by
    rw [Descriptor.values_generated]
    exact h.values
  nesting := by
    rw [Descriptor.nesting_generated]
    exact h.nesting

/-! ## Reading back what a run leaves -/

/-- A walk keeps a descriptor faithful, in every mode: filling changes only strings. -/
theorem Descriptor.Faithful.run {d : Descriptor} (h : d.Faithful) {m : Mode} {e : Option String}
    {r : Report Descriptor} (hr : Registry.run (some d) m e = .ok r) : r.value.Faithful := by
  have hw : r = d.walk m e := (Except.ok.inj hr).symm
  rw [hw, Descriptor.walk_value]
  split
  · exact h.generated
  · exact h

/-- A descriptor that its compact and its pretty text both give back. -/
def Descriptor.RoundTrips (d : Descriptor) : Prop :=
  Descriptor.parse d.toValue.compact = .ok (some d) ∧
    Descriptor.parse d.toValue.pretty = .ok (some d)

theorem Descriptor.Faithful.roundTrips {d : Descriptor} (h : d.Faithful) : d.RoundTrips :=
  ⟨Descriptor.parse_compact h, Descriptor.parse_pretty h⟩

/-- Written descriptors are read back as themselves. Whatever a run in any mode leaves of a
descriptor that a text holds is given back by its compact and by its pretty text, when the
values of open shape hold no binary64 number; and so is what a run leaves of any faithful
descriptor. Missing fields come back as missing, present empty output ports as present, and
empty parts as empty objects; writing again gives the same text. -/
theorem Descriptor.run_roundTrips :
    (∀ (t : String) (d : Descriptor), Descriptor.parse t = .ok (some d) →
      (∀ v ∈ d.values, v.Numbers fun n => ¬ IsDouble n) →
      ∀ m e r, Registry.run (some d) m e = .ok r → r.value.RoundTrips) ∧
    ∀ d : Descriptor, d.Faithful →
      ∀ m e r, Registry.run (some d) m e = .ok r → r.value.RoundTrips := by
  refine ⟨fun t d ht hd m e r hr => ?_, fun d h m e r hr => (h.run hr).roundTrips⟩
  have hf : d.Faithful := Descriptor.faithful_of_parse ht hd
  exact (hf.run hr).roundTrips

/-- A shop whose orders port promises an interface given as a value of open shape. -/
def shopDescriptor : Descriptor :=
  { info := some { identity := { name := some "shop" } }
    interfaceComponents := some
      { outputPorts := some [
          { identity := { name := some "orders" }
            promises := some
              { api := some { definition := some ⟨.object [("type", .string "object")],
                  List.pairwise_singleton _ _, trivial, trivial⟩ } } }] } }

theorem Descriptor.run_roundTrips_shop :
    (Descriptor.parse shopDescriptor.toValue.compact = .ok (some shopDescriptor) ∧
      (∀ v ∈ shopDescriptor.values, v.Numbers fun n => ¬ IsDouble n) ∧
      (shopDescriptor.walk .validateAndGenerate none).value.RoundTrips) ∧
    shopDescriptor.Faithful ∧ (shopDescriptor.walk .generateOnly none).value.RoundTrips := by
  have hv : ∀ v ∈ shopDescriptor.values, v.Faithful ∧ v.Numbers fun n => ¬ IsDouble n := by
    simp [shopDescriptor, Descriptor.values, InterfaceComponents.values, Port.values,
      Promises.values, StandardDefinition.values, Value.Faithful, Value.Numbers,
      membersNumbers]
  have hf : shopDescriptor.Faithful :=
    ⟨fun v h => (hv v h).1, by decide⟩
  have ht := Descriptor.parse_compact hf
  exact ⟨⟨ht, fun v h => (hv v h).2,
      Descriptor.run_roundTrips.1 _ _ ht (fun v h => (hv v h).2) .validateAndGenerate none _ rfl⟩,
    hf, Descriptor.run_roundTrips.2 _ hf .generateOnly none _ rfl⟩

end DataProduct
