import DataProduct.Proofs.Walk.Valid
import DataProduct.Proofs.Walk.Fill
import DataProduct.Proofs.Walk.Modes
import DataProduct.Proofs.Lifecycle
import DataProduct.Publish

/-!
# What publishing answers

Publishing runs four stages and answers with the failure of the first that fails: the lifecycle
(only an approved product is published), the variables (in strict mode none may be left), the
reading of the text, and the combined check and fill against the product's expected name. A
request that clears them all publishes the filled descriptor; since the check compared the data
product's name with the expected one, the published descriptor carries that name, and the
product's identifier is the one the document gives or, failing that, the one derived from the
name.

* `publish_of_refused`, `publish_of_cleared`: the lifecycle stage, and what follows once the
  request clears the first two stages;
* `Info.filled_of_valid`: the data product's own part of a valid descriptor as filling leaves it;
* `publish_first_failure`: the order of the failures and what a successful publish holds.
-/

namespace DataProduct

namespace PublishRequest

/-- The template of a request with its variables bound. -/
def substitution (r : PublishRequest) : Template.Substitution :=
  Template.substitute r.content r.variables

/-- The request clears the lifecycle and the variables: the product is approved, and in strict
mode no variable is left unresolved. -/
def Cleared (r : PublishRequest) : Prop :=
  r.status = .approved ∧ (r.strict = true → r.substitution.unresolved = [])

end PublishRequest

variable {r : PublishRequest}

/-- The combined check and fill of a read document, with the expected name. -/
theorem Registry.validateAndGenerate_some (d : Descriptor) (e : Option String) :
    Registry.validateAndGenerate (some d) e =
      if (d.walk .validateAndGenerate e).errors = [] then .ok d.generated
      else .error (.validation (d.walk .validateAndGenerate e).errors) := by
  show Registry.accept (d.walk .validateAndGenerate e) = _
  unfold Registry.accept
  rw [Descriptor.walk_value]
  by_cases h : (d.walk .validateAndGenerate e).errors = [] <;> simp [h, Mode.generates]

/-- A combined walk that reports nothing was over a valid descriptor. -/
theorem Descriptor.valid_of_combined {d : Descriptor} {e : Option String}
    (h : (d.walk .validateAndGenerate e).errors = []) : d.Valid e := by
  rw [← Descriptor.errors_eq_nil, ← Descriptor.checks_combined, h, List.filter_nil]

/-- A present value is the value there. -/
theorem eq_some_of_present {v : Option String} {s : String} (h : present v = some s) : v = some s := by
  cases v with
  | none => simp at h
  | some x =>
    rw [present_some] at h
    split at h <;> simp_all

/-- A refused publish is answered with the lifecycle's refusal. -/
theorem publish_of_refused {e : LifecycleError} (h : r.status.apply .publish = .error e) :
    publish r = .error (.lifecycle e) := by
  unfold publish
  rw [h]
  rfl

/-- The stages of publishing after the variables: reading the text, then checking and filling
it against the expected name. -/
def publishChecked (content fqn : String) : Except RegistryError Published := do
  let d ← Registry.validateAndGenerate (← Registry.parse content) (some fqn)
  return ⟨d, d.info.bind (·.identity.id), .published⟩

/-- Past the lifecycle, publishing checks the variables, then reads, checks and fills. -/
theorem publish_of_approved (ha : r.status = .approved) :
    publish r =
      if (r.strict && !r.substitution.complete) = true then
        .error (.unresolvedVariables r.substitution.unresolved)
      else publishChecked r.substitution.content r.fqn := by
  unfold publish
  rw [ha]
  rfl

/-- Past the first two stages, publishing reads, checks and fills. -/
theorem publish_of_cleared (h : r.Cleared) :
    publish r = publishChecked r.substitution.content r.fqn := by
  obtain ⟨ha, hs⟩ := h
  have hc : (r.strict && !r.substitution.complete) = false := by
    cases hst : r.strict with
    | false => rfl
    | true => simp [Template.Substitution.complete, hs hst]
  rw [publish_of_approved ha, hc]
  rfl

/-- Reading, checking and filling, by what the text reads as: a reading error, no document, the
errors of the combined walk, or the filled descriptor. -/
theorem publishChecked_eq (content fqn : String) :
    publishChecked content fqn =
      match Descriptor.parse content with
      | .error e => .error (.parse e)
      | .ok none => .error .missingDescriptor
      | .ok (some d) =>
        if (d.walk .validateAndGenerate (some fqn)).errors = [] then
          .ok ⟨d.generated, d.generated.info.bind (·.identity.id), .published⟩
        else .error (.validation (d.walk .validateAndGenerate (some fqn)).errors) := by
  unfold publishChecked Registry.parse
  cases Descriptor.parse content with
  | error e => rfl
  | ok doc =>
    cases doc with
    | none => rfl
    | some d =>
      show (Registry.validateAndGenerate (some d) (some fqn)).map _ = _
      rw [Registry.validateAndGenerate_some]
      by_cases h : (d.walk .validateAndGenerate (some fqn)).errors = [] <;> simp [h, Except.map]

/-- Reading, checking and filling never fail as the lifecycle does. -/
theorem publishChecked_ne_lifecycle (content fqn : String) (e : LifecycleError) :
    publishChecked content fqn ≠ .error (.lifecycle e) := by
  rw [publishChecked_eq]
  split
  · simp
  · simp
  · split <;> simp

/-- The data product's own part of a valid descriptor as filling leaves it: its name is the
expected one, and its identifier the given one or that of the name. -/
theorem Info.filled_of_valid {d : Descriptor} {fqn : String} (h : d.Valid (some fqn)) :
    ∃ i g, d.info = some i ∧ Identity.idOf fqn = .ok g ∧
      d.generated.info.map (·.identity.fullyQualifiedName) = some (some fqn) ∧
      d.generated.info.bind (·.identity.id) = some ((present i.identity.id).getD g) := by
  obtain ⟨i, hi, hv⟩ := h.info
  obtain ⟨f, hf⟩ := (isPresent_iff _).1 hv.fullyQualifiedName
  have hfe : f = fqn := h.expectedName fqn rfl i (by simp [hi]) f hf
  subst hfe
  have hraw := eq_some_of_present hf
  have hne : f.isEmpty = false := by simpa using ne_empty_of_present hf
  refine ⟨i, Uuid.ofUrl f, hi, ?_, ?_, ?_⟩
  · rw [Identity.idOf, Identity.nonEmpty, if_neg (by simp [hne])]
    rfl
  · simp [Descriptor.generated, hi, Info.generated, Identity.filled, hraw]
  · -- the identifier is kept when present, and is that of the name otherwise
    simp only [Descriptor.generated, hi, Option.map_some, Option.bind_some, Info.generated,
      Identity.filled, hv.fullyQualifiedName, if_true, hf]
    cases hid : present i.identity.id with
    | none => simp [isPresent, hid]
    | some x =>
      have hx := eq_some_of_present hid
      rw [hx] at hid
      simp [isPresent, hid, hx]

/-- Publishing answers with the first failing stage, in the order lifecycle, variables, reading,
checks. A refusal by the lifecycle comes exactly when the product is not approved, whatever the
template; in strict mode unresolved variables come next; then a text that does not read, or
reads as `null`; then the errors of the combined check and fill against the expected name.
A request that clears every stage publishes the filled descriptor, whose data product carries the
expected name, with the identifier the document gives or, failing that, the one derived from the
expected name. -/
theorem publish_first_failure (r : PublishRequest) :
    (publish r = .error (.lifecycle (.invalidTransition r.status .publish)) ↔
      r.status ≠ .approved) ∧
    (r.status = .approved → r.strict = true → r.substitution.unresolved ≠ [] →
      publish r = .error (.unresolvedVariables r.substitution.unresolved)) ∧
    (∀ e, r.Cleared → Descriptor.parse r.substitution.content = .error e →
      publish r = .error (.parse e)) ∧
    (r.Cleared → Descriptor.parse r.substitution.content = .ok none →
      publish r = .error .missingDescriptor) ∧
    (∀ d, r.Cleared → Descriptor.parse r.substitution.content = .ok (some d) →
      (d.walk .validateAndGenerate (some r.fqn)).errors ≠ [] →
      publish r = .error (.validation (d.walk .validateAndGenerate (some r.fqn)).errors)) ∧
    (∀ d, r.Cleared → Descriptor.parse r.substitution.content = .ok (some d) →
      (d.walk .validateAndGenerate (some r.fqn)).errors = [] →
      ∃ i g, d.info = some i ∧ Identity.idOf r.fqn = .ok g ∧
        publish r = .ok ⟨d.generated, some ((present i.identity.id).getD g), .published⟩ ∧
        d.generated.info.map (·.identity.fullyQualifiedName) = some (some r.fqn)) := by
  refine ⟨⟨fun h ha => ?_, fun ha => ?_⟩, fun ha hst hu => ?_, fun e hc hp => ?_, fun hc hp => ?_,
    fun d hc hp he => ?_, fun d hc hp he => ?_⟩
  · -- an approved product is never refused by the lifecycle
    rw [publish_of_approved ha] at h
    split at h
    · cases h
    · exact publishChecked_ne_lifecycle _ _ _ h
  · have hr : r.status.apply .publish = .error (.invalidTransition r.status .publish) := by
      cases h : r.status.apply .publish with
      | ok s => exact absurd ((Status.apply_publish_eq_ok _ _).1 h).1 ha
      | error e => rw [Status.apply_eq_error h]
    exact publish_of_refused hr
  · rw [publish_of_approved ha, if_pos]
    simpa [Template.Substitution.complete, hst, List.isEmpty_iff] using hu
  · rw [publish_of_cleared hc, publishChecked_eq, hp]
  · rw [publish_of_cleared hc, publishChecked_eq, hp]
  · rw [publish_of_cleared hc, publishChecked_eq, hp]
    exact if_neg he
  · obtain ⟨i, g, hi, hg, hfqn, hid⟩ := Info.filled_of_valid (Descriptor.valid_of_combined he)
    refine ⟨i, g, hi, hg, ?_, hfqn⟩
    rw [publish_of_cleared hc, publishChecked_eq, hp, ← hid]
    exact if_pos he

end DataProduct
