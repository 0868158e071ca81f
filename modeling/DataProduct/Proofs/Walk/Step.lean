import DataProduct.Validation.Walk
import DataProduct.Proofs.PathText

/-!
# One step of the walk

What each building block of `Descriptor.walk` does to the two parts of a report, the errors it
collects and the value it computes. Everything later about whole walks is proved from these
lemmas and never unfolds a block again:

* `Report.errors_bind`, `Report.value_bind`: the errors of a sequence of steps are those of each
  step in order, and its value is that of the last step;
* `Scope.errors_check`: a check reports only when the walk checks;
* `Scope.identity_value`, `Scope.identity_errors`: the identity step keeps the node unless the
  walk fills, and reports the node's own checks, then (only when the walk both checks and fills)
  the failure to derive its name;
* `walkItems_value`, `filter_walkItems`, `walkItems_errors_map`: a collection of ports or
  components, from what one node walk does at every index;
* `Components.walk_eq`: the walk keeps one registry of component keys, by the text of each map's
  path, and since the nine maps have different paths, each map is checked from no key seen.
-/

namespace DataProduct

namespace Report

variable {α β : Type}

@[simp] theorem errors_pure (a : α) : (pure a : Report α).errors = [] := rfl
@[simp] theorem value_pure (a : α) : (pure a : Report α).value = a := rfl

@[simp] theorem errors_bind (r : Report α) (f : α → Report β) :
    (r >>= f).errors = r.errors ++ (f r.value).errors := rfl

@[simp] theorem value_bind (r : Report α) (f : α → Report β) :
    (r >>= f).value = (f r.value).value := rfl

@[simp] theorem errors_tell (es : List FieldError) : (tell es).errors = es := rfl

end Report

section Option

variable {α : Type} (f : α → Report α)

@[simp] theorem errors_walkOption_some (a : α) : (walkOption f (some a)).errors = (f a).errors := by
  simp [walkOption]

@[simp] theorem errors_walkOption_none : (walkOption f none).errors = [] := rfl

theorem errors_walkOption (o : Option α) :
    (walkOption f o).errors = o.toList.flatMap fun a => (f a).errors := by
  cases o <;> simp

@[simp] theorem value_walkOption (o : Option α) :
    (walkOption f o).value = o.map fun a => (f a).value := by
  cases o <;> rfl

/-- A change to an optional node that its walk does not see is not seen through the option. -/
theorem errors_walkOption_map (g : α → α) (o : Option α) (h : ∀ a, (f (g a)).errors = (f a).errors) :
    (walkOption f (o.map g)).errors = (walkOption f o).errors := by
  cases o <;> simp [h]

end Option

/-! ## Present values -/

@[simp] theorem present_none : present none = none := rfl

theorem present_some (s : String) : present (some s) = if s.isEmpty then none else some s := rfl

theorem ne_empty_of_present {v : Option String} {s : String} (h : present v = some s) : s ≠ "" := by
  cases v with
  | none => cases h
  | some t =>
    by_cases ht : t.isEmpty
    · simp [present_some, ht] at h
    · simp only [present_some, ht, Bool.false_eq_true, ↓reduceIte, Option.some.injEq] at h
      subst h
      simpa using ht

theorem present_present (v : Option String) : present (present v) = present v := by
  cases v with
  | none => rfl
  | some t => by_cases ht : t.isEmpty <;> simp [present_some, ht]

theorem isPresent_iff (v : Option String) : isPresent v = true ↔ ∃ s, present v = some s := by
  simp [isPresent, Option.isSome_iff_exists]

/-! ## Scopes -/

namespace Scope

variable (s : Scope)

@[simp] theorem mode_child (k : String) : (s.child k).mode = s.mode := rfl
@[simp] theorem productFqn_child (k : String) : (s.child k).productFqn = s.productFqn := rfl
@[simp] theorem mode_item (i : Nat) : (s.item i).mode = s.mode := rfl
@[simp] theorem productFqn_item (i : Nat) : (s.item i).productFqn = s.productFqn := rfl

@[simp] theorem value_check (es : List FieldError) : (s.check es).value = () := rfl

@[simp] theorem errors_check (es : List FieldError) :
    (s.check es).errors = if s.mode.validates then es else [] := by
  unfold check
  split <;> rfl

/-- The error reported at the node when deriving its name failed with `e`. -/
def extractionError (e : IdentityError) : FieldError :=
  ⟨s.field "fullyQualifiedName", .fqnExtractionFailure, e.message⟩

@[simp] theorem kind_extractionError (e : IdentityError) :
    (s.extractionError e).kind = .fqnExtractionFailure := rfl

variable (i : Identity) (expected : String) (derive : Identity → Option (Except IdentityError String))

theorem identity_value :
    (s.identity i expected derive).value = if s.mode.generates then (i.fill expected derive).1 else i := by
  unfold identity
  cases s.mode.generates with
  | false => rfl
  | true =>
    obtain ⟨i', err⟩ := i.fill expected derive
    cases err <;> rfl

theorem identity_errors :
    (s.identity i expected derive).errors =
      (if s.mode.validates then i.check expected s.path else []) ++
        if s.mode.validates && s.mode.generates then
          ((i.fill expected derive).2.map s.extractionError).toList
        else [] := by
  unfold identity
  cases hg : s.mode.generates with
  | false => simp
  | true =>
    obtain ⟨i', err⟩ := i.fill expected derive
    cases err <;> simp [extractionError]

end Scope

/-! ## Collections

A collection of ports or components is walked node by node, each at its index and against the
names seen before it. What the collection walk reports and computes follows from what one node
walk does, whatever the index and the names seen: each lemma below takes that as its hypothesis.
-/

section Collections

variable {α : Type} (step : Scope → List String → α → Report α) (name : α → Option String)

/-- The nodes a collection walk computes, when a node walk's value is a function of the node. -/
theorem walkItems_value {s : Scope} {f : α → α}
    (hstep : ∀ i seen a, (step (s.item i) seen a).value = f a) (as : List α) (i : Nat)
    (seen : List String) : (walkItems step name s as i seen).value = as.map f := by
  induction as generalizing i seen with
  | nil => rfl
  | cons a as ih =>
    dsimp only [walkItems, Report.value_bind, Report.value_pure]
    rw [hstep, ih, List.map_cons]

/-- The errors of a collection walk through a filter, against a walk of the same nodes in another
scope: the filter keeps of each node walk's errors those of the other walk. The names seen are
those of the nodes, so both walks see the same ones. -/
theorem filter_walkItems {s₁ s₂ : Scope} {p : FieldError → Bool}
    (hstep : ∀ i seen a, (step (s₁.item i) seen a).errors.filter p = (step (s₂.item i) seen a).errors)
    (as : List α) (i : Nat) (seen : List String) :
    (walkItems step name s₁ as i seen).errors.filter p = (walkItems step name s₂ as i seen).errors := by
  induction as generalizing i seen with
  | nil => rfl
  | cons a as ih =>
    dsimp only [walkItems, Report.errors_bind, Report.errors_pure]
    rw [List.filter_append, List.filter_append, hstep, ih, List.filter_nil]

/-- A collection walk keeps nothing through a filter that keeps nothing of a node walk. -/
theorem filter_walkItems_eq_nil {s : Scope} {p : FieldError → Bool}
    (hstep : ∀ i seen a, (step (s.item i) seen a).errors.filter p = []) (as : List α) (i : Nat)
    (seen : List String) : (walkItems step name s as i seen).errors.filter p = [] := by
  induction as generalizing i seen with
  | nil => rfl
  | cons a as ih =>
    dsimp only [walkItems, Report.errors_bind, Report.errors_pure]
    rw [List.filter_append, List.filter_append, hstep, ih, List.filter_nil]
    rfl

/-- A collection walk whose node walks report nothing reports nothing. -/
theorem walkItems_errors_eq_nil_of {s : Scope} (hstep : ∀ i seen a, (step (s.item i) seen a).errors = [])
    (as : List α) (i : Nat) (seen : List String) : (walkItems step name s as i seen).errors = [] := by
  induction as generalizing i seen with
  | nil => rfl
  | cons a as ih =>
    dsimp only [walkItems, Report.errors_bind, Report.errors_pure]
    rw [hstep, ih]
    rfl

/-- Changing every node by `g` keeps a collection walk's errors when it keeps each node walk's
errors and the name each node adds to those seen. -/
theorem walkItems_errors_map {s : Scope} {g : α → α}
    (hname : ∀ a seen, seenAfter (name (g a)) seen = seenAfter (name a) seen)
    (hstep : ∀ i seen a, (step (s.item i) seen (g a)).errors = (step (s.item i) seen a).errors)
    (as : List α) (i : Nat) (seen : List String) :
    (walkItems step name s (as.map g) i seen).errors = (walkItems step name s as i seen).errors := by
  induction as generalizing i seen with
  | nil => rfl
  | cons a as ih =>
    rw [List.map_cons]
    dsimp only [walkItems, Report.errors_bind, Report.errors_pure]
    rw [hstep, hname, ih]

end Collections

/-! ## The registry of component keys -/

/-- A map whose text has no keys in the registry yet is checked from no key seen, and checking it
adds keys under its own text only: so maps with different texts never see each other's keys. -/
theorem mapsKeyErrors_eq_flatMap {ms : List (Path × List String)} {registry : String → List String}
    (hnd : (ms.map fun m => m.1.render).Nodup) (hfresh : ∀ m ∈ ms, registry m.1.render = []) :
    mapsKeyErrors ms registry = ms.flatMap fun m => componentKeyErrors m.1 m.2 [] := by
  induction ms generalizing registry with
  | nil => rfl
  | cons m ms ih =>
    obtain ⟨label, ks⟩ := m
    rw [List.map_cons, List.nodup_cons] at hnd
    rw [mapsKeyErrors, List.flatMap_cons, hfresh _ List.mem_cons_self]
    congr 1
    refine ih hnd.2 fun m' hm' => ?_
    -- the map just checked has another text, so nothing was added under the text of `m'`
    have hne : m'.1.render ≠ label.render := fun h => hnd.1 (h ▸ List.mem_map_of_mem hm')
    simp only [if_neg hne, hfresh m' (List.mem_cons_of_mem _ hm')]

/-- The nine maps of reusable components have different names. -/
theorem Components.nodup_names (r : Components) : (r.maps.map Prod.fst).Nodup := by
  simp [Components.maps]

/-- Each map of reusable components is checked from no key seen: the nine maps have different
paths, so the walk's one registry keeps their keys apart. -/
theorem Components.walk_eq (s : Scope) (r : Components) :
    Components.walk s r = do
      s.check (r.maps.flatMap fun km => componentKeyErrors (s.field km.1) km.2.keys [])
      return r := by
  have hnd : ((r.maps.map fun km => (s.field km.1, km.2.keys)).map
      fun m => m.1.render).Nodup := by
    rw [List.map_map]
    have hnames := Components.nodup_names r
    rw [List.Nodup, List.pairwise_map] at hnames ⊢
    exact hnames.imp fun hne heq => hne (Path.render_append_key_inj heq)
  rw [Components.walk, mapsKeyErrors_eq_flatMap hnd fun _ _ => rfl, List.flatMap_map]

end DataProduct
