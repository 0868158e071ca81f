import DataProduct.Proofs.Walk.Valid

/-!
# Which duplicate names a walk reports

Within one collection of ports, and within one kind of component, a name may appear once. A
checking walk reports every later appearance of a name and never the first: for the items of a
collection, in order, an item is reported exactly when its name is present and a present name at
a lower index of the same collection equals it (`repeatedNames`, with `mem_repeatedNames`).
Names in different collections or of different kinds never meet, absent and empty names are
passed over, and a walk that only fills reports nothing.

The walk of a collection carries the names seen so far; the statement about a whole collection
carries instead the names of the items before (`repeatedAfter`), and the two agree as long as
the names seen are the present names of the items before.

* `duplicateName_eq`: one item of a collection, against the names seen before it;
* `walkItems_duplicates`: a whole collection, by induction on its items;
* `duplicate_names_exact`: the duplicate-name errors of a whole walk, collection by collection.
-/

namespace DataProduct

/-! ## The names that repeat -/

/-- The entry of the item at index `i` with name `o`, after items with names `before`: its index
and name, when the name is present and equals a present name before it. -/
def repeatAt (before : List (Option String)) (o : Option String) (i : Nat) :
    Option (Nat × String) :=
  (present o).bind fun n => if n ∈ before.filterMap present then some (i, n) else none

/-- The present names of a list that repeat a present name before them, each with its index. -/
def repeatedNames (names : List (Option String)) : List (Nat × String) :=
  names.zipIdx.filterMap fun (o, i) => repeatAt (names.take i) o i

theorem mem_repeatedNames (names : List (Option String)) (i : Nat) (n : String) :
    (i, n) ∈ repeatedNames names ↔
      ∃ o, names[i]? = some o ∧ present o = some n ∧ n ∈ (names.take i).filterMap present := by
  simp only [repeatedNames, List.mem_filterMap, List.mem_zipIdx_iff_getElem?, repeatAt,
    Option.bind_eq_some_iff, Prod.exists]
  constructor
  · rintro ⟨o, k, hk, m, hm, hrep⟩
    split at hrep
    · obtain ⟨rfl, rfl⟩ := Prod.mk.inj (Option.some.inj hrep)
      exact ⟨o, hk, hm, by assumption⟩
    · cases hrep
  · rintro ⟨o, hi, hn, hmem⟩
    exact ⟨o, i, hi, n, hn, if_pos hmem⟩

/-- The first `a` is no repeat, the empty name never counts, and every later `a` is one. -/
example : repeatedNames [some "a", none, some "a", some "", some "b", some "a", some ""] =
    [(2, "a"), (5, "a")] := by
  decide

/-- The entries of the items `names` that stand after items with names `pre`, indexed from
`pre.length`. -/
def repeatedAfter (pre names : List (Option String)) : List (Nat × String) :=
  (names.zipIdx pre.length).filterMap fun (o, i) => repeatAt ((pre ++ names).take i) o i

theorem repeatedAfter_cons (pre : List (Option String)) (o : Option String)
    (os : List (Option String)) :
    repeatedAfter pre (o :: os) = (repeatAt pre o pre.length).toList ++ repeatedAfter (pre ++ [o]) os := by
  simp only [repeatedAfter, List.zipIdx_cons, List.filterMap_cons, List.take_left' rfl,
    List.length_append, List.length_singleton, List.append_assoc, List.singleton_append]
  cases repeatAt pre o pre.length <;> rfl

/-- The error for a repeated name at an index of a collection at `base`. -/
def duplicateError (label : String) (base : Path) (x : Nat × String) : FieldError :=
  ⟨base ++ [.index x.1, .key "name"], .duplicateName, "Duplicate " ++ label ++ " name '" ++ x.2 ++ "'"⟩

/-- The duplicate-name errors of a collection at `base` whose items have names `names`, for items
named `label` in messages. -/
def duplicateErrors (label : String) (base : Path) (names : List (Option String)) :
    List FieldError :=
  (repeatedNames names).map (duplicateError label base)

@[simp] theorem duplicateErrors_nil (label : String) (base : Path) :
    duplicateErrors label base [] = [] :=
  rfl

/-! ## One item against the names seen -/

/-- The names seen after one more item are the present names of the items up to it. -/
theorem mem_seenAfter (o : Option String) {seen : List String} {pre : List (Option String)}
    (h : ∀ n, n ∈ seen ↔ n ∈ pre.filterMap present) :
    ∀ n, n ∈ seenAfter o seen ↔ n ∈ (pre ++ [o]).filterMap present := by
  intro n
  rw [List.filterMap_append, List.mem_append, ← h]
  unfold seenAfter
  cases hp : present o <;> simp [hp, or_comm]

/-- One item's duplicate check, against names seen that are those of the items before it. -/
theorem duplicateName_eq (label : String) (o : Option String) {seen : List String}
    {pre : List (Option String)} (h : ∀ n, n ∈ seen ↔ n ∈ pre.filterMap present) (base : Path) :
    duplicateName label o seen (base ++ [.index pre.length, .key "name"]) =
      (repeatAt pre o pre.length).toList.map (duplicateError label base) := by
  unfold duplicateName repeatAt
  cases present o with
  | none => rfl
  | some n =>
    by_cases hn : n ∈ pre.filterMap present
    · have hs : seen.contains n = true := List.contains_iff_mem.2 ((h n).2 hn)
      simp only [hs, Option.bind_some, if_pos hn, ite_true, Option.toList_some, List.map_cons,
        List.map_nil, duplicateError]
    · have hs : seen.contains n = false := by simpa using mt (h n).1 hn
      simp only [hs, Option.bind_some, if_neg hn, Bool.false_eq_true, ite_false, Option.toList_none,
        List.map_nil]

/-! ## The errors that report a duplicate -/

/-- Whether an error reports a duplicate name. -/
def FieldError.isDuplicate (e : FieldError) : Bool := e.kind == .duplicateName

@[simp] theorem FieldError.isDuplicate_mk (p : Path) (k : FieldErrorKind) (m : String) :
    FieldError.isDuplicate ⟨p, k, m⟩ = (k == .duplicateName) := rfl

@[simp] theorem filter_isDuplicate_require (v : Option String) (p : Path) :
    (require v p).filter FieldError.isDuplicate = [] := by
  unfold require
  split <;> rfl

@[simp] theorem filter_isDuplicate_duplicateName (label : String) (name : Option String)
    (seen : List String) (p : Path) :
    (duplicateName label name seen p).filter FieldError.isDuplicate = duplicateName label name seen p := by
  unfold duplicateName
  split
  · split <;> rfl
  · rfl

@[simp] theorem Identity.filter_isDuplicate_check (i : Identity) (expected : String) (p : Path) :
    (i.check expected p).filter FieldError.isDuplicate = [] := by
  simp only [Identity.check, List.filter_append, List.append_eq_nil_iff]
  -- the version's check, then the entity type's
  constructor
  · split
    · split <;> rfl
    · rfl
  · split
    · split <;> rfl
    · rfl

@[simp] theorem filter_isDuplicate_componentKeyErrors (label : Path) (keys seen : List String) :
    (componentKeyErrors label keys seen).filter FieldError.isDuplicate = [] := by
  induction keys generalizing seen with
  | nil => rfl
  | cons k ks ih =>
    simp only [componentKeyErrors, List.filter_append, ih, List.append_nil]
    split
    · rfl
    · split
      · rfl
      · split <;> rfl

@[simp] theorem Scope.filter_isDuplicate_identity (s : Scope) (i : Identity) (expected : String)
    (derive : Identity → Option (Except IdentityError String)) :
    (s.identity i expected derive).errors.filter FieldError.isDuplicate = [] := by
  rw [Scope.identity_errors, List.filter_append]
  cases (i.fill expected derive).2 <;> simp [apply_ite (List.filter FieldError.isDuplicate), Scope.extractionError]

/-! ## Walkers -/

@[simp] theorem Scope.path_child (s : Scope) (k : String) : (s.child k).path = s.path ++ [.key k] :=
  rfl

theorem filter_walkOption_nil {α : Type} (f : α → Report α)
    (h : ∀ a, (f a).errors.filter FieldError.isDuplicate = []) (o : Option α) :
    (walkOption f o).errors.filter FieldError.isDuplicate = [] := by
  cases o <;> simp [h]

/-- The duplicates among the errors a node's own check reports, when the walk checks. -/
theorem Scope.filter_isDuplicate_check (s : Scope) (es : List FieldError) :
    (s.check es).errors.filter FieldError.isDuplicate =
      if s.mode.validates then es.filter FieldError.isDuplicate else [] := by
  rw [Scope.errors_check]
  split <;> rfl

section Walkers

variable (s : Scope)

@[simp] theorem StandardDefinition.duplicates (d : StandardDefinition) :
    (StandardDefinition.walk s d).errors.filter FieldError.isDuplicate = [] := by
  dsimp only [StandardDefinition.walk, Report.errors_bind, Report.errors_pure]
  simp [List.filter_append, apply_ite (List.filter FieldError.isDuplicate)]

@[simp] theorem Promises.duplicates (r : Promises) :
    (Promises.walk s r).errors.filter FieldError.isDuplicate = [] := by
  dsimp only [Promises.walk, Report.errors_bind, Report.errors_pure]
  simp [errors_walkOption, List.filter_flatMap]

@[simp] theorem Expectations.duplicates (r : Expectations) :
    (Expectations.walk s r).errors.filter FieldError.isDuplicate = [] := by
  dsimp only [Expectations.walk, Report.errors_bind, Report.errors_pure]
  simp [errors_walkOption, List.filter_flatMap]

@[simp] theorem Obligations.duplicates (r : Obligations) :
    (Obligations.walk s r).errors.filter FieldError.isDuplicate = [] := by
  dsimp only [Obligations.walk, Report.errors_bind, Report.errors_pure]
  simp [errors_walkOption, List.filter_flatMap]

/-- A port reports a duplicate only from its own name, against the names seen before it. -/
theorem Port.duplicates (kind : PortKind) (seen : List String) (p : Port) :
    (Port.walk kind s seen p).errors.filter FieldError.isDuplicate =
      if s.mode.validates then duplicateName kind.label p.identity.name seen (s.field "name")
      else [] := by
  dsimp only [Port.walk, Report.errors_bind, Report.errors_pure]
  by_cases hv : s.mode.validates <;> simp [hv, errors_walkOption, List.filter_flatMap]

theorem Component.duplicates (kind : ComponentKind) (seen : List String) (c : Component) :
    (Component.walk kind s seen c).errors.filter FieldError.isDuplicate =
      if s.mode.validates then duplicateName kind.label c.identity.name seen (s.field "name")
      else [] := by
  dsimp only [Component.walk, Report.errors_bind, Report.errors_pure]
  by_cases hv : s.mode.validates <;> simp [hv]

/-- The duplicates a collection reports from index `pre.length` on, after items whose names are
`pre`, whose present names are those seen, when a node reports a duplicate only from its own name. -/
theorem walkItems_duplicates {α : Type} {step : Scope → List String → α → Report α}
    {name : α → Option String} {label : String}
    (hstep : ∀ s seen a, (step s seen a).errors.filter FieldError.isDuplicate =
      if s.mode.validates then duplicateName label (name a) seen (s.field "name") else [])
    (as : List α) (pre : List (Option String)) (seen : List String)
    (h : ∀ n, n ∈ seen ↔ n ∈ pre.filterMap present) :
    (walkItems step name s as pre.length seen).errors.filter FieldError.isDuplicate =
      if s.mode.validates then (repeatedAfter pre (as.map name)).map (duplicateError label s.path)
      else [] := by
  induction as generalizing pre seen with
  | nil => simp [walkItems, repeatedAfter]
  | cons a as ih =>
    have hrest := ih (pre ++ [name a]) _ (mem_seenAfter (name a) h)
    rw [List.length_append, List.length_singleton] at hrest
    dsimp only [walkItems, Report.errors_bind, Report.errors_pure]
    rw [List.append_nil, List.filter_append, hstep, Scope.mode_item, hrest, List.map_cons,
      repeatedAfter_cons]
    by_cases hv : s.mode.validates
    · simp only [hv, if_true, List.map_append, Scope.item, Scope.field, List.append_assoc,
        List.singleton_append, duplicateName_eq _ _ h]
    · simp [hv]

theorem walkItems_duplicates_zero {α : Type} {step : Scope → List String → α → Report α}
    {name : α → Option String} {label : String}
    (hstep : ∀ s seen a, (step s seen a).errors.filter FieldError.isDuplicate =
      if s.mode.validates then duplicateName label (name a) seen (s.field "name") else [])
    (as : List α) :
    (walkItems step name s as 0 []).errors.filter FieldError.isDuplicate =
      if s.mode.validates then duplicateErrors label s.path (as.map name) else [] :=
  walkItems_duplicates s hstep as [] [] (by simp)

theorem Port.walkOption_duplicates (kind : PortKind) (ops : Option (List Port)) :
    (walkOption (fun ps => walkItems (Port.walk kind) (·.identity.name) s ps 0 []) ops).errors.filter
        FieldError.isDuplicate =
      if s.mode.validates then duplicateErrors kind.label s.path ((ops.getD []).map (·.identity.name))
      else [] := by
  cases ops <;> simp [walkItems_duplicates_zero s (Port.duplicates · kind)]

/-- The ports report the duplicates of each collection, collection by collection. -/
theorem InterfaceComponents.duplicates (r : InterfaceComponents) :
    (InterfaceComponents.walk s r).errors.filter FieldError.isDuplicate =
      if s.mode.validates then
        PortKind.all.flatMap fun k =>
          duplicateErrors k.label (s.path ++ [.key k.collection]) ((r.ports k).map (·.identity.name))
      else [] := by
  dsimp only [InterfaceComponents.walk, Report.errors_bind, Report.errors_pure]
  have hout : (if r.outputPorts.isSome then [] else
      [(⟨s.field "outputPorts", .missingRequiredField, missingMessage⟩ : FieldError)]).filter
        FieldError.isDuplicate = [] := by
    split <;> rfl
  simp only [List.filter_append, Scope.filter_isDuplicate_check, hout,
    walkItems_duplicates_zero _ (Port.duplicates · _), Port.walkOption_duplicates, Scope.mode_child,
    Scope.path_child, List.append_nil]
  by_cases hv : s.mode.validates <;>
    simp [hv, PortKind.all, InterfaceComponents.ports]

/-- The components report the duplicates of each kind, kind by kind. -/
theorem InternalComponents.duplicates (r : InternalComponents) :
    (InternalComponents.walk s r).errors.filter FieldError.isDuplicate =
      if s.mode.validates then
        ComponentKind.all.flatMap fun k =>
          duplicateErrors k.label (s.path ++ [.key k.collection]) ((r.components k).map (·.identity.name))
      else [] := by
  dsimp only [InternalComponents.walk, Report.errors_bind, Report.errors_pure]
  simp only [List.filter_append, walkItems_duplicates_zero _ (Component.duplicates · _),
    Scope.mode_child, Scope.path_child, List.append_nil]
  by_cases hv : s.mode.validates <;>
    simp [hv, ComponentKind.all, InternalComponents.components]

@[simp] theorem Components.duplicates (r : Components) :
    (Components.walk s r).errors.filter FieldError.isDuplicate = [] := by
  rw [Components.walk_eq]
  dsimp only [Report.errors_bind, Report.errors_pure]
  rw [List.append_nil, Scope.filter_isDuplicate_check, List.filter_flatMap]
  simp

@[simp] theorem Info.duplicates (r : Info) :
    (Info.walk s r).errors.filter FieldError.isDuplicate = [] := by
  dsimp only [Info.walk, Report.errors_bind, Report.errors_pure]
  -- the owner's check is the only one written inline
  rw [List.filter_append, Scope.filter_isDuplicate_check, List.append_nil,
    Scope.filter_isDuplicate_identity]
  cases r.owner <;> simp

end Walkers

/-- Duplicate names are reported exactly at the later appearances of a name within one collection
of ports or one kind of component. A walk that checks reports, for each collection of ports in
the order input, output, discovery, observability, control, and then for the application and
the infrastructural components, an error at the name of each item whose name is present and
equals a present name at a lower index of the same collection, saying `Duplicate <label> name
'<name>'`, in the order of the items; it reports no other duplicate-name error. A walk that only
fills reports none. -/
theorem duplicate_names_exact (d : Descriptor) (m : Mode) (e : Option String) :
    (d.walk m e).errors.filter FieldError.isDuplicate =
      if m.validates then
        (d.interfaceComponents.toList.flatMap fun r => PortKind.all.flatMap fun k =>
          duplicateErrors k.label [.key "interfaceComponents", .key k.collection]
            ((r.ports k).map (·.identity.name))) ++
        (d.internalComponents.toList.flatMap fun r => ComponentKind.all.flatMap fun k =>
          duplicateErrors k.label [.key "internalComponents", .key k.collection]
            ((r.components k).map (·.identity.name)))
      else [] := by
  dsimp only [Descriptor.walk, Report.errors_bind, Report.errors_pure]
  simp only [List.filter_append, List.append_nil]
  rw [filter_walkOption_nil _ (Info.duplicates _), filter_walkOption_nil _ (Components.duplicates _),
    Scope.filter_isDuplicate_check]
  simp only [errors_walkOption, List.filter_flatMap, InterfaceComponents.duplicates,
    InternalComponents.duplicates, Scope.mode_child, Scope.path_child, List.nil_append,
    List.append_nil, List.filter_append, filter_isDuplicate_require]
  by_cases hv : m.validates
  · -- the root's own checks: the expected name, the descriptor's version and the two sections
    simp only [hv, if_true, apply_ite (List.filter FieldError.isDuplicate), List.filter_cons,
      FieldError.isDuplicate_mk, List.filter_nil]
    split
    · split <;> simp
    · simp
  · simp [hv]

end DataProduct
