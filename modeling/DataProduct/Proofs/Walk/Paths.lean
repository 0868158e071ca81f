import DataProduct.Proofs.Walk.Modes
import DataProduct.Proofs.Walk.Fill
import DataProduct.Proofs.PathText

/-!
# One error per field

A walk reports at most one error for each field: no two errors of a run share a path, as paths
and as the text reports show them. Three facts make this so. The checks aimed at one field
exclude each other: a missing name is never a duplicate, a missing version is never an invalid
one, and the data product's name is compared with the expected one only when it is present. Each
node is visited once, and the paths of different nodes part at the step that leads to them. And
the text of a path gives the path back: every key of a path is a plain word, except the key of a
reusable component, which comes last.

* `Tidy`: errors at distinct paths below a node's, each step after it plain; every walker keeps it
  (`Port.tidy`, `Info.tidy`, …), from `tidy_of_sites` for a node's own checks;
* `componentKeyErrors_sites`, `Components.keys_sites`: distinct keys of the reusable components
  are reported at distinct paths;
* `Placed`: errors at distinct paths that their texts give back (`Path.render_inj_of_readable`),
  which a checking walk keeps (`Descriptor.placed`);
* `error_paths_distinct`: no two errors of a run share the text of a field path.
-/

namespace DataProduct

/-! ## Errors below a node -/

/-- Errors reported below the node at `base`: at distinct paths, each `base` followed by at least
one step, all of them plain. -/
structure Tidy (base : Path) (es : List FieldError) : Prop where
  nodup : (es.map FieldError.path).Nodup
  below : ∀ e ∈ es, ∃ s q, e.path = base ++ s :: q ∧ ∀ t ∈ s :: q, t.Plain

namespace Tidy

variable {base : Path}

theorem nil : Tidy base [] := ⟨List.nodup_nil, by simp⟩

theorem append {es₁ es₂ : List FieldError} (h₁ : Tidy base es₁) (h₂ : Tidy base es₂)
    (hd : ∀ e₁ ∈ es₁, ∀ e₂ ∈ es₂, e₁.path ≠ e₂.path) : Tidy base (es₁ ++ es₂) := by
  refine ⟨?_, ?_⟩
  · rw [List.map_append, List.nodup_append]
    refine ⟨h₁.nodup, h₂.nodup, ?_⟩
    simp only [List.mem_map]
    rintro _ ⟨e₁, he₁, rfl⟩ _ ⟨e₂, he₂, rfl⟩
    exact hd e₁ he₁ e₂ he₂
  · intro e he
    rcases List.mem_append.mp he with he | he
    · exact h₁.below e he
    · exact h₂.below e he

/-- Errors below a plain step of a node are below the node. -/
theorem up {s : PathStep} {es : List FieldError} (h : Tidy (base ++ [s]) es) (hs : s.Plain) :
    Tidy base es := by
  refine ⟨h.nodup, fun e he => ?_⟩
  obtain ⟨t, q, hp, hq⟩ := h.below e he
  refine ⟨s, t :: q, by simp [hp], ?_⟩
  rintro u (_ | ⟨_, hu⟩)
  · exact hs
  · exact hq u hu

theorem walkOption {α : Type} {f : α → Report α} (h : ∀ a, Tidy base (f a).errors) (o : Option α) :
    Tidy base (DataProduct.walkOption f o).errors := by
  cases o with
  | none => exact nil
  | some a => simpa using h a

theorem length_lt {es : List FieldError} (h : Tidy base es) {e : FieldError} (he : e ∈ es) :
    base.length < e.path.length := by
  obtain ⟨s, q, hp, -⟩ := h.below e he
  simp [hp]

end Tidy

/-- Paths below two different steps of a node differ. -/
theorem path_ne_of_step_ne {base : Path} {s₁ s₂ : PathStep} {es₁ es₂ : List FieldError}
    (h₁ : Tidy (base ++ [s₁]) es₁) (h₂ : Tidy (base ++ [s₂]) es₂) (hs : s₁ ≠ s₂) :
    ∀ e₁ ∈ es₁, ∀ e₂ ∈ es₂, e₁.path ≠ e₂.path := by
  intro e₁ he₁ e₂ he₂ heq
  obtain ⟨t₁, q₁, hp₁, -⟩ := h₁.below e₁ he₁
  obtain ⟨t₂, q₂, hp₂, -⟩ := h₂.below e₂ he₂
  rw [hp₁, hp₂] at heq
  simp only [List.append_assoc, List.singleton_append, List.append_cancel_left_eq, List.cons.injEq]
    at heq
  exact hs heq.1

/-! ## A node's own checks

Each check of a node reports at most one error, at a path of its own; checks that share a path
never both report. -/

/-- A check that reports at most one error, at `path`. -/
def Site (path : Path) (es : List FieldError) : Prop := es.length ≤ 1 ∧ ∀ e ∈ es, e.path = path

theorem site_nil (path : Path) : Site path [] := ⟨by simp, by simp⟩

theorem site_singleton (e : FieldError) : Site e.path [e] := ⟨by simp, by simp⟩

theorem Site.ite {c : Prop} [Decidable c] {path : Path} {es es' : List FieldError} (h : Site path es)
    (h' : Site path es') : Site path (if c then es else es') := by
  split
  · exact h
  · exact h'

theorem Site.nodup {path : Path} {es : List FieldError} (h : Site path es) :
    (es.map FieldError.path).Nodup := by
  match es, h with
  | [], _ => exact List.nodup_nil
  | [_], _ => simp
  | _ :: _ :: _, h => exact absurd h.1 (by simp)

/-- The errors of a node's own checks, given check by check with their paths, are at distinct
paths below the node when checks that share a path never both report. -/
theorem tidy_of_sites {base : Path} (ss : List (Path × List FieldError))
    (hs : ∀ x ∈ ss, Site x.1 x.2)
    (hb : ∀ x ∈ ss, ∃ s q, x.1 = base ++ s :: q ∧ ∀ t ∈ s :: q, t.Plain)
    (hx : ss.Pairwise fun a b => a.2 ≠ [] → b.2 ≠ [] → a.1 ≠ b.1) :
    Tidy base (ss.flatMap Prod.snd) := by
  induction ss with
  | nil => exact Tidy.nil
  | cons x ss ih =>
    rw [List.flatMap_cons]
    obtain ⟨hxs, hxx⟩ := List.pairwise_cons.mp hx
    have hrest := ih (fun y hy => hs y (.tail _ hy)) (fun y hy => hb y (.tail _ hy)) hxx
    obtain ⟨-, hpath⟩ := hs x (.head _)
    have hfirst : Tidy base x.2 :=
      ⟨(hs x (.head _)).nodup, fun e he => by rw [hpath e he]; exact hb x (.head _)⟩
    refine hfirst.append hrest fun e₁ he₁ e₂ he₂ heq => ?_
    obtain ⟨y, hy, he₂y⟩ := List.mem_flatMap.mp he₂
    have hpy := (hs y (.tail _ hy)).2 e₂ he₂y
    exact hxs y hy (List.ne_nil_of_mem he₁) (List.ne_nil_of_mem he₂y) (by rw [← hpath e₁ he₁, heq, hpy])

/-- An error of a node's own checks is one of some check, at that check's path. -/
theorem exists_site_of_mem {ss : List (Path × List FieldError)} (hs : ∀ x ∈ ss, Site x.1 x.2)
    {e : FieldError} (he : e ∈ ss.flatMap Prod.snd) : ∃ x ∈ ss, e ∈ x.2 ∧ e.path = x.1 := by
  obtain ⟨x, hx, hex⟩ := List.mem_flatMap.mp he
  exact ⟨x, hx, hex, (hs x hx).2 e hex⟩

/-- The checks of a node that each report at one field of it. -/
theorem tidy_of_fields {base : Path} (fs : List (String × List FieldError))
    (hs : ∀ x ∈ fs, Site (base ++ [.key x.1]) x.2) (hp : ∀ f ∈ fs.map Prod.fst, (PathStep.key f).Plain)
    (hx : fs.Pairwise fun a b => a.2 ≠ [] → b.2 ≠ [] → a.1 ≠ b.1) :
    Tidy base (fs.flatMap Prod.snd) ∧
      ∀ e ∈ fs.flatMap Prod.snd, e.path.length = base.length + 1 := by
  have ht : Tidy base ((fs.map fun x => (base ++ [.key x.1], x.2)).flatMap Prod.snd) :=
    tidy_of_sites _
    (fun x hx => by
      obtain ⟨y, hy, rfl⟩ := List.mem_map.mp hx
      exact hs y hy)
    (fun x hx => by
      obtain ⟨y, hy, rfl⟩ := List.mem_map.mp hx
      exact ⟨_, [], rfl, by simpa using hp y.1 (List.mem_map_of_mem hy)⟩)
    (by
      refine List.pairwise_map.mpr (hx.imp fun hab h₁ h₂ heq => hab h₁ h₂ ?_)
      simpa using heq)
  rw [List.flatMap_map] at ht
  refine ⟨ht, fun e he => ?_⟩
  obtain ⟨x, hx, hex⟩ := List.mem_flatMap.mp he
  simp [(hs x hx).2 e hex]

/-- The errors of the children of a node, each below its own key. -/
theorem tidy_of_children {base : Path} (cs : List (String × List FieldError))
    (hc : ∀ x ∈ cs, Tidy (base ++ [.key x.1]) x.2) (hp : ∀ f ∈ cs.map Prod.fst, (PathStep.key f).Plain)
    (hn : (cs.map Prod.fst).Nodup) :
    Tidy base (cs.flatMap Prod.snd) ∧
      ∀ e ∈ cs.flatMap Prod.snd, base.length + 1 < e.path.length := by
  induction cs with
  | nil => exact ⟨Tidy.nil, by simp⟩
  | cons x cs ih =>
    rw [List.flatMap_cons]
    obtain ⟨hx, hn'⟩ := List.nodup_cons.mp hn
    have hx₁ := hc x (.head _)
    obtain ⟨hrest, hlen⟩ := ih (fun y hy => hc y (.tail _ hy))
      (fun f hf => hp f (.tail _ hf)) hn'
    refine ⟨(hx₁.up (hp x.1 (.head _))).append hrest fun e₁ he₁ e₂ he₂ => ?_, fun e he => ?_⟩
    · obtain ⟨y, hy, he₂y⟩ := List.mem_flatMap.mp he₂
      refine path_ne_of_step_ne hx₁ (hc y (.tail _ hy)) ?_ e₁ he₁ e₂ he₂y
      intro hxy
      exact hx (PathStep.key.inj hxy ▸ List.mem_map_of_mem hy)
    · rcases List.mem_append.mp he with he | he
      · have := hx₁.length_lt he
        simp only [List.length_append, List.length_singleton] at this
        exact this
      · exact hlen e he

/-- A node: its own checks, each at one of its fields, then its children, each below its own key. -/
theorem tidy_of_node {base : Path} (fs cs : List (String × List FieldError))
    (hf : Tidy base (fs.flatMap Prod.snd) ∧
      ∀ e ∈ fs.flatMap Prod.snd, e.path.length = base.length + 1)
    (hc : Tidy base (cs.flatMap Prod.snd) ∧
      ∀ e ∈ cs.flatMap Prod.snd, base.length + 1 < e.path.length) :
    Tidy base (fs.flatMap Prod.snd ++ cs.flatMap Prod.snd) := by
  refine hf.1.append hc.1 fun e₁ he₁ e₂ he₂ heq => ?_
  have h₂ := hc.2 e₂ he₂
  rw [← heq, hf.2 e₁ he₁] at h₂
  exact Nat.lt_irrefl _ h₂

/-- The errors of a node's fields and children are below the node, at the field's or child's
key. -/
theorem key_of_node {base : Path} {fs cs : List (String × List FieldError)}
    (hf : ∀ x ∈ fs, Site (base ++ [.key x.1]) x.2) (hc : ∀ x ∈ cs, Tidy (base ++ [.key x.1]) x.2) :
    ∀ e ∈ fs.flatMap Prod.snd ++ cs.flatMap Prod.snd,
      ∃ n ∈ fs.map Prod.fst ++ cs.map Prod.fst, ∃ q, e.path = base ++ .key n :: q := by
  intro e he
  rcases List.mem_append.mp he with he | he
  · obtain ⟨x, hx, hex⟩ := List.mem_flatMap.mp he
    exact ⟨x.1, List.mem_append_left _ (List.mem_map_of_mem hx), [], (hf x hx).2 e hex⟩
  · obtain ⟨x, hx, hex⟩ := List.mem_flatMap.mp he
    obtain ⟨s, q, hp, -⟩ := (hc x hx).below e hex
    exact ⟨x.1, List.mem_append_right _ (List.mem_map_of_mem hx), s :: q, by simp [hp]⟩

/-- One more item of a list: its errors are below its index, those of the items after it below
larger indices. -/
theorem tidy_cons_item {base : Path} {i : Nat} {es rest : List FieldError}
    (h : Tidy (base ++ [.index i]) es) (hr : Tidy base rest)
    (hj : ∀ e ∈ rest, ∃ j q, i + 1 ≤ j ∧ e.path = base ++ .index j :: q) :
    Tidy base (es ++ rest) ∧ ∀ e ∈ es ++ rest, ∃ j q, i ≤ j ∧ e.path = base ++ .index j :: q := by
  have hitem : ∀ e ∈ es, ∃ q, e.path = base ++ .index i :: q := by
    intro e he
    obtain ⟨s, q, hp, -⟩ := h.below e he
    exact ⟨s :: q, by simp [hp]⟩
  refine ⟨(h.up trivial).append hr fun e₁ he₁ e₂ he₂ heq => ?_, fun e he => ?_⟩
  · obtain ⟨q₁, hq₁⟩ := hitem e₁ he₁
    obtain ⟨j, q₂, hij, hq₂⟩ := hj e₂ he₂
    rw [hq₁, hq₂] at heq
    simp only [List.append_cancel_left_eq, List.cons.injEq, PathStep.index.injEq] at heq
    omega
  · rcases List.mem_append.mp he with he | he
    · obtain ⟨q, hq⟩ := hitem e he
      exact ⟨i, q, Nat.le_refl i, hq⟩
    · obtain ⟨j, q, hij, hq⟩ := hj e he
      exact ⟨j, q, by omega, hq⟩

/-- A collection walk whose node walks report below their items reports below the collection, each
error below an item at or after the first. -/
theorem tidy_walkItems {α : Type} {step : Scope → List String → α → Report α}
    {name : α → Option String} {s : Scope}
    (hstep : ∀ i seen a, Tidy (s.item i).path (step (s.item i) seen a).errors) (as : List α) (i : Nat)
    (seen : List String) :
    Tidy s.path (walkItems step name s as i seen).errors ∧
      ∀ e ∈ (walkItems step name s as i seen).errors, ∃ j q, i ≤ j ∧ e.path = s.path ++ .index j :: q := by
  induction as generalizing i seen with
  | nil => exact ⟨Tidy.nil, by simp [walkItems]⟩
  | cons a as ih =>
    dsimp only [walkItems, Report.errors_bind, Report.errors_pure]
    rw [List.append_nil]
    obtain ⟨hr, hj⟩ := ih (i + 1) (seenAfter (name a) seen)
    exact tidy_cons_item (hstep i seen a) hr hj

/-- Checks that report at most one error at a path, and only when the value is missing. -/
theorem require_site (v : Option String) (p : Path) : Site p (require v p) := by
  unfold require
  split
  · exact site_nil p
  · exact site_singleton _

theorem isPresent_of_require_ne_nil {v : Option String} {p : Path} (h : require v p ≠ []) :
    isPresent v = false := by
  unfold require at h
  split at h
  · exact absurd rfl h
  · simpa using ‹¬isPresent v = true›

/-- A check that reports only on a present value reports nothing where the value was reported
missing. -/
theorem eq_nil_of_require_ne_nil {v : Option String} {p : Path} {es : List FieldError}
    (hes : es ≠ [] → isPresent v = true) (h : require v p ≠ []) : es = [] := by
  cases es with
  | nil => rfl
  | cons e es =>
    have hp := hes (List.cons_ne_nil e es)
    rw [isPresent_of_require_ne_nil h] at hp
    exact absurd hp Bool.false_ne_true

theorem duplicateName_site (label : String) (name : Option String) (seen : List String) (p : Path) :
    Site p (duplicateName label name seen p) := by
  unfold duplicateName
  split
  · split
    · exact site_singleton _
    · exact site_nil p
  · exact site_nil p

/-- A name reported as a duplicate is present. -/
theorem isPresent_of_duplicateName_ne_nil {label : String} {name : Option String}
    {seen : List String} {p : Path} (h : duplicateName label name seen p ≠ []) :
    isPresent name = true := by
  unfold duplicateName at h
  split at h
  · rename_i n hn
    exact (isPresent_iff _).mpr ⟨n, hn⟩
  · exact absurd rfl h

/-- The checks of an identity: its version's, reported only for a present version, then its entity
type's. -/
theorem Identity.check_sites (i : Identity) (expected : String) (p : Path) :
    ∃ V E, i.check expected p = V ++ E ∧ Site (p ++ [.key "version"]) V ∧
      (V ≠ [] → isPresent i.version = true) ∧ Site (p ++ [.key "entityType"]) E := by
  refine ⟨_, _, rfl, ?_, ?_, ?_⟩
  · split
    · exact Site.ite (site_nil _) (site_singleton _)
    · exact site_nil _
  · split
    · rename_i v hv
      exact fun _ => (isPresent_iff _).mpr ⟨v, hv⟩
    · exact fun h => absurd rfl h
  · split
    · exact Site.ite (site_nil _) (site_singleton _)
    · exact site_nil _

/-- The failure to derive a name is reported at the node's `fullyQualifiedName`. -/
theorem Scope.extraction_site (s : Scope) (c : Bool) (err : Option IdentityError) :
    Site (s.field "fullyQualifiedName")
      (if c then (err.map s.extractionError).toList else []) := by
  refine Site.ite ?_ (site_nil _)
  cases err with
  | none => exact site_nil _
  | some e => exact site_singleton _

/-! ## The keys of reusable components

The one place where a key of a path is not plain: a key of a map of reusable components is
reported at itself whatever its text, or at the map when it is empty. -/

/-- Where the keys of a map at `label` are reported. -/
def keyPath (label : Path) (k : String) : Path := if k.isEmpty then label else label ++ [.key k]

theorem keyPath_inj {label : Path} {k₁ k₂ : String} (h : keyPath label k₁ = keyPath label k₂) :
    k₁ = k₂ := by
  unfold keyPath at h
  by_cases h₁ : k₁.isEmpty <;> by_cases h₂ : k₂.isEmpty <;> simp_all [String.isEmpty_iff]

theorem keyPath_component (name k : String) :
    keyPath [.key "components", .key name] k =
      Path.component name (if k.isEmpty then none else some k) := by
  unfold keyPath Path.component
  split <;> rfl

/-- One more key: its errors, at most one, at its own path. -/
theorem componentKeyErrors_cons (label : Path) (k : String) (ks seen : List String) :
    ∃ here seen', componentKeyErrors label (k :: ks) seen = here ++ componentKeyErrors label ks seen' ∧
      Site (keyPath label k) here :=
  ⟨_, _, rfl, Site.ite (site_singleton _) (Site.ite (site_singleton _)
    (Site.ite (site_singleton _) (site_nil _)))⟩

/-- Distinct keys of a map are reported at distinct paths, each at most once. -/
theorem componentKeyErrors_sites (label : Path) {ks : List String} (hk : ks.Nodup)
    (seen : List String) :
    ((componentKeyErrors label ks seen).map FieldError.path).Nodup ∧
      ∀ e ∈ componentKeyErrors label ks seen, ∃ k ∈ ks, e.path = keyPath label k := by
  induction ks generalizing seen with
  | nil => simp [componentKeyErrors]
  | cons k ks ih =>
    obtain ⟨here, seen', hc, hs⟩ := componentKeyErrors_cons label k ks seen
    obtain ⟨hk, hks⟩ := List.nodup_cons.mp hk
    obtain ⟨hn, hat⟩ := ih hks seen'
    rw [hc]
    refine ⟨?_, fun e he => ?_⟩
    · rw [List.map_append, List.nodup_append]
      refine ⟨hs.nodup, hn, ?_⟩
      simp only [List.mem_map]
      rintro _ ⟨e₁, he₁, rfl⟩ _ ⟨e₂, he₂, rfl⟩ heq
      obtain ⟨k', hk', hp⟩ := hat e₂ he₂
      rw [hs.2 e₁ he₁, hp] at heq
      exact hk (keyPath_inj heq ▸ hk')
    · rcases List.mem_append.mp he with he | he
      · exact ⟨k, .head _, hs.2 e he⟩
      · obtain ⟨k', hk', hp⟩ := hat e he
        exact ⟨k', .tail _ hk', hp⟩

/-- Maps with distinct plain names: their keys, distinct in each map, are reported at distinct
paths, each under its map's name. -/
theorem componentMaps_sites {β : Type} (ms : List (String × Json.Map β)) (hn : (ms.map Prod.fst).Nodup)
    (hp : ∀ n ∈ ms.map Prod.fst, (PathStep.key n).Plain) :
    ((ms.flatMap fun x => componentKeyErrors ([.key "components"] ++ [.key x.1]) x.2.keys
        []).map FieldError.path).Nodup ∧
      ∀ e ∈ ms.flatMap (fun x => componentKeyErrors ([.key "components"] ++ [.key x.1])
          x.2.keys []),
        ∃ name k, (PathStep.key name).Plain ∧ e.path = Path.component name k := by
  have hat : ∀ x ∈ ms, ∀ e ∈ componentKeyErrors [.key "components", .key x.1] x.2.keys [],
      ∃ k, e.path = Path.component x.1 k := by
    intro x _ e he
    obtain ⟨k, -, hpk⟩ := (componentKeyErrors_sites _ x.2.keys_nodup []).2 e he
    exact ⟨_, hpk.trans (keyPath_component _ _)⟩
  induction ms with
  | nil => simp
  | cons x ms ih =>
    obtain ⟨hx, hn⟩ := List.nodup_cons.mp hn
    obtain ⟨hmn, hmat⟩ := ih hn (fun n hn => hp n (.tail _ hn)) (fun y hy => hat y (.tail _ hy))
    rw [List.flatMap_cons]
    refine ⟨?_, fun e he => ?_⟩
    · rw [List.map_append, List.nodup_append]
      refine ⟨(componentKeyErrors_sites _ x.2.keys_nodup []).1, hmn, ?_⟩
      simp only [List.mem_map]
      -- the maps' names tell their keys' paths apart
      rintro _ ⟨e₁, he₁, rfl⟩ _ ⟨e₂, he₂, rfl⟩ heq
      obtain ⟨k₁, hp₁⟩ := hat x (.head _) e₁ he₁
      obtain ⟨y, hy, he₂y⟩ := List.mem_flatMap.mp he₂
      obtain ⟨k₂, hp₂⟩ := hat y (.tail _ hy) e₂ he₂y
      rw [hp₁, hp₂] at heq
      simp only [Path.component, List.cons.injEq, PathStep.key.injEq] at heq
      exact hx (heq.2.1 ▸ List.mem_map_of_mem hy)
    · rcases List.mem_append.mp he with he | he
      · obtain ⟨k, hpk⟩ := hat x (.head _) e he
        exact ⟨x.1, k, hp x.1 (.head _), hpk⟩
      · exact hmat e he

/-- The checks of `info`, with the owner's check at `op` below `owner`: tidy, and only the check of
the name itself reports at the name. -/
theorem Info.sites_tidy {path : Path} (r : Info) {V E O : List FieldError} {op : Path}
    (hV : Site (path ++ [.key "version"]) V) (hVp : V ≠ [] → isPresent r.identity.version = true)
    (hE : Site (path ++ [.key "entityType"]) E) (hO : Site op O)
    (hop : ∃ q, op = path ++ .key "owner" :: q ∧ ∀ t ∈ q, t.Plain) :
    Tidy path (require r.identity.fullyQualifiedName (path ++ [.key "fullyQualifiedName"]) ++
        (require r.identity.name (path ++ [.key "name"]) ++
          (require r.identity.version (path ++ [.key "version"]) ++
            (require r.domain (path ++ [.key "domain"]) ++ (O ++ (V ++ E)))))) ∧
      ∀ e ∈ require r.identity.fullyQualifiedName (path ++ [.key "fullyQualifiedName"]) ++
          (require r.identity.name (path ++ [.key "name"]) ++
            (require r.identity.version (path ++ [.key "version"]) ++
              (require r.domain (path ++ [.key "domain"]) ++ (O ++ (V ++ E))))),
        e.path = path ++ [.key "fullyQualifiedName"] → isPresent r.identity.fullyQualifiedName = false := by
  obtain ⟨q, rfl, hq⟩ := hop
  rw [show ∀ a b c d o f g : List FieldError, a ++ (b ++ (c ++ (d ++ (o ++ (f ++ g))))) =
    [(path ++ [.key "fullyQualifiedName"], a), (path ++ [.key "name"], b),
      (path ++ [.key "version"], c), (path ++ [.key "domain"], d), (path ++ .key "owner" :: q, o),
      (path ++ [.key "version"], f), (path ++ [.key "entityType"], g)].flatMap Prod.snd
    from fun _ _ _ _ _ _ _ => by simp]
  have hs : ∀ x ∈ [(path ++ [.key "fullyQualifiedName"], require r.identity.fullyQualifiedName
      (path ++ [.key "fullyQualifiedName"])), (path ++ [.key "name"], require r.identity.name
      (path ++ [.key "name"])), (path ++ [.key "version"], require r.identity.version
      (path ++ [.key "version"])), (path ++ [.key "domain"], require r.domain (path ++ [.key "domain"])),
      (path ++ .key "owner" :: q, O), (path ++ [.key "version"], V), (path ++ [.key "entityType"], E)],
      Site x.1 x.2 := by
    simp only [List.mem_cons, List.not_mem_nil, or_false, forall_eq_or_imp, forall_eq]
    exact ⟨require_site _ _, require_site _ _, require_site _ _, require_site _ _, hO, hV, hE⟩
  refine ⟨tidy_of_sites _ hs ?_ ?_, fun e he hp => ?_⟩
  · simp only [List.mem_cons, List.not_mem_nil, or_false, forall_eq_or_imp, forall_eq]
    refine ⟨⟨_, [], rfl, by decide⟩, ⟨_, [], rfl, by decide⟩, ⟨_, [], rfl, by decide⟩,
      ⟨_, [], rfl, by decide⟩, ⟨_, q, rfl, by decide, hq⟩, ⟨_, [], rfl, by decide⟩,
      ⟨_, [], rfl, by decide⟩⟩
  · -- a missing version is no invalid one; the owner's path is no other field's
    simp [List.pairwise_cons]
    exact eq_nil_of_require_ne_nil hVp
  · obtain ⟨x, hx, hex, hpx⟩ := exists_site_of_mem hs he
    simp only [List.mem_cons, List.not_mem_nil, or_false] at hx
    -- only the check of the name itself reports at the name
    rw [hp] at hpx
    rcases hx with rfl | rfl | rfl | rfl | rfl | rfl | rfl
    · exact isPresent_of_require_ne_nil (List.ne_nil_of_mem hex)
    all_goals simp at hpx

/-! ## Every walker keeps its errors tidy

In a mode that checks. Each proof unfolds the walker, writes its errors as the node's own checks
field by field, then its children key by key, and cites the lemmas of the checks and children. -/

section Walkers

variable {m : Mode} (hm : m.validates = true) (path : Path) (P : Option String)
include hm

theorem StandardDefinition.tidy (d : StandardDefinition) :
    Tidy path (StandardDefinition.walk ⟨m, path, P⟩ d).errors := by
  dsimp only [StandardDefinition.walk, Report.errors_bind, Report.errors_pure]
  obtain ⟨V, E, hc, hV, -, hE⟩ := Identity.check_sites d.identity DefinitionKind.api.entityType path
  rw [Scope.identity_errors, hc]
  simp only [Scope.errors_check, hm, ↓reduceIte, Bool.true_and, List.append_assoc, List.append_nil]
  rw [show ∀ a b c d e : List FieldError, a ++ (b ++ (c ++ (d ++ e))) =
    [("specification", a), ("definition", b), ("version", c), ("entityType", d),
      ("fullyQualifiedName", e)].flatMap Prod.snd from fun _ _ _ _ _ => by simp]
  refine (tidy_of_fields _ ?_ (by simp only [List.map_cons, List.map_nil]; decide) (by simp)).1
  simp only [List.mem_cons, List.not_mem_nil, or_false, forall_eq_or_imp, forall_eq]
  exact ⟨require_site _ _, Site.ite (site_nil _) (site_singleton _), hV, hE,
    Scope.extraction_site _ _ _⟩

theorem Promises.tidy (r : Promises) : Tidy path (Promises.walk ⟨m, path, P⟩ r).errors := by
  dsimp only [Promises.walk, Report.errors_bind, Report.errors_pure, Scope.child]
  simp only [List.append_nil]
  rw [show ∀ a b c : List FieldError, a ++ (b ++ c) =
    [("api", a), ("deprecationPolicy", b), ("slo", c)].flatMap Prod.snd from fun _ _ _ => by simp]
  refine (tidy_of_children _ ?_ (by simp only [List.map_cons, List.map_nil]; decide) (by simp only [List.map_cons, List.map_nil]; decide)).1
  simp only [List.mem_cons, List.not_mem_nil, or_false, forall_eq_or_imp, forall_eq]
  exact ⟨Tidy.walkOption (StandardDefinition.tidy hm _ P) _,
    Tidy.walkOption (StandardDefinition.tidy hm _ P) _, Tidy.walkOption (StandardDefinition.tidy hm _ P) _⟩

theorem Expectations.tidy (r : Expectations) : Tidy path (Expectations.walk ⟨m, path, P⟩ r).errors := by
  dsimp only [Expectations.walk, Report.errors_bind, Report.errors_pure, Scope.child]
  simp only [List.append_nil]
  rw [show ∀ a b : List FieldError, a ++ b =
    [("audience", a), ("usage", b)].flatMap Prod.snd from fun _ _ => by simp]
  refine (tidy_of_children _ ?_ (by simp only [List.map_cons, List.map_nil]; decide) (by simp only [List.map_cons, List.map_nil]; decide)).1
  simp only [List.mem_cons, List.not_mem_nil, or_false, forall_eq_or_imp, forall_eq]
  exact ⟨Tidy.walkOption (StandardDefinition.tidy hm _ P) _,
    Tidy.walkOption (StandardDefinition.tidy hm _ P) _⟩

theorem Obligations.tidy (r : Obligations) : Tidy path (Obligations.walk ⟨m, path, P⟩ r).errors := by
  dsimp only [Obligations.walk, Report.errors_bind, Report.errors_pure, Scope.child]
  simp only [List.append_nil]
  rw [show ∀ a b c : List FieldError, a ++ (b ++ c) =
    [("termsAndConditions", a), ("billingPolicy", b), ("sla", c)].flatMap Prod.snd
    from fun _ _ _ => by simp]
  refine (tidy_of_children _ ?_ (by simp only [List.map_cons, List.map_nil]; decide) (by simp only [List.map_cons, List.map_nil]; decide)).1
  simp only [List.mem_cons, List.not_mem_nil, or_false, forall_eq_or_imp, forall_eq]
  exact ⟨Tidy.walkOption (StandardDefinition.tidy hm _ P) _,
    Tidy.walkOption (StandardDefinition.tidy hm _ P) _, Tidy.walkOption (StandardDefinition.tidy hm _ P) _⟩

theorem Port.tidy (kind : PortKind) (seen : List String) (p : Port) :
    Tidy path (Port.walk kind ⟨m, path, P⟩ seen p).errors := by
  dsimp only [Port.walk, Report.errors_bind, Report.errors_pure, Scope.child]
  obtain ⟨V, E, hc, hV, hVp, hE⟩ := Identity.check_sites p.identity kind.entityType path
  rw [Scope.identity_errors, hc]
  simp only [Scope.errors_check, hm, ↓reduceIte, Bool.true_and, List.append_assoc, List.append_nil]
  rw [show ∀ a b c d e f x y z : List FieldError,
    a ++ (b ++ (c ++ (d ++ (e ++ (f ++ (x ++ (y ++ z))))))) =
      [("name", a), ("version", b), ("name", c), ("version", d), ("entityType", e),
        ("fullyQualifiedName", f)].flatMap Prod.snd ++
      [("promises", x), ("expectations", y), ("obligations", z)].flatMap Prod.snd
    from fun _ _ _ _ _ _ _ _ _ => by simp]
  refine tidy_of_node _ _ (tidy_of_fields _ ?_ (by simp only [List.map_cons, List.map_nil]; decide) ?_)
    (tidy_of_children _ ?_ (by simp only [List.map_cons, List.map_nil]; decide) (by simp only [List.map_cons, List.map_nil]; decide))
  · simp only [List.mem_cons, List.not_mem_nil, or_false, forall_eq_or_imp, forall_eq]
    exact ⟨require_site _ _, require_site _ _, duplicateName_site _ _ _ _, hV, hE,
      Scope.extraction_site _ _ _⟩
  · -- a missing name is no duplicate, and a missing version no invalid one
    simp [List.pairwise_cons]
    exact ⟨eq_nil_of_require_ne_nil isPresent_of_duplicateName_ne_nil, eq_nil_of_require_ne_nil hVp⟩
  · simp only [List.mem_cons, List.not_mem_nil, or_false, forall_eq_or_imp, forall_eq]
    exact ⟨Tidy.walkOption (Promises.tidy hm _ P) _, Tidy.walkOption (Expectations.tidy hm _ P) _,
      Tidy.walkOption (Obligations.tidy hm _ P) _⟩

theorem InterfaceComponents.tidy (r : InterfaceComponents) :
    Tidy path (InterfaceComponents.walk ⟨m, path, P⟩ r).errors := by
  have hps (k : PortKind) (ps : List Port) : Tidy (path ++ [.key k.collection])
      (walkItems (Port.walk k) (·.identity.name) ⟨m, path ++ [.key k.collection], P⟩ ps 0 []).errors :=
    (@tidy_walkItems _ (Port.walk k) (·.identity.name) ⟨m, path ++ [.key k.collection], P⟩
      (fun i seen p => Port.tidy hm _ P k seen p) ps 0 []).1
  dsimp only [InterfaceComponents.walk, Report.errors_bind, Report.errors_pure, Scope.child]
  simp only [Scope.errors_check, hm, ↓reduceIte, List.append_nil]
  rw [show ∀ a b c d e f : List FieldError, a ++ (b ++ (c ++ (d ++ (e ++ f)))) =
    [("outputPorts", a)].flatMap Prod.snd ++
      [(PortKind.input.collection, b), (PortKind.output.collection, c),
        (PortKind.discovery.collection, d), (PortKind.observability.collection, e),
        (PortKind.control.collection, f)].flatMap Prod.snd
    from fun _ _ _ _ _ _ => by simp]
  -- missing output ports are reported at `outputPorts`, one step above the output ports' errors
  refine tidy_of_node _ _ (tidy_of_fields _ ?_ (by simp only [List.map_cons, List.map_nil]; decide)
    (by simp)) (tidy_of_children _ ?_ (by simp only [List.map_cons, List.map_nil]; decide)
    (by simp only [List.map_cons, List.map_nil]; decide))
  · simp only [List.mem_cons, List.not_mem_nil, or_false, forall_eq]
    exact Site.ite (site_nil _) (site_singleton _)
  · simp only [List.mem_cons, List.not_mem_nil, or_false, forall_eq_or_imp, forall_eq]
    exact ⟨hps _ _, Tidy.walkOption (hps _) _, hps _ _, hps _ _, hps _ _⟩

theorem Component.tidy (kind : ComponentKind) (seen : List String) (c : Component) :
    Tidy path (Component.walk kind ⟨m, path, P⟩ seen c).errors := by
  dsimp only [Component.walk, Report.errors_bind, Report.errors_pure]
  obtain ⟨V, E, hc, hV, -, hE⟩ := Identity.check_sites c.identity kind.entityType path
  rw [Scope.identity_errors, hc]
  simp only [Scope.errors_check, hm, ↓reduceIte, Bool.true_and, List.append_assoc, List.append_nil]
  rw [show ∀ a b d e f : List FieldError, a ++ (b ++ (d ++ (e ++ f))) =
    [("name", a), ("name", b), ("version", d), ("entityType", e),
      ("fullyQualifiedName", f)].flatMap Prod.snd from fun _ _ _ _ _ => by simp]
  refine (tidy_of_fields _ ?_ (by simp only [List.map_cons, List.map_nil]; decide) ?_).1
  · simp only [List.mem_cons, List.not_mem_nil, or_false, forall_eq_or_imp, forall_eq]
    exact ⟨require_site _ _, duplicateName_site _ _ _ _, hV, hE, Scope.extraction_site _ _ _⟩
  · -- a missing name is no duplicate
    simp [List.pairwise_cons]
    exact eq_nil_of_require_ne_nil isPresent_of_duplicateName_ne_nil

theorem InternalComponents.tidy (r : InternalComponents) :
    Tidy path (InternalComponents.walk ⟨m, path, P⟩ r).errors := by
  have hcs (k : ComponentKind) (cs : List Component) : Tidy (path ++ [.key k.collection])
      (walkItems (Component.walk k) (·.identity.name) ⟨m, path ++ [.key k.collection], P⟩ cs 0
        []).errors :=
    (@tidy_walkItems _ (Component.walk k) (·.identity.name) ⟨m, path ++ [.key k.collection], P⟩
      (fun i seen c => Component.tidy hm _ P k seen c) cs 0 []).1
  dsimp only [InternalComponents.walk, Report.errors_bind, Report.errors_pure, Scope.child]
  rw [List.append_nil, show ∀ a b : List FieldError, a ++ b =
    [(ComponentKind.application.collection, a),
      (ComponentKind.infrastructural.collection, b)].flatMap Prod.snd from fun _ _ => by simp]
  refine (tidy_of_children _ ?_ (by simp only [List.map_cons, List.map_nil]; decide)
    (by simp only [List.map_cons, List.map_nil]; decide)).1
  simp only [List.mem_cons, List.not_mem_nil, or_false, forall_eq_or_imp, forall_eq]
  exact ⟨hcs _ _, hcs _ _⟩

omit hm in
/-- The data product's name is never derived, so filling `info` never fails. -/
theorem Info.fill_snd (i : Identity) : (i.fill dataProductEntityType fun _ => none).2 = none := by
  rw [Identity.fill_snd fun _ => rfl]
  split <;> rfl

/-- The checks of `info`, and an error at its `fullyQualifiedName` only when that name is missing,
which is what sets it apart from the comparison with the expected name. -/
theorem Info.tidy (r : Info) :
    Tidy path (Info.walk ⟨m, path, P⟩ r).errors ∧
      ∀ e ∈ (Info.walk ⟨m, path, P⟩ r).errors, e.path = path ++ [.key "fullyQualifiedName"] →
        isPresent r.identity.fullyQualifiedName = false := by
  dsimp only [Info.walk, Report.errors_bind, Report.errors_pure, Scope.field]
  obtain ⟨V, E, hc, hV, hVp, hE⟩ := Identity.check_sites r.identity dataProductEntityType path
  rw [Scope.identity_errors, hc, Info.fill_snd]
  simp only [Scope.errors_check, hm, ↓reduceIte, Bool.true_and, List.append_assoc, List.append_nil,
    Option.map_none, Option.toList_none, ite_self]
  -- a missing owner is reported at `owner`, a present one at its `id`
  cases r.owner with
  | none => exact Info.sites_tidy r hV hVp hE (site_singleton _) ⟨[], by simp, by simp⟩
  | some o => exact Info.sites_tidy r hV hVp hE (require_site _ _) ⟨[.key "id"], by simp, by decide⟩

/-- The keys of the reusable components are reported at distinct paths under `components`. -/
theorem Components.keys_sites (r : Components) :
    ((Components.walk ⟨m, [.key "components"], P⟩ r).errors.map FieldError.path).Nodup ∧
      ∀ e ∈ (Components.walk ⟨m, [.key "components"], P⟩ r).errors,
        ∃ name k, (PathStep.key name).Plain ∧ e.path = Path.component name k := by
  rw [Components.walk_eq]
  dsimp only [Report.errors_bind, Report.errors_pure, Scope.field]
  simp only [Scope.errors_check, hm, ↓reduceIte, List.append_nil]
  refine componentMaps_sites r.maps ?_ ?_ <;>
    simp only [Components.maps, List.map_cons, List.map_nil] <;> decide

end Walkers

/-! ## The whole walk -/

/-- The walk's comparison of the data product's name with the expected one. -/
def Descriptor.mismatch (d : Descriptor) (expected : Option String) : List FieldError :=
  match d.productFqn, expected with
  | some actual, some e =>
    if actual = e then []
    else [⟨[.key "info", .key "fullyQualifiedName"], .fqnMismatch, "Fully qualified name '" ++
      actual ++ "' does not match expected '" ++ e ++ "'"⟩]
  | _, _ => []

/-- The comparison reports at most once, at the data product's name, and only when `info` has
that name. -/
theorem Descriptor.mismatch_site (d : Descriptor) (e : Option String) :
    Site [.key "info", .key "fullyQualifiedName"] (d.mismatch e) ∧
      ∀ err ∈ d.mismatch e, ∃ i, d.info = some i ∧ isPresent i.identity.fullyQualifiedName = true := by
  unfold Descriptor.mismatch
  split
  · rename_i actual expected hp
    split
    · exact ⟨site_nil _, by simp⟩
    · refine ⟨site_singleton _, fun _ _ => ?_⟩
      unfold Descriptor.productFqn at hp
      split at hp
      · exact ⟨_, ‹_›, (isPresent_iff _).mpr ⟨actual, hp⟩⟩
      · cases hp
  · exact ⟨site_nil _, by simp⟩

/-- Errors at distinct paths, each of which its text gives back. -/
structure Placed (es : List FieldError) : Prop where
  nodup : (es.map FieldError.path).Nodup
  readable : ∀ e ∈ es, e.path.Readable

theorem Placed.perm {es es' : List FieldError} (h : Placed es') (hp : es.Perm es') : Placed es :=
  ⟨((hp.map _).nodup_iff).mpr h.nodup, fun e he => h.readable e (hp.mem_iff.mp he)⟩

/-- No two errors at readable paths share the text of their paths. -/
theorem Placed.render_nodup {es : List FieldError} (h : Placed es) :
    (es.map fun e => e.path.render).Nodup := by
  have hn : es.Pairwise fun a b => a.path ≠ b.path := List.pairwise_map.mp h.nodup
  refine List.pairwise_map.mpr (hn.imp_of_mem fun ha hb hne heq => hne ?_)
  exact Path.render_inj_of_readable (h.readable _ ha) (h.readable _ hb) heq

/-- Errors below the root outside `components`, then errors of the components' keys. -/
theorem placed_of_tidy {T C : List FieldError} (ht : Tidy [] T)
    (hh : ∀ e ∈ T, e.path.head? ≠ some (.key "components"))
    (hc : (C.map FieldError.path).Nodup ∧
      ∀ e ∈ C, ∃ name k, (PathStep.key name).Plain ∧ e.path = Path.component name k) :
    Placed (T ++ C) := by
  refine ⟨?_, fun e he => ?_⟩
  · rw [List.map_append, List.nodup_append]
    refine ⟨ht.nodup, hc.1, ?_⟩
    simp only [List.mem_map]
    rintro _ ⟨e₁, he₁, rfl⟩ _ ⟨e₂, he₂, rfl⟩ heq
    obtain ⟨name, k, -, hp⟩ := hc.2 e₂ he₂
    exact hh e₁ he₁ (by rw [heq, hp]; rfl)
  · rcases List.mem_append.mp he with he | he
    · obtain ⟨s, q, hp, hq⟩ := ht.below e he
      exact .inl ⟨by rw [hp]; exact hq, hh e he⟩
    · obtain ⟨name, k, hn, hp⟩ := hc.2 e he
      exact .inr ⟨name, k, hn, hp⟩

section Root

variable {m : Mode} (hm : m.validates = true)
include hm

/-- The errors of `info`, with the comparison of its name, are below `info`: the comparison is made
only on a present name, and `info` reports at its name only when it is missing. -/
theorem Descriptor.info_tidy (d : Descriptor) (e : Option String) :
    Tidy [.key "info"]
      (d.mismatch e ++ (walkOption (Info.walk ⟨m, [.key "info"], d.productFqn⟩) d.info).errors) := by
  obtain ⟨hs, hp⟩ := d.mismatch_site e
  have hM : Tidy [.key "info"] (d.mismatch e) :=
    ⟨hs.nodup, fun err he => ⟨.key "fullyQualifiedName", [], by rw [hs.2 err he]; rfl, by decide⟩⟩
  cases hi : d.info with
  | none => simpa using hM
  | some i =>
    obtain ⟨ht, hfqn⟩ := Info.tidy hm [.key "info"] d.productFqn i
    rw [errors_walkOption_some]
    refine hM.append ht fun e₁ he₁ e₂ he₂ heq => ?_
    obtain ⟨i', hi', hpres⟩ := hp e₁ he₁
    rw [hi, Option.some.injEq] at hi'
    subst hi'
    have := hfqn e₂ he₂ (by rw [← heq, hs.2 e₁ he₁]; rfl)
    rw [hpres] at this
    exact Bool.noConfusion this

/-- Every error of a checking walk is at a path its text gives back, and no two are at the same
path. -/
theorem Descriptor.placed (d : Descriptor) (e : Option String) : Placed (d.walk m e).errors := by
  dsimp only [Descriptor.walk, Report.errors_bind, Report.errors_pure, Scope.child]
  simp only [Scope.errors_check, hm, ↓reduceIte, List.append_nil, List.nil_append]
  show Placed ((d.mismatch e ++ _ ++ _) ++ _)
  -- the root's own checks, its children with the comparison of the name put with `info`, and last
  -- the keys of the reusable components
  refine Placed.perm ?_ ((show ∀ M R A B I X Y C : List FieldError,
      List.Perm (M ++ R ++ (A ++ B) ++ (I ++ (X ++ (Y ++ C))))
        (([("dataProductDescriptor", R), ("info", A), ("interfaceComponents", B)].flatMap Prod.snd ++
          [("info", M ++ I), ("interfaceComponents", X),
            ("internalComponents", Y)].flatMap Prod.snd) ++ C)
    from fun M R A B I X Y C => by
      simpa only [List.flatMap_cons, List.flatMap_nil, List.append_nil, List.append_assoc] using
        List.perm_append_comm_assoc M (R ++ (A ++ B)) (I ++ (X ++ (Y ++ C)))) _ _ _ _ _ _ _ _)
  have hf : ∀ x ∈ [("dataProductDescriptor", require d.dataProductDescriptor
      [.key "dataProductDescriptor"]), ("info", if d.info.isSome = true then [] else
      [⟨[.key "info"], .missingRequiredField, missingMessage⟩]), ("interfaceComponents",
      if d.interfaceComponents.isSome = true then [] else
      [⟨[.key "interfaceComponents"], .missingRequiredField, missingMessage⟩])],
      Site ([] ++ [.key x.1]) x.2 := by
    simp only [List.mem_cons, List.not_mem_nil, or_false, forall_eq_or_imp, forall_eq]
    exact ⟨require_site _ _, Site.ite (site_nil _) (site_singleton _),
      Site.ite (site_nil _) (site_singleton _)⟩
  have hc : ∀ x ∈ [("info", d.mismatch e ++
      (walkOption (Info.walk ⟨m, [.key "info"], d.productFqn⟩) d.info).errors),
      ("interfaceComponents", (walkOption (InterfaceComponents.walk
        ⟨m, [.key "interfaceComponents"], d.productFqn⟩) d.interfaceComponents).errors),
      ("internalComponents", (walkOption (InternalComponents.walk
        ⟨m, [.key "internalComponents"], d.productFqn⟩) d.internalComponents).errors)],
      Tidy ([] ++ [.key x.1]) x.2 := by
    simp only [List.mem_cons, List.not_mem_nil, or_false, forall_eq_or_imp, forall_eq]
    exact ⟨d.info_tidy hm e, Tidy.walkOption (InterfaceComponents.tidy hm _ _) _,
      Tidy.walkOption (InternalComponents.tidy hm _ _) _⟩
  refine placed_of_tidy (tidy_of_node _ _ (tidy_of_fields _ hf
    (by simp only [List.map_cons, List.map_nil]; decide) (by simp))
    (tidy_of_children _ hc (by simp only [List.map_cons, List.map_nil]; decide)
      (by simp only [List.map_cons, List.map_nil]; decide))) (fun err he => ?_) ?_
  · -- the root's fields and children are named other than `components`
    obtain ⟨n, hn, q, hp⟩ := key_of_node hf hc err he
    rw [hp, List.nil_append, List.head?_cons, ne_eq, Option.some.injEq, PathStep.key.injEq]
    simp only [List.map_cons, List.map_nil, List.cons_append, List.nil_append, List.mem_cons,
      List.not_mem_nil, or_false] at hn
    rcases hn with rfl | rfl | rfl | rfl | rfl | rfl <;> decide
  · cases hc : d.components with
    | none => exact ⟨List.nodup_nil, by simp⟩
    | some c =>
      rw [errors_walkOption_some]
      exact Components.keys_sites hm _ c

end Root

/-- No two errors of a run are reported at the same field: the texts of their paths are pairwise
distinct, in every mode and whatever the expected name. -/
theorem error_paths_distinct (d : Descriptor) (m : Mode) (e : Option String) :
    ∃ r, Registry.run (some d) m e = .ok r ∧ (r.errors.map fun err => err.path.render).Nodup := by
  refine ⟨d.walk m e, rfl, ?_⟩
  cases m with
  | validateOnly => exact (Descriptor.placed rfl d e).render_nodup
  | validateAndGenerate => exact (Descriptor.placed rfl d e).render_nodup
  | generateOnly =>
    rw [Descriptor.errors_generateOnly]
    exact List.nodup_nil

end DataProduct
