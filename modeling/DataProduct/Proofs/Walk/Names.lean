import DataProduct.Proofs.Walk.Fill
import DataProduct.Proofs.Walk.Modes
import DataProduct.Proofs.Walk.Valid
import DataProduct.Proofs.PathText

/-!
# The names a walk derives are distinct

A combined walk that reports nothing gives each node it names a name of its own, with one
exception: two standard definitions with the same name and version get the same name, as they
should. None of the names it derives is the data product's, and the identifiers derived from those
names are as distinct as the names, short of a collision of the hash behind them.

Names are joined with `:`, which is not injective by itself. Three facts make it so here. A child
of the data product is named `product:segment:name`, and no segment has a `:`, so the text after
the product's name gives back the segment, hence the kind of node, and then the node's name. A
standard definition is named `ns:apis:name:version`, where `ns` is the text of the product's name
before its first `:dataproducts:`, so its name never begins like a child's; and a semantic version
has no `:`, so the last `:` of the name ends the definition's own name. Within one collection of
ports, and within one kind of component, names do not repeat in a descriptor the check accepts.

* `SemVer.colon_not_mem`: a semantic version has no `:`;
* `Place.derive_inj`: the name a place derives gives back the place, the node's name and, for a
  definition, its version;
* `Descriptor.named`: the nodes below the data product with their places, and what filling does
  to them (`Descriptor.named_generated`);
* `derivedNames`: the nodes whose name a walk filled in;
* `generated_names_distinct`: the names and identifiers a combined walk derives are distinct.
-/

namespace DataProduct

/-! ## Semantic versions have no colon -/

namespace SemVer

theorem mem_splitFirst (c : Char) {x : Char} {l : List Char} (h : x ∈ l) :
    x = c ∨ x ∈ (splitFirst c l).1 ∨ ∃ r, (splitFirst c l).2 = some r ∧ x ∈ r := by
  induction l with
  | nil => cases h
  | cons d ds ih =>
    simp only [splitFirst]
    split
    · rename_i hd
      rcases List.mem_cons.mp h with rfl | h
      · exact .inl (beq_iff_eq.mp hd)
      · exact .inr (.inr ⟨ds, rfl, h⟩)
    · rcases List.mem_cons.mp h with rfl | h
      · exact .inr (.inl (.head _))
      · rcases ih h with h | h | h
        · exact .inl h
        · exact .inr (.inl (.tail _ h))
        · exact .inr (.inr h)

/-- A character of a text split at `sep` is `sep` or in one of the pieces. -/
theorem mem_splitOn (sep : Char) {x : Char} {l : List Char} (h : x ∈ l) :
    x = sep ∨ ∃ piece ∈ l.splitOn sep, x ∈ piece := by
  have hl : [sep].intercalate (l.splitOn sep) = l := List.intercalate_splitOn sep
  rw [← hl] at h
  generalize l.splitOn sep = ps at h
  induction ps with
  | nil => cases h
  | cons p ps ih =>
    cases ps with
    | nil => exact .inr ⟨p, .head _, by simpa using h⟩
    | cons q qs =>
      rw [List.intercalate_cons_cons] at h
      simp only [List.mem_append, List.mem_singleton] at h
      rcases h with (h | h) | h
      · exact .inr ⟨p, .head _, h⟩
      · exact .inl h
      · rcases ih h with h | ⟨r, hr, hx⟩
        · exact .inl h
        · exact .inr ⟨r, .tail _ hr, hx⟩

theorem isDigit_of_isNumeric {s : List Char} (h : isNumeric s = true) : ∀ x ∈ s, x.isDigit = true := by
  unfold isNumeric at h
  split at h
  · simp
  · rename_i c cs _
    simp only [Bool.and_eq_true, List.all_eq_true] at h
    rintro x (_ | ⟨_, hx⟩)
    · exact h.1.1
    · exact h.2 x hx
  · cases h

theorem isIdentChar_of_isDigit {x : Char} (h : x.isDigit = true) : isIdentChar x = true := by
  simp [isIdentChar, Char.isAlphanum, h]

theorem isIdentChar_of_isPreRelease {s : List Char} (h : isPreRelease s = true) :
    ∀ x ∈ s, isIdentChar x = true := by
  unfold isPreRelease at h
  simp only [Bool.or_eq_true, Bool.and_eq_true, List.all_eq_true] at h
  rcases h with h | ⟨⟨-, h⟩, -⟩
  · exact fun x hx => isIdentChar_of_isDigit (isDigit_of_isNumeric h x hx)
  · exact h

theorem isIdentChar_of_isBuild {s : List Char} (h : isBuild s = true) :
    ∀ x ∈ s, isIdentChar x = true := by
  unfold isBuild at h
  simp only [Bool.and_eq_true, List.all_eq_true] at h
  exact h.2

/-- The characters of a dotted list whose members are made of `ok` characters. -/
theorem mem_dotted {ok : List Char → Bool} {good : Char → Prop}
    (hok : ∀ s, ok s = true → ∀ x ∈ s, good x) {s : List Char} (h : dotted ok s = true) :
    ∀ x ∈ s, x = '.' ∨ good x := by
  intro x hx
  rcases mem_splitOn '.' hx with h' | ⟨piece, hp, hxp⟩
  · exact .inl h'
  · exact .inr (hok piece (List.all_eq_true.mp h piece hp) x hxp)

theorem mem_isCore {s : List Char} (h : isCore s = true) : ∀ x ∈ s, x = '.' ∨ x.isDigit = true := by
  intro x hx
  unfold isCore at h
  split at h
  · rename_i a b c hs
    simp only [Bool.and_eq_true] at h
    rcases mem_splitOn '.' hx with h' | ⟨piece, hp, hxp⟩
    · exact .inl h'
    · rw [hs] at hp
      simp only [List.mem_cons, List.not_mem_nil, or_false] at hp
      rcases hp with rfl | rfl | rfl
      · exact .inr (isDigit_of_isNumeric h.1.1 x hxp)
      · exact .inr (isDigit_of_isNumeric h.1.2 x hxp)
      · exact .inr (isDigit_of_isNumeric h.2 x hxp)
  · cases h

/-- A semantic version is made of letters, digits, `.`, `-` and `+`. -/
theorem mem_of_accepts {v : String} (h : accepts v = true) :
    ∀ x ∈ v.toList, isIdentChar x = true ∨ x = '.' ∨ x = '+' := by
  unfold accepts acceptsChars at h
  rcases hs : splitFirst '+' v.toList with ⟨main, build⟩
  rcases hc : splitFirst '-' main with ⟨core, pre⟩
  simp only [hs, hc, Bool.and_eq_true] at h
  obtain ⟨⟨hcore, hpre⟩, hbuild⟩ := h
  intro x hx
  -- the build part after the first `+`, then the pre-release part after the first `-`
  rcases mem_splitFirst '+' hx with rfl | hx | ⟨b, hb, hx⟩
  · exact .inr (.inr rfl)
  · rw [hs] at hx
    rcases mem_splitFirst '-' hx with rfl | hx | ⟨p, hp, hx⟩
    · exact .inl (by decide)
    · rw [hc] at hx
      rcases mem_isCore hcore x hx with h | h
      · exact .inr (.inl h)
      · exact .inl (isIdentChar_of_isDigit h)
    · rw [hc] at hp
      subst hp
      rcases mem_dotted (fun _ => isIdentChar_of_isPreRelease) hpre x hx with h | h
      · exact .inr (.inl h)
      · exact .inl h
  · rw [hs] at hb
    subst hb
    rcases mem_dotted (fun _ => isIdentChar_of_isBuild) hbuild x hx with h | h
    · exact .inr (.inl h)
    · exact .inl h

theorem colon_not_mem {v : String} (h : accepts v = true) : ':' ∉ v.toList := fun hx => by
  rcases mem_of_accepts h ':' hx with h | h | h <;> revert h <;> decide

end SemVer

/-! ## Places and the names they derive -/

/-- Where a node below the data product stands, which says how its name is derived. -/
inductive Place where
  | port (kind : PortKind)
  | component (kind : ComponentKind)
  | definition
  deriving DecidableEq, Repr

namespace Place

/-- The entity type of the nodes at a place. -/
def entityType : Place → String
  | .port k => k.entityType
  | .component k => k.entityType
  | .definition => DefinitionKind.api.entityType

/-- The segment of the names derived at a place. -/
def segment : Place → String
  | .port k => k.segment
  | .component k => k.segment
  | .definition => "apis"

/-- The name a node at a place derives in the data product named `product`. -/
def derive (product : Option String) (pl : Place) (i : Identity) : Option String :=
  match pl with
  | .definition => definitionNameOf product i.name i.version
  | _ => childName product pl.segment i.name

/-- A node's identity as filling leaves it. -/
def fill (product : Option String) (x : Place × Identity) : Place × Identity :=
  (x.1, x.2.filled x.1.entityType (x.1.derive product x.2))

theorem colon_not_mem_segment (pl : Place) : ':' ∉ pl.segment.toList := by
  cases pl with
  | port k => cases k <;> decide
  | component k => cases k <;> decide
  | definition => decide

/-- The seven kinds of children of the data product have seven segments. -/
theorem segment_inj {pl₁ pl₂ : Place} (h₁ : pl₁ ≠ .definition) (h₂ : pl₂ ≠ .definition)
    (h : pl₁.segment = pl₂.segment) : pl₁ = pl₂ := by
  cases pl₁ with
  | port k₁ => cases pl₂ with
    | port k₂ => cases k₁ <;> cases k₂ <;> first | rfl | (revert h; decide)
    | component k₂ => cases k₁ <;> cases k₂ <;> revert h <;> decide
    | definition => exact absurd rfl h₂
  | component k₁ => cases pl₂ with
    | port k₂ => cases k₁ <;> cases k₂ <;> revert h <;> decide
    | component k₂ => cases k₁ <;> cases k₂ <;> first | rfl | (revert h; decide)
    | definition => exact absurd rfl h₂
  | definition => exact absurd rfl h₁

end Place

/-! ## The shapes of derived names -/

theorem Identity.before_eq_some {m l ns : List Char} (h : Identity.before m l = some ns) :
    ∃ rest, l = ns ++ m ++ rest := by
  induction l generalizing ns with
  | nil =>
    unfold Identity.before at h
    split at h
    · rename_i hm
      cases h
      exact ⟨[], by simpa using hm⟩
    · cases h
  | cons c cs ih =>
    unfold Identity.before at h
    split at h
    · rename_i hm
      cases h
      obtain ⟨rest, hr⟩ := List.isPrefixOf_iff_prefix.mp hm
      exact ⟨rest, by simp [hr]⟩
    · obtain ⟨ns', hns, rfl⟩ := Option.map_eq_some_iff.mp h
      obtain ⟨rest, hr⟩ := ih hns
      exact ⟨rest, by simp [hr]⟩

/-- The data product's name is its mesh namespace, the marker, and the rest. -/
theorem Identity.meshNamespace_eq_ok {p ns : String} (h : Identity.meshNamespace p = .ok ns) :
    ∃ rest, p.toList = ns.toList ++ Identity.marker.toList ++ rest := by
  unfold Identity.meshNamespace at h
  split at h
  · rename_i ns' hb
    cases h
    rw [String.toList_ofList]
    exact Identity.before_eq_some hb
  · cases h

theorem childName_eq_some {product name : Option String} {seg f : String}
    (h : childName product seg name = some f) :
    ∃ p n, present product = some p ∧ present name = some n ∧ f = p ++ ":" ++ seg ++ ":" ++ n := by
  unfold childName at h
  split at h
  · rename_i p n hp hn
    exact ⟨p, n, hp, hn, (Option.some.inj h).symm⟩
  · cases h

theorem definitionNameOf_eq_some {product name version : Option String} {f : String}
    (h : definitionNameOf product name version = some f) :
    ∃ p ns n v, present product = some p ∧ Identity.meshNamespace p = .ok ns ∧
      present name = some n ∧ present version = some v ∧ f = ns ++ ":apis:" ++ n ++ ":" ++ v := by
  unfold definitionNameOf at h
  split at h
  · rename_i p n v hp hn hv
    split at h
    · rename_i ns hns
      split at h
      · cases h
      · exact ⟨p, ns, n, v, hp, hns, hn, hv, (Option.some.inj h).symm⟩
    · cases h
  · cases h

/-! ## A derived name gives back where it was derived -/

theorem toList_colon : ":".toList = [':'] := rfl

/-- A word without `:` followed by `:`: the word ends at the first `:`. -/
theorem colon_split {w₁ w₂ r₁ r₂ : List Char} (h₁ : ':' ∉ w₁) (h₂ : ':' ∉ w₂)
    (h : w₁ ++ ':' :: r₁ = w₂ ++ ':' :: r₂) : w₁ = w₂ ∧ r₁ = r₂ := by
  obtain ⟨hw, hr⟩ := @word_append_inj (· = ':') _ _ _ _ (fun c hc hc' => h₁ (hc' ▸ hc))
    (fun c hc hc' => h₂ (hc' ▸ hc)) (by simp) (by simp) h
  exact ⟨hw, (List.cons.inj hr).2⟩

/-- Children named below one data product: the segment, and then the name, are read back. -/
theorem childName_inj {product name₁ name₂ : Option String} {seg₁ seg₂ f : String}
    (hs₁ : ':' ∉ seg₁.toList) (hs₂ : ':' ∉ seg₂.toList)
    (h₁ : childName product seg₁ name₁ = some f) (h₂ : childName product seg₂ name₂ = some f) :
    seg₁ = seg₂ ∧ present name₁ = present name₂ := by
  obtain ⟨p, n₁, hp, hn₁, rfl⟩ := childName_eq_some h₁
  obtain ⟨p', n₂, hp', hn₂, hf⟩ := childName_eq_some h₂
  rw [hp, Option.some.injEq] at hp'
  subst hp'
  have hl := congrArg String.toList hf
  simp only [String.toList_append, List.append_assoc, List.append_cancel_left_eq] at hl
  obtain ⟨hs, hn⟩ := colon_split hs₁ hs₂ (by simpa using hl)
  exact ⟨String.toList_injective hs, by rw [hn₁, hn₂, String.toList_injective hn]⟩

/-- Definitions named in one data product: the version, which has no `:`, and then the name, are
read back from the end. -/
theorem definitionNameOf_inj {product name₁ name₂ version₁ version₂ : Option String} {f : String}
    (hv₁ : ∀ v, present version₁ = some v → ':' ∉ v.toList)
    (hv₂ : ∀ v, present version₂ = some v → ':' ∉ v.toList)
    (h₁ : definitionNameOf product name₁ version₁ = some f)
    (h₂ : definitionNameOf product name₂ version₂ = some f) :
    present name₁ = present name₂ ∧ present version₁ = present version₂ := by
  obtain ⟨p, ns, n₁, v₁, hp, hns, hn₁, hv₁', rfl⟩ := definitionNameOf_eq_some h₁
  obtain ⟨p', ns', n₂, v₂, hp', hns', hn₂, hv₂', hf⟩ := definitionNameOf_eq_some h₂
  rw [hp, Option.some.injEq] at hp'
  subst hp'
  rw [hns, Except.ok.injEq] at hns'
  subst hns'
  have hl := congrArg (fun s => s.toList.reverse) hf
  simp only [String.toList_append, List.append_assoc, List.reverse_append, toList_colon,
    List.reverse_cons, List.nil_append, List.cons_append] at hl
  -- read from the end: the version up to its `:`, then the name up to `:apis:`
  obtain ⟨hv, hn⟩ := colon_split (show ':' ∉ v₁.toList.reverse by simpa using hv₁ v₁ hv₁')
    (show ':' ∉ v₂.toList.reverse by simpa using hv₂ v₂ hv₂') hl
  simp only [List.append_cancel_right_eq, List.reverse_inj] at hn
  refine ⟨by rw [hn₁, hn₂, String.toList_injective hn], ?_⟩
  rw [hv₁', hv₂', String.toList_injective (List.reverse_inj.mp hv)]

/-- A definition's name begins with its namespace and `:apis:`, a child's with the same namespace
and `:dataproducts:`. -/
theorem childName_ne_definitionNameOf {product name name' version' : Option String} {seg f : String}
    (h₁ : childName product seg name = some f) (h₂ : definitionNameOf product name' version' = some f) :
    False := by
  obtain ⟨p, n, hp, -, rfl⟩ := childName_eq_some h₁
  obtain ⟨p', ns, n', v', hp', hns, -, -, hf⟩ := definitionNameOf_eq_some h₂
  rw [hp, Option.some.injEq] at hp'
  subst hp'
  obtain ⟨rest, hr⟩ := Identity.meshNamespace_eq_ok hns
  have hl := congrArg String.toList hf
  simp only [String.toList_append, hr, List.append_assoc, List.append_cancel_left_eq] at hl
  simp [Identity.marker] at hl

/-- A derived name is never the data product's own. -/
theorem Place.derive_ne_product {product : Option String} {pl : Place} {i : Identity} {f : String}
    (h : pl.derive product i = some f) : present product ≠ some f := by
  intro hpf
  cases pl with
  | definition =>
    obtain ⟨p, ns, n, v, hp, hns, -, -, rfl⟩ := definitionNameOf_eq_some h
    rw [hp, Option.some.injEq] at hpf
    obtain ⟨rest, hr⟩ := Identity.meshNamespace_eq_ok hns
    rw [hpf] at hr
    simp only [String.toList_append, List.append_assoc, List.append_cancel_left_eq] at hr
    simp [Identity.marker] at hr
  | _ =>
    obtain ⟨p, n, hp, -, rfl⟩ := childName_eq_some h
    rw [hp, Option.some.injEq] at hpf
    have hl := congrArg (fun s => s.toList.length) hpf
    simp only [String.toList_append, List.length_append, toList_colon, List.length_singleton] at hl
    omega

/-- The name a place derives gives back the place and the node's name, and for a standard
definition also its version, when versions have no `:`. -/
theorem Place.derive_inj {product : Option String} {pl₁ pl₂ : Place} {i₁ i₂ : Identity} {f : String}
    (hv₁ : ∀ v, present i₁.version = some v → ':' ∉ v.toList)
    (hv₂ : ∀ v, present i₂.version = some v → ':' ∉ v.toList)
    (h₁ : pl₁.derive product i₁ = some f) (h₂ : pl₂.derive product i₂ = some f) :
    pl₁ = pl₂ ∧ present i₁.name = present i₂.name ∧
      (pl₁ = .definition → present i₁.version = present i₂.version) := by
  by_cases hd₁ : pl₁ = .definition <;> by_cases hd₂ : pl₂ = .definition
  · subst hd₁ hd₂
    obtain ⟨hn, hv⟩ := definitionNameOf_inj hv₁ hv₂ h₁ h₂
    exact ⟨rfl, hn, fun _ => hv⟩
  · subst hd₁
    have h₂' : childName product pl₂.segment i₂.name = some f := by
      cases pl₂ <;> first | exact h₂ | exact absurd rfl hd₂
    exact (childName_ne_definitionNameOf h₂' h₁).elim
  · subst hd₂
    have h₁' : childName product pl₁.segment i₁.name = some f := by
      cases pl₁ <;> first | exact h₁ | exact absurd rfl hd₁
    exact (childName_ne_definitionNameOf h₁' h₂).elim
  · have h₁' : childName product pl₁.segment i₁.name = some f := by
      cases pl₁ <;> first | exact h₁ | exact absurd rfl hd₁
    have h₂' : childName product pl₂.segment i₂.name = some f := by
      cases pl₂ <;> first | exact h₂ | exact absurd rfl hd₂
    obtain ⟨hs, hn⟩ := childName_inj (Place.colon_not_mem_segment _) (Place.colon_not_mem_segment _)
      h₁' h₂'
    exact ⟨Place.segment_inj hd₁ hd₂ hs, hn, fun h => absurd h hd₁⟩

/-! ## The named nodes of a descriptor -/

/-- A port at its place, then the standard definitions it carries. -/
def Port.named (kind : PortKind) (p : Port) : List (Place × Identity) :=
  (.port kind, p.identity) :: p.definitions.map fun d => (.definition, d.identity)

/-- The ports of a data product, collection by collection, each followed by its definitions. -/
def InterfaceComponents.named (r : InterfaceComponents) : List (Place × Identity) :=
  PortKind.all.flatMap fun k => (r.ports k).flatMap (Port.named k)

/-- The internal components, kind by kind. -/
def InternalComponents.named (r : InternalComponents) : List (Place × Identity) :=
  ComponentKind.all.flatMap fun k => (r.components k).map fun c => (.component k, c.identity)

/-- The nodes below the data product, whose names are derived from its name. -/
def Descriptor.named (d : Descriptor) : List (Place × Identity) :=
  d.interfaceComponents.toList.flatMap InterfaceComponents.named ++
    d.internalComponents.toList.flatMap InternalComponents.named

section Generated

variable (P : Option String)

theorem Promises.definitions_generated (r : Promises) :
    (r.generated P).definitions = r.definitions.map (·.generated P) := by
  cases r with
  | mk _ _ api dp slo => cases api <;> cases dp <;> cases slo <;> rfl

theorem Expectations.definitions_generated (r : Expectations) :
    (r.generated P).definitions = r.definitions.map (·.generated P) := by
  cases r with
  | mk audience usage => cases audience <;> cases usage <;> rfl

theorem Obligations.definitions_generated (r : Obligations) :
    (r.generated P).definitions = r.definitions.map (·.generated P) := by
  cases r with
  | mk tc bp sla => cases tc <;> cases bp <;> cases sla <;> rfl

theorem Port.definitions_generated (kind : PortKind) (p : Port) :
    (p.generated P kind).definitions = p.definitions.map (·.generated P) := by
  simp only [Port.definitions, Port.generated, List.map_append]
  cases p.promises <;> cases p.expectations <;> cases p.obligations <;>
    simp [Promises.definitions_generated, Expectations.definitions_generated,
      Obligations.definitions_generated]

theorem Port.named_generated (kind : PortKind) (p : Port) :
    Port.named kind (p.generated P kind) = (Port.named kind p).map (Place.fill P) := by
  simp only [Port.named, Port.definitions_generated, List.map_cons, List.map_map]
  rfl

theorem InterfaceComponents.ports_generated (r : InterfaceComponents) (kind : PortKind) :
    (r.generated P).ports kind = (r.ports kind).map (·.generated P kind) := by
  cases kind <;> simp only [InterfaceComponents.ports, InterfaceComponents.generated]
  case output => cases r.outputPorts <;> rfl

theorem InterfaceComponents.named_generated (r : InterfaceComponents) :
    (r.generated P).named = r.named.map (Place.fill P) := by
  simp only [InterfaceComponents.named, InterfaceComponents.ports_generated, List.flatMap_map,
    Port.named_generated, List.map_flatMap]

theorem InternalComponents.components_generated (r : InternalComponents) (kind : ComponentKind) :
    (r.generated P).components kind = (r.components kind).map (·.generated P kind) := by
  cases kind <;> rfl

theorem InternalComponents.named_generated (r : InternalComponents) :
    (r.generated P).named = r.named.map (Place.fill P) := by
  simp only [InternalComponents.named, InternalComponents.components_generated, List.map_map,
    List.map_flatMap]
  rfl

end Generated

/-- Filling a descriptor fills each of its named nodes as its place says, from the data product's
name before the fill. -/
theorem Descriptor.named_generated (d : Descriptor) :
    d.generated.named = d.named.map (Place.fill d.productFqn) := by
  simp only [Descriptor.named, Descriptor.generated, List.map_append]
  cases d.interfaceComponents <;> cases d.internalComponents <;>
    simp [InterfaceComponents.named_generated, InternalComponents.named_generated]

/-! ## Nodes apart in a valid descriptor -/

/-- Two nodes that cannot be given one name for the same reason: unless they stand at one place,
other than that of definitions, they do not share a present name. -/
def Apart (a b : Place × Identity) : Prop :=
  a.1 = b.1 → a.1 ≠ .definition → ∀ n, present a.2.name = some n → present b.2.name ≠ some n

theorem apart_of_place_ne {a b : Place × Identity} (h : a.1 ≠ b.1) : Apart a b :=
  fun hab => absurd hab h

theorem apart_of_definition {a b : Place × Identity} (h : a.1 = .definition) : Apart a b :=
  fun _ hd => absurd h hd

theorem Port.place_of_mem_named {kind : PortKind} {ps : List Port} {a : Place × Identity}
    (h : a ∈ ps.flatMap (Port.named kind)) : a.1 = .port kind ∨ a.1 = .definition := by
  obtain ⟨p, -, ha⟩ := List.mem_flatMap.mp h
  simp only [Port.named, List.mem_cons, List.mem_map] at ha
  rcases ha with rfl | ⟨_, -, rfl⟩
  · exact .inl rfl
  · exact .inr rfl

/-- The ports of one collection with distinct names, each followed by its definitions. -/
theorem Port.named_apart (kind : PortKind) {ps : List Port} (h : (Port.names ps).Nodup) :
    (ps.flatMap (Port.named kind)).Pairwise Apart := by
  rw [List.pairwise_flatMap]
  refine ⟨fun p _ => ?_, ?_⟩
  · -- a port comes before its definitions
    refine List.pairwise_cons.mpr ⟨fun b hb => apart_of_place_ne ?_, ?_⟩
    · obtain ⟨_, -, rfl⟩ := List.mem_map.mp hb
      simp
    · exact List.pairwise_map.mpr (List.Pairwise.imp (fun _ => apart_of_definition rfl)
        (List.pairwise_of_forall fun _ _ => trivial))
  · refine (List.pairwise_filterMap.mp h).imp fun hpq a ha b hb => ?_
    simp only [Port.named, List.mem_cons, List.mem_map] at ha hb
    rcases ha with rfl | ⟨_, -, rfl⟩
    · rcases hb with rfl | ⟨_, -, rfl⟩
      · exact fun _ _ n hn hn' => hpq n hn n hn' rfl
      · exact apart_of_place_ne (by simp)
    · exact apart_of_definition rfl

theorem InterfaceComponents.named_apart {r : InterfaceComponents} (h : r.Valid) :
    r.named.Pairwise Apart := by
  rw [InterfaceComponents.named, List.pairwise_flatMap]
  refine ⟨fun k _ => Port.named_apart k (h.names k), ?_⟩
  refine (show PortKind.all.Nodup by decide).imp fun hk a ha b hb => ?_
  rcases Port.place_of_mem_named ha with ha' | ha'
  · rcases Port.place_of_mem_named hb with hb' | hb'
    · exact apart_of_place_ne (by rw [ha', hb']; exact fun h => hk (Place.port.inj h))
    · exact apart_of_place_ne (by rw [ha', hb']; simp)
  · exact apart_of_definition ha'

theorem InternalComponents.named_apart {r : InternalComponents} (h : r.Valid) :
    r.named.Pairwise Apart := by
  rw [InternalComponents.named, List.pairwise_flatMap]
  refine ⟨fun k _ => ?_, ?_⟩
  · refine List.pairwise_map.mpr ((List.pairwise_filterMap.mp (h.names k)).imp ?_)
    exact fun hpq _ _ n hn hn' => hpq n hn n hn' rfl
  · refine (show ComponentKind.all.Nodup by decide).imp fun hk a ha b hb => ?_
    obtain ⟨_, -, rfl⟩ := List.mem_map.mp ha
    obtain ⟨_, -, rfl⟩ := List.mem_map.mp hb
    exact apart_of_place_ne fun h => hk (Place.component.inj h)

/-- In a valid descriptor, no two nodes of one collection of ports, or of one kind of component,
share a present name. -/
theorem Descriptor.named_apart {e : Option String} {d : Descriptor} (h : d.Valid e) :
    d.named.Pairwise Apart := by
  obtain ⟨r, hr, hrv⟩ := h.interfaceComponents
  rw [Descriptor.named, hr, List.pairwise_append]
  refine ⟨by simpa using InterfaceComponents.named_apart hrv, ?_, ?_⟩
  · cases hi : d.internalComponents with
    | none => simp
    | some c => simpa using InternalComponents.named_apart (h.internalComponents c hi)
  · -- ports and definitions stand elsewhere than components
    intro a ha b hb
    simp only [Option.toList_some, List.flatMap_cons, List.flatMap_nil, List.append_nil] at ha
    obtain ⟨c, -, hb⟩ := List.mem_flatMap.mp hb
    obtain ⟨k, -, hb⟩ := List.mem_flatMap.mp hb
    obtain ⟨_, -, rfl⟩ := List.mem_map.mp hb
    obtain ⟨k', -, ha⟩ := List.mem_flatMap.mp ha
    rcases Port.place_of_mem_named ha with ha' | ha' <;> exact apart_of_place_ne (by simp [ha'])

/-- In a valid descriptor, every present version of a named node is a semantic version. -/
theorem Descriptor.named_versions {e : Option String} {d : Descriptor} (h : d.Valid e) :
    ∀ x ∈ d.named, ∀ v, present x.2.version = some v → SemVer.accepts v = true := by
  intro x hx
  rcases List.mem_append.mp hx with hx | hx
  · obtain ⟨r, hr, hrv⟩ := h.interfaceComponents
    rw [hr] at hx
    simp only [Option.toList_some, List.flatMap_cons, List.flatMap_nil, List.append_nil,
      InterfaceComponents.named, List.mem_flatMap] at hx
    obtain ⟨k, -, p, hp, hx⟩ := hx
    have hpv := hrv.ports k p hp
    simp only [Port.named, List.mem_cons, List.mem_map] at hx
    rcases hx with rfl | ⟨sd, hsd, rfl⟩
    · exact hpv.identity.version
    · exact (hpv.definitions sd hsd).identity.version
  · obtain ⟨c, hc, hx⟩ := List.mem_flatMap.mp hx
    simp only [InternalComponents.named, List.mem_flatMap, List.mem_map] at hx
    obtain ⟨k, -, cp, hcp, rfl⟩ := hx
    exact ((h.internalComponents c (by simpa using hc)).components k cp hcp).identity.version

/-! ## The names a walk fills in -/

/-- A node whose name a walk filled in: its place, and its identity before and after. -/
structure Derived where
  place : Place
  before : Identity
  after : Identity

/-- Two nodes that may be given one name: standard definitions with the same name and version. -/
def Derived.Twin (a b : Derived) : Prop :=
  a.place = .definition ∧ b.place = .definition ∧ present a.before.name = present b.before.name ∧
    present a.before.version = present b.before.version

/-- The nodes whose name is missing in `before` and present in `after`, with their identities on
both sides: `before` and `after` list the same nodes, before and after a walk. -/
def derivedNames (before after : List (Place × Identity)) : List Derived :=
  (before.zip after).filterMap fun x =>
    if !isPresent x.1.2.fullyQualifiedName && isPresent x.2.2.fullyQualifiedName then
      some ⟨x.1.1, x.1.2, x.2.2⟩
    else none

/-- The node a fill names, if it names it. -/
def Place.derived (product : Option String) (x : Place × Identity) : Option Derived :=
  if isPresent x.2.fullyQualifiedName then none
  else (x.1.derive product x.2).map fun _ => ⟨x.1, x.2, (Place.fill product x).2⟩

theorem Place.derive_ne_empty {product : Option String} {pl : Place} {i : Identity} {f : String}
    (h : pl.derive product i = some f) : f ≠ "" := by
  intro hf
  have hl := congrArg (fun s => s.toList.length) hf
  cases pl with
  | definition =>
    obtain ⟨p, ns, n, v, -, -, -, -, rfl⟩ := definitionNameOf_eq_some h
    simp at hl
  | _ =>
    obtain ⟨p, n, -, -, rfl⟩ := childName_eq_some h
    simp at hl

theorem Place.name_of_derive {product : Option String} {pl : Place} {i : Identity} {f : String}
    (h : pl.derive product i = some f) : ∃ n, present i.name = some n := by
  cases pl with
  | definition =>
    obtain ⟨p, ns, n, v, -, -, hn, -⟩ := definitionNameOf_eq_some h
    exact ⟨n, hn⟩
  | _ =>
    obtain ⟨p, n, -, hn, -⟩ := childName_eq_some h
    exact ⟨n, hn⟩

/-- A missing name filled with a derived one, and the identifier, when missing, derived from it. -/
theorem Identity.filled_derived {i : Identity} (t : String) {f : String}
    (hi : isPresent i.fullyQualifiedName = false) (hf : f ≠ "") :
    (i.filled t (some f)).fullyQualifiedName = some f ∧
      (isPresent i.id = false → (i.filled t (some f)).id = some (Uuid.ofUrl f)) := by
  refine ⟨by simp [Identity.filled, hi], fun hid => ?_⟩
  simp [Identity.filled, hi, hid, present_some, String.isEmpty_iff, hf]

theorem Place.derived_eq (product : Option String) (x : Place × Identity) :
    (if !isPresent x.2.fullyQualifiedName && isPresent (Place.fill product x).2.fullyQualifiedName then
      some (⟨x.1, x.2, (Place.fill product x).2⟩ : Derived) else none) = Place.derived product x := by
  unfold Place.derived
  cases hx : isPresent x.2.fullyQualifiedName with
  | true => simp
  | false =>
    cases hd : x.1.derive product x.2 with
    | none =>
      simp [Place.fill, Identity.filled, hx, hd]
    | some f =>
      simp [(Identity.filled_derived x.1.entityType hx (Place.derive_ne_empty hd)).1,
        Place.fill, hd, isPresent, present_some, String.isEmpty_iff, Place.derive_ne_empty hd]

/-- The names a fill of the nodes fills in are those `Place.derived` gives. -/
theorem derivedNames_fill (product : Option String) (l : List (Place × Identity)) :
    derivedNames l (l.map (Place.fill product)) = l.filterMap (Place.derived product) := by
  induction l with
  | nil => rfl
  | cons x l ih =>
    simp only [derivedNames, List.map_cons, List.zip_cons_cons, List.filterMap_cons] at ih ⊢
    rw [Place.derived_eq, ih]

/-- What a fill does to a node it names: the name it derives, and the identifier of that name
where the identifier was missing. -/
theorem Place.derived_eq_some {product : Option String} {x : Place × Identity} {a : Derived}
    (h : Place.derived product x = some a) :
    ∃ f, x.1.derive product x.2 = some f ∧ a.place = x.1 ∧ a.before = x.2 ∧
      a.after.fullyQualifiedName = some f ∧
      (isPresent x.2.id = false → a.after.id = some (Uuid.ofUrl f)) := by
  unfold Place.derived at h
  split at h
  · cases h
  · rename_i hx
    obtain ⟨f, hf, rfl⟩ := Option.map_eq_some_iff.mp h
    obtain ⟨hfq, hid⟩ := Identity.filled_derived x.1.entityType (Bool.eq_false_iff.mpr hx)
      (Place.derive_ne_empty hf)
    refine ⟨f, hf, rfl, rfl, ?_, ?_⟩
    · simpa [Place.fill, hf] using hfq
    · simpa [Place.fill, hf] using hid

section Pair

variable {product : Option String} {x y : Place × Identity} {a b : Derived}
  (hxy : Apart x y) (hx : ∀ v, present x.2.version = some v → ':' ∉ v.toList)
  (hy : ∀ v, present y.2.version = some v → ':' ∉ v.toList)
  (ha : Place.derived product x = some a) (hb : Place.derived product y = some b)
include hxy hx hy ha hb

/-- Two nodes named apart with the same name are definitions with the same name and version. -/
theorem Derived.twin_of_name_eq (h : a.after.fullyQualifiedName = b.after.fullyQualifiedName) :
    a.Twin b := by
  obtain ⟨f, hf, hpa, hba, hfa, -⟩ := Place.derived_eq_some ha
  obtain ⟨g, hg, hpb, hbb, hfb, -⟩ := Place.derived_eq_some hb
  rw [hfa, hfb, Option.some.injEq] at h
  subst h
  obtain ⟨hpl, hn, hv⟩ := Place.derive_inj hx hy hf hg
  rw [Derived.Twin, hpa, hpb, hba, hbb]
  by_cases hd : x.1 = .definition
  · exact ⟨hd, hpl ▸ hd, hn, hv hd⟩
  · -- two children at one place with one name: the check rejects them
    obtain ⟨n, hn'⟩ := Place.name_of_derive hf
    exact absurd (hn ▸ hn') (hxy hpl hd n hn')

/-- Identifiers filled in from the names of two nodes named apart are equal only for twins, or
for a collision of `Uuid.ofUrl` between two distinct names. -/
theorem Derived.twin_of_id_eq (hia : isPresent a.before.id = false)
    (hib : isPresent b.before.id = false) (h : a.after.id = b.after.id) :
    a.Twin b ∨ a.after.fullyQualifiedName ≠ b.after.fullyQualifiedName ∧
      a.after.fullyQualifiedName.map Uuid.ofUrl = b.after.fullyQualifiedName.map Uuid.ofUrl := by
  obtain ⟨f, -, -, hba, hfa, hida⟩ := Place.derived_eq_some ha
  obtain ⟨g, -, -, hbb, hfb, hidb⟩ := Place.derived_eq_some hb
  rw [hba] at hia
  rw [hbb] at hib
  by_cases hfg : a.after.fullyQualifiedName = b.after.fullyQualifiedName
  · exact .inl (Derived.twin_of_name_eq hxy hx hy ha hb hfg)
  · refine .inr ⟨hfg, ?_⟩
    rw [hfa, hfb, Option.map_some, Option.map_some, ← hida hia, ← hidb hib, h]

end Pair

theorem Descriptor.present_productFqn (d : Descriptor) : present d.productFqn = d.productFqn := by
  unfold Descriptor.productFqn
  split
  · exact present_present _
  · rfl

/-- A combined walk that reports nothing fills in distinct names: two nodes it names get one name
only as standard definitions with the same name and version, and none gets the data product's
name. The identifiers it fills in from those names are as distinct, unless `Uuid.ofUrl` maps two
distinct names to one identifier. Names and identifiers the descriptor gives are left aside. -/
theorem generated_names_distinct (d : Descriptor) (e : Option String) (r : Report Descriptor)
    (hr : Registry.run (some d) .validateAndGenerate e = .ok r) (hok : r.errors = []) :
    (derivedNames d.named r.value.named).Pairwise (fun a b =>
        (a.after.fullyQualifiedName = b.after.fullyQualifiedName → a.Twin b) ∧
          (isPresent a.before.id = false → isPresent b.before.id = false → a.after.id = b.after.id →
            a.Twin b ∨ a.after.fullyQualifiedName ≠ b.after.fullyQualifiedName ∧
              a.after.fullyQualifiedName.map Uuid.ofUrl = b.after.fullyQualifiedName.map Uuid.ofUrl)) ∧
      ∀ a ∈ derivedNames d.named r.value.named, a.after.fullyQualifiedName ≠ d.productFqn := by
  obtain rfl : d.walk .validateAndGenerate e = r := Except.ok.inj hr
  -- the checks of the combined walk are those of a checking walk, so the descriptor is valid
  have hv : d.Valid e := by
    rw [← Descriptor.errors_eq_nil, ← Descriptor.checks_combined, hok, List.filter_nil]
  have hc : ∀ x ∈ d.named, ∀ v, present x.2.version = some v → ':' ∉ v.toList :=
    fun x hx v hxv => SemVer.colon_not_mem (Descriptor.named_versions hv x hx v hxv)
  have hg : Mode.validateAndGenerate.generates = true := rfl
  rw [Descriptor.walk_value, if_pos hg, Descriptor.named_generated, derivedNames_fill]
  refine ⟨List.pairwise_filterMap.mpr ((Descriptor.named_apart hv).imp_of_mem
    fun hx hy hxy a ha b hb => ⟨Derived.twin_of_name_eq hxy (hc _ hx) (hc _ hy) ha hb,
      Derived.twin_of_id_eq hxy (hc _ hx) (hc _ hy) ha hb⟩), fun a ha => ?_⟩
  obtain ⟨x, -, hx⟩ := List.mem_filterMap.mp ha
  obtain ⟨f, hf, -, -, hfa, -⟩ := Place.derived_eq_some hx
  rw [hfa, ← Descriptor.present_productFqn]
  exact (Place.derive_ne_product hf).symm

/-- A data product with an input and an output port of one name, and an API on the output port:
a combined walk names them `urn:dmb:dataproducts:shop:inputports:orders`,
`urn:dmb:dataproducts:shop:outputports:orders` and `urn:dmb:apis:orders:2.1.0`. -/
def sampleProduct : Descriptor where
  dataProductDescriptor := some "1.0.0"
  info := some
    { identity :=
        { fullyQualifiedName := some "urn:dmb:dataproducts:shop"
          name := some "shop"
          version := some "1.0.0" }
      domain := some "sales"
      owner := some { id := some "ops" } }
  interfaceComponents := some
    { inputPorts := [{ identity := { name := some "orders", version := some "1.0.0" } }]
      outputPorts := some [
        { identity := { name := some "orders", version := some "1.0.0" }
          promises := some
            { api := some
                { identity := { name := some "orders", version := some "2.1.0" }
                  specification := some "openapi"
                  definition := some ⟨.object [], List.Pairwise.nil, trivial⟩ } } }] }

/-- The sample is accepted, and its three derived names are told apart. -/
theorem generated_names_distinct_sample :
    Registry.run (some sampleProduct) .validateAndGenerate none =
        .ok (sampleProduct.walk .validateAndGenerate none) ∧
      (sampleProduct.walk .validateAndGenerate none).errors = [] ∧
      (derivedNames sampleProduct.named (sampleProduct.walk .validateAndGenerate none).value.named).Pairwise
        (fun a b =>
          (a.after.fullyQualifiedName = b.after.fullyQualifiedName → a.Twin b) ∧
            (isPresent a.before.id = false → isPresent b.before.id = false → a.after.id = b.after.id →
              a.Twin b ∨ a.after.fullyQualifiedName ≠ b.after.fullyQualifiedName ∧
                a.after.fullyQualifiedName.map Uuid.ofUrl = b.after.fullyQualifiedName.map Uuid.ofUrl)) ∧
      ∀ a ∈ derivedNames sampleProduct.named (sampleProduct.walk .validateAndGenerate none).value.named,
        a.after.fullyQualifiedName ≠ sampleProduct.productFqn :=
  ⟨rfl, by decide, generated_names_distinct _ none _ rfl (by decide)⟩

end DataProduct
