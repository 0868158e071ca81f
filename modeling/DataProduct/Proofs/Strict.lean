import DataProduct.Proofs.Publish
import DataProduct.Proofs.Variables
import DataProduct.Proofs.Descriptor.Clean

/-!
# Strict publishing

In strict mode, publishing refuses a template whose text still holds a placeholder once its
variables are bound. The check reads that text before it is read as JSON, so what a strict
publish guarantees first is that the text it read had no placeholder written in it. The document
read from that text holds none either, as long as the text spells no character with a `\u`
escape, each backslash taken with the character after it as a string body reads them: every other
character of a string or key is read as itself or stands for a quote, a slash, a backslash or a
control character, and filling only adds names built from the document's own and from fixed
words. With an escape the two views part: a JSON string may spell a character of a placeholder as
`\u0024` for `$`, and the text then shows the escape, not the character.

* `publish_strict_reads_clean_text`: a strict publish read a text with no placeholder written
  in it, and publishes that text read, checked and filled;
* `publish_strict_descriptor_clean`: with no `\u` escape in that text, no string and no key of
  the published descriptor, written as JSON, holds a placeholder;
* `publish_strict_escaped_placeholder`: a strict publish whose descriptor holds `${x}`.
-/

namespace DataProduct

open Template

variable {r : PublishRequest}

/-- A publish that succeeds was past the lifecycle: the product was approved. -/
theorem approved_of_publish_ok {out : Published} (h : publish r = .ok out) :
    r.status = .approved := by
  cases hs : r.status.apply .publish with
  | ok s => exact ((Status.apply_publish_eq_ok _ _).1 hs).1
  | error e => rw [publish_of_refused hs] at h; cases h

/-- What a successful read, check and fill publishes: the descriptor the text reads as, checked
without errors and filled. -/
theorem publishChecked_eq_ok {content fqn : String} {out : Published}
    (h : publishChecked content fqn = .ok out) :
    ∃ d, Descriptor.parse content = .ok (some d) ∧
      (d.walk .validateAndGenerate (some fqn)).errors = [] ∧ out.descriptor = d.generated := by
  rw [publishChecked_eq] at h
  split at h
  · cases h
  · cases h
  · rename_i d hp
    split at h
    · rename_i he
      cases h
      exact ⟨d, hp, he, rfl⟩
    · cases h

/-- In strict mode, a publish reads a text with no placeholder written in it. Whenever a strict
publish succeeds, the template with its variables bound has no `${name}` anywhere in its text,
and the published descriptor is that text read, checked against the product's name without
errors, and filled. -/
theorem publish_strict_reads_clean_text (r : PublishRequest) (hs : r.strict = true)
    {out : Published} (h : publish r = .ok out) :
    ¬ HasPlaceholder r.substitution.content.toList ∧
      ∃ d, Descriptor.parse r.substitution.content = .ok (some d) ∧
        (d.walk .validateAndGenerate (some r.fqn)).errors = [] ∧ out.descriptor = d.generated := by
  rw [publish_of_approved (approved_of_publish_ok h)] at h
  split at h
  · cases h
  · rename_i hpass
    -- the variables passed, so the substitution is complete
    have hc : r.substitution.complete = true := by simpa [hs] using hpass
    exact ⟨(complete_iff _ _).1 hc, publishChecked_eq_ok h⟩

/-- In strict mode, a publish whose text spells no character with a `\u` escape publishes a
descriptor with no placeholder: no string and no key of it, written as JSON, holds `${name}`,
the strings of its values of open shape included. An escaped backslash before a `u`, as in
`\\u`, is no such escape. -/
theorem publish_strict_descriptor_clean (r : PublishRequest) (hs : r.strict = true)
    (hu : Json.hasUnicodeEscape r.substitution.content.toList = false) {out : Published}
    (h : publish r = .ok out) :
    ∀ t ∈ out.descriptor.toValue.texts, ¬ HasPlaceholder t.toList := by
  obtain ⟨hclean, d, hparse, -, hout⟩ := publish_strict_reads_clean_text r hs h
  have hd : d.Clean := Descriptor.parse_clean hparse ⟨hu, hclean⟩
  rw [hout]
  exact hd.generated.toValue

/-- A template whose descriptor format version, `dataProductDescriptor`, is the variable `v`. -/
def boundTemplate : String :=
  "\x7b\"dataProductDescriptor\":\"$\x7bv\x7d\",\"info\":\x7b\"fullyQualifiedName\":\"f\"," ++
  "\"name\":\"n\",\"version\":\"1.0.0\",\"domain\":\"d\",\"owner\":\x7b\"id\":\"o\"\x7d\x7d," ++
  "\"interfaceComponents\":\x7b\"outputPorts\":[]\x7d\x7d"

/-- The request that publishes `boundTemplate` strictly, with `v` bound. -/
def boundRequest : PublishRequest := ⟨"f", .approved, boundTemplate, [("v", "0.1.0")], true⟩

theorem publish_boundRequest_isOk : (publish boundRequest).isOk = true := by
  decide +kernel

/-- `boundTemplate`, with its variable bound, publishes strictly a descriptor with no
placeholder. -/
theorem publish_strict_descriptor_clean_bound :
    ∃ out, (boundRequest.strict = true ∧
        Json.hasUnicodeEscape boundRequest.substitution.content.toList = false ∧
        publish boundRequest = .ok out) ∧
      ∀ t ∈ out.descriptor.toValue.texts, ¬ HasPlaceholder t.toList := by
  have hu : Json.hasUnicodeEscape boundRequest.substitution.content.toList = false := by
    decide +kernel
  obtain ⟨out, hp⟩ : ∃ out, publish boundRequest = .ok out := by
    have hok := publish_boundRequest_isOk
    cases hq : publish boundRequest with
    | error e => rw [hq] at hok; cases hok
    | ok out => exact ⟨out, rfl⟩
  exact ⟨out, ⟨rfl, hu, hp⟩, publish_strict_descriptor_clean boundRequest rfl hu hp⟩

/-- A descriptor template with no placeholder in its text whose `dataProductDescriptor` field,
read as JSON, is `${x}`: the string `"\u0024{x}"` spells the `$` with an escape. -/
def escapedTemplate : String :=
  "\x7b\"dataProductDescriptor\":\"\\u0024\x7bx\x7d\",\"info\":\x7b\"fullyQualifiedName\":\"f\"," ++
  "\"name\":\"n\",\"version\":\"1.0.0\",\"domain\":\"d\",\"owner\":\x7b\"id\":\"o\"\x7d\x7d," ++
  "\"interfaceComponents\":\x7b\"outputPorts\":[]\x7d\x7d"

/-- The request that publishes `escapedTemplate` strictly, with no variables bound. -/
def escapedRequest : PublishRequest := ⟨"f", .approved, escapedTemplate, [], true⟩

theorem publish_escapedRequest :
    (publish escapedRequest).toOption.map (·.descriptor.dataProductDescriptor) =
      some (some "$\x7bx\x7d") := by
  decide +kernel

theorem exists_publish_escapedRequest :
    ∃ out, publish escapedRequest = .ok out ∧
      out.descriptor.dataProductDescriptor = some "$\x7bx\x7d" := by
  obtain ⟨out, hout, hd⟩ := Option.map_eq_some_iff.1 publish_escapedRequest
  refine ⟨out, ?_, hd⟩
  cases hp : publish escapedRequest with
  | error e => rw [hp] at hout; cases hout
  | ok o => rw [hp] at hout; cases hout; rfl

/-- A strict publish can publish a placeholder: `escapedTemplate` publishes, and the
`dataProductDescriptor` field of its descriptor is `${x}`. -/
theorem publish_strict_escaped_placeholder :
    escapedRequest.strict = true ∧ ∃ out, publish escapedRequest = .ok out ∧
      out.descriptor.dataProductDescriptor = some "$\x7bx\x7d" ∧
      HasPlaceholder "$\x7bx\x7d".toList := by
  obtain ⟨out, hout, hd⟩ := exists_publish_escapedRequest
  have hx : IsName ['x'] :=
    ⟨by simp, fun c hc => by rw [List.mem_singleton.1 hc]; exact (isNameChar_iff 'x').1 rfl⟩
  exact ⟨rfl, out, hout, hd, [], ['x'], [], hx, rfl⟩

end DataProduct
