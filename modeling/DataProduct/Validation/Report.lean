/-!
# Field errors and reports

A field error names a field of a document by its path, says what kind of fault it has, and
carries a message. A walk over a document returns a `Report`: the value it computes and the errors
it found, in the order it found them. Reports chain like a writer: the errors of a sequence of
steps are the errors of each step, one after the other.

* `Path.render`: `a.b[2].c`, a key after a dot (none before the first) and an index in brackets;
* `Report`: the monad of computations that collect errors, with `Report.tell`.
-/

namespace DataProduct

/-- One step into a document: a member by key, or an item by index. -/
inductive PathStep where
  | key (name : String)
  | index (i : Nat)
  deriving DecidableEq, Repr

/-- Where a field stands in a document, from the root. -/
abbrev Path := List PathStep

/-- The text of one step, given whether it is the first. -/
def PathStep.render (first : Bool) : PathStep → String
  | .key name => if first then name else "." ++ name
  | .index i => "[" ++ Nat.repr i ++ "]"

/-- The text of a path. -/
def Path.render (p : Path) : String :=
  match p with
  | [] => ""
  | s :: rest => s.render true ++ String.join (rest.map (PathStep.render false))

/-- What is wrong with a field. -/
inductive FieldErrorKind where
  | missingRequiredField
  | invalidSemanticVersion
  | duplicateName
  | invalidOrDuplicateComponentKey
  | entityTypeMismatch
  | fqnMismatch
  | fqnExtractionFailure
  deriving DecidableEq, Repr

/-- The name of a kind of fault, as reports show it. -/
def FieldErrorKind.name : FieldErrorKind → String
  | .missingRequiredField => "missing_required_field"
  | .invalidSemanticVersion => "invalid_semantic_version"
  | .duplicateName => "duplicate_name"
  | .invalidOrDuplicateComponentKey => "invalid_or_duplicate_component_key"
  | .entityTypeMismatch => "entity_type_mismatch"
  | .fqnMismatch => "fqn_mismatch"
  | .fqnExtractionFailure => "fqn_extraction_failure"

/-- A fault in one field of a document. -/
structure FieldError where
  path : Path
  kind : FieldErrorKind
  message : String
  deriving DecidableEq, Repr

/-- The message of a required field that is missing or empty. -/
def missingMessage : String := "Required field is missing or empty"

/-- The text of a field error: `path: message`, or its message alone when the path is empty. -/
def FieldError.text (e : FieldError) : String :=
  if e.path.isEmpty then e.message else e.path.render ++ ": " ++ e.message

/-- The text of a list of field errors: each as `path: message`, or its message alone when the
path is empty, joined by `; `. -/
def FieldError.summary (errors : List FieldError) : String :=
  "; ".intercalate (errors.map FieldError.text)

/-- A value computed together with the field errors found on the way, in order. -/
structure Report (α : Type) where
  errors : List FieldError
  value : α

namespace Report

instance : Monad Report where
  pure a := ⟨[], a⟩
  bind r f := let s := f r.value; ⟨r.errors ++ s.errors, s.value⟩

/-- Record errors. -/
def tell (errors : List FieldError) : Report Unit := ⟨errors, ()⟩

end Report

end DataProduct
