import DataProduct.Text.Space
import DataProduct.Json.Value

/-!
# Descriptor templates

A descriptor may be written as a template with placeholders `${name}`, where a name is a
non-empty run of ASCII letters, digits, `_`, `.` and `-`. A text is cut into placeholders and
the characters between them by scanning from the left: a placeholder starts at the first `${`
that is followed by a name and a `}`, and scanning goes on after it, so placeholders never
overlap.

* `segments`: the cut;
* `variables`: the names of the placeholders, each once, in order of first appearance;
* `substitute`: one pass that puts the bound value in place of each placeholder whose name is
  bound, inserting values as they are, with the names still unresolved after it;
* `parseBindings`: `key=value` pairs, split at the first `=`, the key trimmed of white space;
  pairs with no `=` or an empty key are dropped, and a later key wins.
-/

namespace DataProduct.Template

open Json

/-- A character of a placeholder's name. -/
def isNameChar (c : Char) : Bool :=
  (c.isAlphanum && c.toNat < 128) || c == '_' || c == '.' || c == '-'

/-- A run of name characters closed by `}` at the front of a text: the name and what follows
the brace. -/
def nameThenBrace : List Char → Option (List Char × List Char)
  | [] => none
  | c :: cs =>
    if c = '}' then some ([], cs)
    else if isNameChar c then (nameThenBrace cs).map fun (n, a) => (c :: n, a)
    else none

theorem length_lt_of_nameThenBrace {l n a : List Char} (h : nameThenBrace l = some (n, a)) :
    a.length < l.length := by
  induction l generalizing n a with
  | nil => simp [nameThenBrace] at h
  | cons c cs ih =>
    unfold nameThenBrace at h
    by_cases hc : c = '}'
    · simp only [hc, if_true, Option.some.injEq, Prod.mk.injEq] at h
      simp [← h.2]
    · simp only [hc, if_false] at h
      split at h
      · obtain ⟨⟨n', a'⟩, h', _⟩ := Option.map_eq_some_iff.1 h
        have := ih h'
        simp only [List.length_cons]
        grind
      · simp at h

/-- A piece of a text: a character outside placeholders, or a placeholder's name. -/
inductive Segment where
  | char (c : Char)
  | placeholder (name : List Char)
  deriving DecidableEq, Repr

/-- The text of a segment as it is written. -/
def Segment.text : Segment → List Char
  | .char c => [c]
  | .placeholder name => ['$', '\x7b'] ++ name ++ ['\x7d']

/-- The cut of a text into characters and placeholders, from the left. -/
def segments : List Char → List Segment
  | [] => []
  | '$' :: '\x7b' :: rest =>
    match h : nameThenBrace rest with
    | some (name, after) =>
      if name.isEmpty then .char '$' :: segments ('\x7b' :: rest)
      else
        have : after.length < rest.length := length_lt_of_nameThenBrace h
        .placeholder name :: segments after
    | none => .char '$' :: segments ('\x7b' :: rest)
  | c :: rest => .char c :: segments rest
termination_by l => l.length
decreasing_by
  all_goals simp_wf
  omega

/-- The placeholder names of a text, with repeats. -/
def placeholders (t : String) : List String :=
  (segments t.toList).filterMap fun
    | .placeholder name => some (String.ofList name)
    | .char _ => none

/-- The placeholder names of a text, each once, in order of first appearance. -/
def «variables» (t : String) : List String := (placeholders t).eraseDups

/-- The result of a substitution: the text, and the names still unresolved in it. -/
structure Substitution where
  content : String
  unresolved : List String
  deriving DecidableEq, Repr

/-- Whether no placeholder is left. -/
def Substitution.complete (s : Substitution) : Bool := s.unresolved.isEmpty

/-- Put bound values in place of placeholders, in one pass. -/
def substitute (t : String) (bindings : Members String) : Substitution :=
  let content := String.ofList ((segments t.toList).flatMap fun
    | .placeholder name =>
      match bindings.lookup (String.ofList name) with
      | some v => v.toList
      | none => Segment.text (.placeholder name)
    | .char c => [c])
  ⟨content, «variables» content⟩

/-- The key and value of a `key=value` pair, split at the first `=`. -/
def splitPair (p : String) : Option (String × String) :=
  let cs := p.toList
  if cs.contains '=' then
    some (String.ofList (cs.takeWhile (· ≠ '=')), String.ofList ((cs.dropWhile (· ≠ '=')).drop 1))
  else none

/-- The bindings of `key=value` pairs. -/
def parseBindings (pairs : List String) : Members String :=
  pairs.foldl (fun acc p =>
    match splitPair p with
    | some (k, v) =>
      let k := Text.trimSpace k
      if k.isEmpty then acc else acc.insert k v
    | none => acc) []

end DataProduct.Template
