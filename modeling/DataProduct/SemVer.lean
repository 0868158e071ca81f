/-!
# Semantic version strings

The grammar of Semantic Versioning 2.0.0 as a recogniser over characters. A version is three
numeric identifiers joined by dots, then an optional pre-release part after `-`, then an optional
build part after `+`, and nothing after that: a trailing newline makes a version invalid.
Character classes are ASCII only, and numbers have no size limit.

* `accepts`: the recogniser. It splits at the first `+` (no `+` may stand before the build part)
  and then at the first `-` (no `-` may stand in the core), and checks each piece;
* `rejection`: the one message every rejected version is reported with.
-/

namespace DataProduct.SemVer

/-- A character of a pre-release or build identifier: an ASCII letter or digit, or `-`. -/
def isIdentChar (c : Char) : Bool := c.isAlphanum || c == '-'

/-- A numeric identifier: `0`, or a nonzero digit followed by digits. -/
def isNumeric : List Char → Bool
  | ['0'] => true
  | c :: cs => c.isDigit && c != '0' && cs.all Char.isDigit
  | [] => false

/-- A pre-release identifier: numeric, or a non-empty run of identifier characters of which at
least one is not a digit. -/
def isPreRelease (s : List Char) : Bool :=
  isNumeric s || (!s.isEmpty && s.all isIdentChar && s.any (fun c => !c.isDigit))

/-- A build identifier: a non-empty run of identifier characters. -/
def isBuild (s : List Char) : Bool := !s.isEmpty && s.all isIdentChar

/-- The text before the first `c`, and the text after it when `c` occurs. -/
def splitFirst (c : Char) : List Char → List Char × Option (List Char)
  | [] => ([], none)
  | d :: ds =>
    if d == c then ([], some ds)
    else
      let rest := splitFirst c ds
      (d :: rest.1, rest.2)

/-- The core `MAJOR.MINOR.PATCH`: exactly three numeric identifiers. -/
def isCore (s : List Char) : Bool :=
  match s.splitOn '.' with
  | [major, minor, patch] => isNumeric major && isNumeric minor && isNumeric patch
  | _ => false

/-- A dot-separated list whose every member passes `ok`; the empty text is one empty member. -/
def dotted (ok : List Char → Bool) (s : List Char) : Bool := (s.splitOn '.').all ok

/-- Whether the characters form a version of the grammar. -/
def acceptsChars (v : List Char) : Bool :=
  let (main, build) := splitFirst '+' v
  let (core, pre) := splitFirst '-' main
  isCore core && pre.all (dotted isPreRelease) && build.all (dotted isBuild)

/-- Whether `v` is a semantic version. -/
def accepts (v : String) : Bool := acceptsChars v.toList

/-- The message a version that is not a semantic version is reported with. -/
def rejection (v : String) : String :=
  "Version '" ++ v ++
    "' does not follow semantic versioning specification (MAJOR.MINOR.PATCH[-PRERELEASE][+BUILD])"

end DataProduct.SemVer
