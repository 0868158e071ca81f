import DataProduct.Json.Error

/-!
# Tokens of JSON text

The pieces of a JSON text below the level of arrays and objects, each read from a list of
characters together with the position of its first one. Each reader returns what it read, the
characters after it and their position, or the error and where it was found.

Two readers exist for strings and numbers: one that builds the value, and one that only checks
the syntax, used for parts of a document that are skipped. They differ in what they check: a
skipped number is never out of range, and a skipped string does not pair its surrogate escapes.

Positions follow one rule. A column counts bytes, so a step over a character adds its UTF-8
length, and a step over a newline starts the next line. An error found on looking at the next
character without taking it (`Position.peek`) stands one byte further on: on the next line if
that character is a newline.

* `skipBlank`: spaces, tabs, carriage returns and newlines;
* `readLiteral`: the rest of `null`, `true` or `false`;
* `readString`, `skipString`: from after the opening quote to after the closing one;
* `readNumber`, `skipNumber`: an optional minus sign, digits, fraction and exponent.
-/

namespace DataProduct.Json

/-- The result of a token reader: what it read, the characters after it and their position. -/
abbrev Lexed (α : Type) := Except ReadError (α × List Char × Position)

namespace Position

/-- The position after a character. -/
def step (p : Position) (c : Char) : Position :=
  if c = '\n' then ⟨p.line + 1, 0⟩ else ⟨p.line, p.column + c.utf8Size⟩

/-- The position `k` ASCII characters further on the same line. -/
def right (p : Position) (k : Nat) : Position := ⟨p.line, p.column + k⟩

/-- The position one byte into the next character: where an error found on that character is
reported. At the end of the text, the end. -/
def peek (p : Position) : List Char → Position
  | [] => p
  | c :: _ => if c = '\n' then ⟨p.line + 1, 0⟩ else p.right 1

/-- The position `n` bytes further into `cs`, or at its end. -/
def skipBytes (p : Position) : List Char → Nat → Position
  | _, 0 => p
  | [], _ => p
  | c :: cs, n + 1 =>
    if c.utf8Size ≤ n + 1 then skipBytes (p.step c) cs (n + 1 - c.utf8Size) else p.right (n + 1)

end Position

/-- Whether a character is a blank between tokens. -/
def isBlank (c : Char) : Bool := c == ' ' || c == '\n' || c == '\t' || c == '\r'

/-- The characters after the blanks at the front, and their position. -/
def skipBlank : List Char → Position → List Char × Position
  | c :: cs, p => if isBlank c then skipBlank cs (p.step c) else (c :: cs, p)
  | [], p => ([], p)

/-- The rest of a literal word, after its first letter: each character must follow. -/
def readLiteral : List Char → List Char → Position → Lexed Unit
  | [], cs, p => .ok ((), cs, p)
  | _ :: _, [], p => .error ⟨.eofInValue, p⟩
  | e :: es, c :: cs, p =>
    if c = e then readLiteral es cs (p.step c) else .error ⟨.expectedIdent, p.peek (c :: cs)⟩

/-! ## Strings -/

/-- The value of an ASCII hex digit. -/
def hexValue (c : Char) : Option Nat :=
  if '0' ≤ c ∧ c ≤ '9' then some (c.toNat - 48)
  else if 'a' ≤ c ∧ c ≤ 'f' then some (c.toNat - 87)
  else if 'A' ≤ c ∧ c ≤ 'F' then some (c.toNat - 55)
  else none

/-- The value of four hex digits. -/
def hex4 (a b c d : Char) : Option Nat := do
  return (← hexValue a) * 4096 + (← hexValue b) * 256 + (← hexValue c) * 16 + (← hexValue d)

/-- The number of bytes of some characters. -/
def byteLength (cs : List Char) : Nat := (cs.map Char.utf8Size).foldr (· + ·) 0

/-- The error for a `\u` escape whose next four bytes, from `p` on, are not four hex digits: an
invalid escape after them, or the end of the text when fewer than four bytes are left. -/
def badHex (cs : List Char) (p : Position) : ReadError :=
  if 4 ≤ byteLength (cs.take 4) then ⟨.invalidEscape, p.skipBytes cs 4⟩
  else ⟨.eofInString, p.skipBytes cs 4⟩

/-- The character of a one-letter escape. -/
def shortEscape (c : Char) : Option Char :=
  match c with
  | '"' => some '"'
  | '\\' => some '\\'
  | '/' => some '/'
  | 'b' => some (Char.ofNat 8)
  | 'f' => some (Char.ofNat 12)
  | 'n' => some '\n'
  | 'r' => some '\r'
  | 't' => some '\t'
  | _ => none

/-- Whether a code unit is a leading surrogate. -/
def isLeading (n : Nat) : Bool := 0xD800 ≤ n && n ≤ 0xDBFF

/-- Whether a code unit is a trailing surrogate. -/
def isTrailing (n : Nat) : Bool := 0xDC00 ≤ n && n ≤ 0xDFFF

/-- The body of a string after its opening quote, up to and past the closing quote, with its
escapes decoded. `acc` holds the characters read so far, last first. A `\u` escape of a leading
surrogate must be followed by a `\u` escape of a trailing one, and the two make one character. -/
def readStringFrom (acc : List Char) : List Char → Position → Lexed String
  | [], p => .error ⟨.eofInString, p⟩
  | '"' :: rest, p => .ok (String.ofList acc.reverse, rest, p.right 1)
  | '\\' :: 'u' :: a :: b :: c :: d :: rest, p =>
    let p4 := p.right 6
    match hex4 a b c d with
    | none => .error (badHex (a :: b :: c :: d :: rest) (p.right 2))
    | some n =>
      if isTrailing n then .error ⟨.loneLeadingSurrogate, p4⟩
      else if !isLeading n then readStringFrom (Char.ofNat n :: acc) rest p4
      else
        match rest with
        | [] => .error ⟨.eofInString, p4⟩
        | '\\' :: 'u' :: e :: f :: g :: h :: rest2 =>
          match hex4 e f g h with
          | none => .error (badHex (e :: f :: g :: h :: rest2) (p4.right 2))
          | some n2 =>
            if isTrailing n2 then
              let code := 0x10000 + (n - 0xD800) * 0x400 + (n2 - 0xDC00)
              readStringFrom (Char.ofNat code :: acc) rest2 (p4.right 6)
            else .error ⟨.loneLeadingSurrogate, p4.right 6⟩
        | '\\' :: 'u' :: more => .error (badHex more (p4.right 2))
        | '\\' :: [] => .error ⟨.eofInString, p4.right 1⟩
        | '\\' :: x :: more => .error ⟨.unexpectedEndOfHexEscape, (p4.right 1).peek (x :: more)⟩
        | x :: more => .error ⟨.unexpectedEndOfHexEscape, p4.peek (x :: more)⟩
  | '\\' :: 'u' :: rest, p => .error (badHex rest (p.right 2))
  | '\\' :: e :: rest, p =>
    match shortEscape e with
    | some c => readStringFrom (c :: acc) rest (p.right 2)
    | none => .error ⟨.invalidEscape, (p.right 1).peek (e :: rest)⟩
  | '\\' :: [], p => .error ⟨.eofInString, p.right 1⟩
  | c :: rest, p =>
    if c.toNat < 0x20 then .error ⟨.controlCharacter, p.step c⟩
    else readStringFrom (c :: acc) rest (p.step c)

/-- A string's body after its opening quote, decoded. -/
def readString (cs : List Char) (p : Position) : Lexed String := readStringFrom [] cs p

/-- A string's body after its opening quote, checked but not decoded: escapes are checked one by
one, and a control character is reported where it stands. -/
def skipString : List Char → Position → Lexed Unit
  | [], p => .error ⟨.eofInString, p⟩
  | '"' :: rest, p => .ok ((), rest, p.right 1)
  | '\\' :: 'u' :: a :: b :: c :: d :: rest, p =>
    match hex4 a b c d with
    | some _ => skipString rest (p.right 6)
    | none => .error (badHex (a :: b :: c :: d :: rest) (p.right 2))
  | '\\' :: 'u' :: rest, p => .error (badHex rest (p.right 2))
  | '\\' :: e :: rest, p =>
    match shortEscape e with
    | some _ => skipString rest (p.right 2)
    | none => .error ⟨.invalidEscape, (p.right 1).peek (e :: rest)⟩
  | '\\' :: [], p => .error ⟨.eofInString, p.right 1⟩
  | c :: rest, p =>
    if c.toNat < 0x20 then .error ⟨.controlCharacter, p⟩ else skipString rest (p.step c)

/-! ## Numbers -/

/-- The value of an ASCII digit. -/
def digitValue (c : Char) : Nat := c.toNat - 48

/-- Whether an integer needs more than 64 bits. -/
def beyond64 (n : Nat) : Bool := Nat.pow 2 64 ≤ n

/-- A 32-bit signed sum, held at the ends of its range. -/
def saturate32 (i : Int) : Int := max (-(Int.pow 2 31)) (min (Int.pow 2 31 - 1) i)

/-- The binary64 number `sig · 10^e`, as the product or quotient of `sig`'s nearest binary64 and
the nearest binary64 to `10^|e|`, each rounded; beyond `10^308` the quotient is taken by `10^308`
steps. None when the product is beyond the largest finite number. -/
def fromParts (sig : Nat) (e : Int) : Option Binary64 :=
  let f := Binary64.ofNat sig
  if 0 ≤ e then
    if e ≤ 308 then f.mul (Binary64.pow10 e.toNat)
    else if f.isZero then some f else none
  else
    let rec down (f : Binary64) (k : Nat) : Binary64 :=
      if k ≤ 308 then f.div (Binary64.pow10 k)
      else if f.isZero then f
      else down (f.div (Binary64.pow10 308)) (k - 308)
    termination_by k
    decreasing_by omega
    some (down f (-e).toNat)

/-- The number with significand `sig` and exponent `e`, signed, ending at `p`. -/
def finishNumber (positive : Bool) (sig : Nat) (e : Int) (rest : List Char) (p : Position) :
    Lexed Number :=
  match fromParts sig e with
  | some f => .ok (.double (if positive then f else f.neg), rest, p)
  | none => .error ⟨.numberOutOfRange, p⟩

/-- Exponent digits beyond 32 bits: a range error for a non-zero significand and a positive
exponent, else zero once the digits are passed. -/
def exponentOverflow (positive nonZero positiveExp : Bool) : List Char → Position → Lexed Number
  | c :: rest, p =>
    if nonZero && positiveExp then .error ⟨.numberOutOfRange, p⟩
    else if c.isDigit then exponentOverflow positive nonZero positiveExp rest (p.step c)
    else .ok (.double (if positive then Binary64.zero else Binary64.zero.neg), c :: rest, p)
  | [], p =>
    if nonZero && positiveExp then .error ⟨.numberOutOfRange, p⟩
    else .ok (.double (if positive then Binary64.zero else Binary64.zero.neg), [], p)

/-- The digits of an exponent after its first one; `exp` is their value so far. -/
def exponentDigits (positive : Bool) (sig : Nat) (start : Int) (positiveExp : Bool) (exp : Nat) :
    List Char → Position → Lexed Number
  | c :: rest, p =>
    if c.isDigit then
      let exp' := exp * 10 + digitValue c
      if Nat.pow 2 31 - 1 < exp' then exponentOverflow positive (sig != 0) positiveExp rest (p.step c)
      else exponentDigits positive sig start positiveExp exp' rest (p.step c)
    else
      finishNumber positive sig (saturate32 (if positiveExp then start + exp else start - exp))
        (c :: rest) p
  | [], p =>
    finishNumber positive sig (saturate32 (if positiveExp then start + exp else start - exp)) [] p

/-- An exponent after its `e`: an optional sign, then at least one digit. -/
def readExponent (positive : Bool) (sig : Nat) (start : Int) (cs : List Char) (p : Position) :
    Lexed Number :=
  let (positiveExp, cs, p) : Bool × List Char × Position :=
    match cs with
    | '+' :: rest => (true, rest, p.right 1)
    | '-' :: rest => (false, rest, p.right 1)
    | _ => (true, cs, p)
  match cs with
  | [] => .error ⟨.eofInValue, p⟩
  | c :: rest =>
    if c.isDigit then exponentDigits positive sig start positiveExp (digitValue c) rest (p.step c)
    else .error ⟨.invalidNumber, p.peek (c :: rest)⟩

/-- Fraction digits past 64 bits of significand: passed over without changing the value. -/
def fractionOverflow (positive : Bool) (sig : Nat) (e : Int) : List Char → Position → Lexed Number
  | c :: rest, p =>
    if c.isDigit then fractionOverflow positive sig e rest (p.step c)
    else if c = 'e' ∨ c = 'E' then readExponent positive sig e rest (p.right 1)
    else finishNumber positive sig e (c :: rest) p
  | [], p => finishNumber positive sig e [] p

/-- Fraction digits after the point; `count` of them read so far, and at least one is needed. -/
def fractionDigits (positive : Bool) (sig : Nat) (e : Int) (count : Nat) :
    List Char → Position → Lexed Number
  | c :: rest, p =>
    if c.isDigit then
      if beyond64 (sig * 10 + digitValue c) then fractionOverflow positive sig e (c :: rest) p
      else fractionDigits positive (sig * 10 + digitValue c) (e - 1) (count + 1) rest (p.step c)
    else if count = 0 then .error ⟨.invalidNumber, p.peek (c :: rest)⟩
    else if c = 'e' ∨ c = 'E' then readExponent positive sig e rest (p.right 1)
    else finishNumber positive sig e (c :: rest) p
  | [], p => if count = 0 then .error ⟨.eofInValue, p⟩ else finishNumber positive sig e [] p

/-- Integer digits past 64 bits: each raises the exponent, the value keeps its first digits. -/
def longDigits (positive : Bool) (sig : Nat) (e : Int) : List Char → Position → Lexed Number
  | c :: rest, p =>
    if c.isDigit then longDigits positive sig (e + 1) rest (p.step c)
    else if c = '.' then fractionDigits positive sig e 0 rest (p.right 1)
    else if c = 'e' ∨ c = 'E' then readExponent positive sig e rest (p.right 1)
    else finishNumber positive sig e (c :: rest) p
  | [], p => finishNumber positive sig e [] p

/-- The end of an integer part: a fraction or an exponent makes a binary64 number; otherwise an
integer, which is negative only if it is not zero and fits, and else the binary64 number. -/
def afterInteger (positive : Bool) (sig : Nat) (cs : List Char) (p : Position) : Lexed Number :=
  match cs with
  | '.' :: rest => fractionDigits positive sig 0 0 rest (p.right 1)
  | 'e' :: rest => readExponent positive sig 0 rest (p.right 1)
  | 'E' :: rest => readExponent positive sig 0 rest (p.right 1)
  | _ =>
    if positive then .ok (.unsigned sig, cs, p)
    else if sig = 0 then .ok (.double Binary64.zero.neg, cs, p)
    else if sig ≤ Nat.pow 2 63 then .ok (.signed (-(sig : Int)), cs, p)
    else .ok (.double (Binary64.ofNat sig).neg, cs, p)

/-- Integer digits after the first; `sig` is their value so far, below `2^64`. -/
def integerDigits (positive : Bool) (sig : Nat) : List Char → Position → Lexed Number
  | c :: rest, p =>
    if c.isDigit then
      if beyond64 (sig * 10 + digitValue c) then longDigits positive sig 0 (c :: rest) p
      else integerDigits positive (sig * 10 + digitValue c) rest (p.step c)
    else afterInteger positive sig (c :: rest) p
  | [], p => afterInteger positive sig [] p

/-- A number after its sign: `0` alone or a nonzero digit and more digits, then the rest. -/
def readUnsigned (positive : Bool) : List Char → Position → Lexed Number
  | [], p => .error ⟨.eofInValue, p⟩
  | '0' :: rest, p =>
    match rest with
    | c :: _ => if c.isDigit then .error ⟨.invalidNumber, (p.right 1).peek rest⟩
                else afterInteger positive 0 rest (p.right 1)
    | [] => afterInteger positive 0 [] (p.right 1)
  | c :: rest, p =>
    if c.isDigit then integerDigits positive (digitValue c) rest (p.step c)
    else .error ⟨.invalidNumber, p.peek (c :: rest)⟩

/-- A number starting at a digit or a minus sign. -/
def readNumber : List Char → Position → Lexed Number
  | '-' :: rest, p => readUnsigned false rest (p.right 1)
  | cs, p => readUnsigned true cs p

/-- Digits, passed over. -/
def skipDigits : List Char → Position → List Char × Position
  | c :: rest, p => if c.isDigit then skipDigits rest (p.step c) else (c :: rest, p)
  | [], p => ([], p)

/-- An exponent after its `e`, checked: an optional sign, then at least one digit. -/
def skipExponent (cs : List Char) (p : Position) : Lexed Unit :=
  let (cs, p) : List Char × Position :=
    match cs with
    | '+' :: rest => (rest, p.right 1)
    | '-' :: rest => (rest, p.right 1)
    | _ => (cs, p)
  match cs with
  | c :: rest =>
    if c.isDigit then
      let (rest, p) := skipDigits rest (p.step c)
      .ok ((), rest, p)
    else .error ⟨.invalidNumber, p.peek (c :: rest)⟩
  | [] => .error ⟨.invalidNumber, p⟩

/-- The fraction and exponent after an integer part, checked. -/
def skipAfterInteger (cs : List Char) (p : Position) : Lexed Unit :=
  match cs with
  | '.' :: rest =>
    match rest with
    | c :: _ =>
      if c.isDigit then
        let (rest, p) := skipDigits rest (p.right 1)
        match rest with
        | 'e' :: more => skipExponent more (p.right 1)
        | 'E' :: more => skipExponent more (p.right 1)
        | _ => .ok ((), rest, p)
      else .error ⟨.invalidNumber, (p.right 1).peek rest⟩
    | [] => .error ⟨.invalidNumber, p.right 1⟩
  | 'e' :: rest => skipExponent rest (p.right 1)
  | 'E' :: rest => skipExponent rest (p.right 1)
  | _ => .ok ((), cs, p)

/-- A number after its sign, checked but not valued, so never out of range. -/
def skipUnsigned : List Char → Position → Lexed Unit
  | [], p => .error ⟨.invalidNumber, p⟩
  | '0' :: rest, p =>
    match rest with
    | c :: _ => if c.isDigit then .error ⟨.invalidNumber, (p.right 1).peek rest⟩
                else skipAfterInteger rest (p.right 1)
    | [] => .ok ((), [], p.right 1)
  | c :: rest, p =>
    if c.isDigit then
      let (rest, p) := skipDigits rest (p.step c)
      skipAfterInteger rest p
    else .error ⟨.invalidNumber, p.peek (c :: rest)⟩

/-- A number starting at a digit or a minus sign, checked but not valued. -/
def skipNumber : List Char → Position → Lexed Unit
  | '-' :: rest, p => skipUnsigned rest (p.right 1)
  | cs, p => skipUnsigned cs p

end DataProduct.Json
