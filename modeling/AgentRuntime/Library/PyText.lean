import AgentRuntime.Library.Json

/-!
# Python's text functions

The parts of `str`, `int` and `re` that read texts of a user or of a peer: `str.strip`, `bool` of a
decoded value, `int(text)` over the decimal digits of every script, the way back with its limit on
the digits, and leftmost searches for
patterns built from character classes, bounded greedy repetition, alternatives and one group.

A pattern is run with the list of its successes: `Pattern.run` returns every way to match at a
position, in the order in which a backtracking matcher tries them, so that the first of them is the
match.
-/

set_option autoImplicit false
set_option relaxedAutoImplicit false

namespace AgentRuntime.Library

/-! ### Characters -/

/-- `str.isspace` of one character, which is `\s` of a pattern. -/
def isWhitespace (char : Char) : Bool :=
  let code := char.toNat
  (9 ≤ code && code ≤ 13) || (28 ≤ code && code ≤ 32) || code == 133 || code == 160 ||
    code == 5760 || (8192 ≤ code && code ≤ 8202) || code == 8232 || code == 8233 ||
    code == 8239 || code == 8287 || code == 12288

/-- `str.strip`. -/
def strip (text : String) : String :=
  String.ofList ((text.toList.dropWhile isWhitespace).reverse.dropWhile isWhitespace).reverse

/-- The zeros of the decimal digits of each script, Unicode 15; the other nine follow each. -/
def decimalZeros : List Nat :=
  [0x30, 0x660, 0x6f0, 0x7c0, 0x966, 0x9e6, 0xa66, 0xae6, 0xb66, 0xbe6, 0xc66, 0xce6, 0xd66, 0xde6,
    0xe50, 0xed0, 0xf20, 0x1040, 0x1090, 0x17e0, 0x1810, 0x1946, 0x19d0, 0x1a80, 0x1a90, 0x1b50,
    0x1bb0, 0x1c40, 0x1c50, 0xa620, 0xa8d0, 0xa900, 0xa9d0, 0xa9f0, 0xaa50, 0xabf0, 0xff10, 0x104a0,
    0x10d30, 0x11066, 0x110f0, 0x11136, 0x111d0, 0x112f0, 0x11450, 0x114d0, 0x11650, 0x116c0,
    0x11730, 0x118e0, 0x11950, 0x11c50, 0x11d50, 0x11da0, 0x11f50, 0x16a60, 0x16ac0, 0x16b50,
    0x1d7ce, 0x1d7d8, 0x1d7e2, 0x1d7ec, 0x1d7f6, 0x1e140, 0x1e2f0, 0x1e4f0, 0x1e950, 0x1fbf0]

/-- `unicodedata.decimal`: the value of a decimal digit. -/
def digitValue (char : Char) : Option Nat :=
  (decimalZeros.find? fun first ↦ first ≤ char.toNat && char.toNat < first + 10).map
    fun first ↦ char.toNat - first

/-- `\d` of a pattern. -/
def isDigit (char : Char) : Bool := (digitValue char).isSome

/-! ### Truth values -/

/-- Python's truth value of a decoded JSON value. -/
def truthy : Json → Bool
  | .null => false
  | .bool value => value
  | .int value => decide (value ≠ 0)
  | .number value => decide (value ≠ 0)
  | .str text => !text.isEmpty
  | .arr values => !values.isEmpty
  | .obj fields => !fields.isEmpty

/-! ### `int(text)` -/

/-- `sys.get_int_max_str_digits()`. -/
def maxStrDigits : Nat := 4300

/-- The value of a list of digits. -/
def digitsValue (digits : List Nat) : Nat := digits.foldl (fun value digit ↦ 10 * value + digit) 0

/-- The digits of a number, with single underscores between digits allowed; `none` is a
`ValueError`. -/
def readDigits : List Char → Option (List Nat)
  | [] => none
  | [char] => (digitValue char).map fun digit ↦ [digit]
  | char :: '_' :: rest => do
    let digit ← digitValue char
    let digits ← readDigits rest
    return digit :: digits
  | char :: rest => do
    let digit ← digitValue char
    let digits ← readDigits rest
    return digit :: digits

/-- The value of the digits of a number, unless there are more than Python converts. -/
def readNatural (chars : List Char) : Option Nat := do
  let digits ← readDigits chars
  if maxStrDigits < digits.length then none else return digitsValue digits

/-- `int(text)`; `none` is a `ValueError`. -/
def pyInt (text : String) : Option Int :=
  match (strip text).toList with
  | '-' :: rest => (readNatural rest).map fun value ↦ -(value : Int)
  | '+' :: rest => (readNatural rest).map Int.ofNat
  | chars => (readNatural chars).map Int.ofNat

/-- `str` of an integer; `none` is a `ValueError`. -/
def pyStr (value : Int) : Option String :=
  if maxStrDigits < (toString value.natAbs).length then none else some (toString value)

/-! ### Patterns -/

/-- A pattern of `re` with at most one group. -/
inductive Pattern where
  | literal (text : List Char)
  | several (accepts : Char → Bool) (least : Nat) (most : Option Nat)
  | sequence (first second : Pattern)
  | either (first second : Pattern)
  | optional (pattern : Pattern)
  | group (pattern : Pattern)

/-- A way to match: the text of the group if it took part, the matched text, and what follows. -/
structure Match where
  captured : Option (List Char)
  matched : List Char
  rest : List Char

/-- A letter of a pattern under `re.IGNORECASE`; beside the two cases of an ASCII letter only the
long s counts, for the letters that the patterns use. -/
def sameLetter (letter char : Char) : Bool :=
  letter.toLower == char.toLower || (letter.toLower == 's' && char.toNat == 0x17f)

/-- The text with its first characters removed, when they are those of the literal. -/
def dropLiteral : List Char → List Char → Option (List Char)
  | [], text => some text
  | _ :: _, [] => none
  | letter :: letters, char :: chars =>
    if sameLetter letter char then dropLiteral letters chars else none

namespace Pattern

/-- All ways to match at the start of a text, the preferred first. -/
def run : Pattern → List Char → List Match
  | literal letters, text =>
    match dropLiteral letters text with
    | some rest => [⟨none, text.take letters.length, rest⟩]
    | none => []
  | several accepts least most, text =>
    let run := text.takeWhile accepts
    let longest := (most.map (min run.length)).getD run.length
    -- a greedy repetition gives its characters back one by one
    (List.range (longest + 1 - least)).map fun returned ↦
      let taken := longest - returned
      ⟨none, text.take taken, text.drop taken⟩
  | sequence first second, text =>
    (first.run text).flatMap fun left ↦
      (second.run left.rest).map fun right ↦
        ⟨right.captured.or left.captured, left.matched ++ right.matched, right.rest⟩
  | either first second, text => first.run text ++ second.run text
  | optional pattern, text => pattern.run text ++ [⟨none, [], text⟩]
  | group pattern, text =>
    (pattern.run text).map fun found ↦ ⟨some found.matched, found.matched, found.rest⟩

/-- `re.search(pattern, text)`, its group: the leftmost position where the pattern matches. -/
def search (pattern : Pattern) : List Char → Option (List Char)
  | [] => (pattern.run []).head?.bind Match.captured
  | char :: rest =>
    match (pattern.run (char :: rest)).head? with
    | some found => found.captured
    | none => pattern.search rest

end Pattern

end AgentRuntime.Library
