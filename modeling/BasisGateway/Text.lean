/-
Python string operations, over the characters of a string: stripping,
prefixes, joins, and the `repr` that error messages quote values with.
-/
import Mathlib.Data.List.Dedup
import Mathlib.Data.List.DropRight
import Mathlib.Data.List.Infix
import Mathlib.Data.List.Sort
import Mathlib.Data.String.Basic

namespace BasisGateway

/-- What `str.strip()` strips. -/
def isSpace (c : Char) : Bool :=
  let n := c.toNat
  (9 ≤ n && n ≤ 13) || (28 ≤ n && n ≤ 32) || n == 0x85 || n == 0xa0 || n == 0x1680 ||
    (0x2000 ≤ n && n ≤ 0x200a) || n == 0x2028 || n == 0x2029 || n == 0x202f || n == 0x205f || n == 0x3000

/-- `not s or not s.strip()`. -/
def blank (s : String) : Bool := s.toList.all isSpace

/-- `s.strip()`. -/
def strip (s : String) : String := String.ofList ((s.toList.dropWhile isSpace).rdropWhile isSpace)

theorem not_blank_append {s : String} (h : blank s = false) (t : String) : blank (s ++ t) = false := by
  rw [blank] at h
  rw [blank, String.toList_append, List.all_append, h, Bool.false_and]

/-- `s.startswith(p)`. -/
def startsWith (s p : String) : Bool := p.toList.isPrefixOf s.toList

/-- `c in s`. -/
def hasChar (s : String) (c : Char) : Bool := s.toList.contains c

/-- `t in s`. -/
def contains (s t : String) : Bool := s.toList.tails.any t.toList.isPrefixOf

theorem contains_iff {s t : String} : contains s t = true ↔ t.toList <:+: s.toList := by
  rw [contains, List.any_eq_true]
  constructor
  · rintro ⟨tail, htail, hprefix⟩
    rw [List.mem_tails] at htail
    rw [List.isPrefixOf_iff_prefix] at hprefix
    exact hprefix.isInfix.trans htail.isInfix
  · intro h
    obtain ⟨tail, hprefix, hsuffix⟩ := List.infix_iff_prefix_suffix.1 h
    exact ⟨tail, (List.mem_tails _ _).2 hsuffix, List.isPrefixOf_iff_prefix.2 hprefix⟩

/-- `s.split(".")`. -/
def splitDots (s : String) : List String := (s.toList.splitOn '.').map String.ofList

/-- `sorted(set(xs))`. -/
def sortedSet (xs : List String) : List String := xs.dedup.insertionSort (· ≤ ·)

/-- Two lowercase hexadecimal digits. -/
def hexByte (n : Nat) : String :=
  String.ofList [Nat.digitChar (n / 16 % 16), Nat.digitChar (n % 16)]

/-- A character as `repr` writes it between the quotes `quote`. -/
def reprChar (printable : Char → Bool) (quote c : Char) : String :=
  if c = '\\' ∨ c = quote then String.ofList ['\\', c]
  else if c = '\n' then "\\n"
  else if c = '\r' then "\\r"
  else if c = '\t' then "\\t"
  else if printable c then c.toString
  else
    let n := c.toNat
    if n < 0x100 then "\\x" ++ hexByte n
    else if n < 0x10000 then "\\u" ++ hexByte (n / 0x100) ++ hexByte n
    else "\\U" ++ hexByte (n / 0x1000000) ++ hexByte (n / 0x10000) ++ hexByte (n / 0x100) ++ hexByte n

/-- `repr(s)`. Which characters are printable is the interpreter's Unicode table. -/
def pyRepr (printable : Char → Bool) (s : String) : String :=
  let quote := if hasChar s '\'' && !hasChar s '"' then '"' else '\''
  quote.toString ++ String.join (s.toList.map (reprChar printable quote)) ++ quote.toString

/-- The interpreter's Unicode tables: `str.isprintable` of a character, `str.lower`, `str.upper`. -/
structure UnicodeTables where
  printable : Char → Bool
  lower : String → String
  upper : String → String

/-- The tables on ASCII text. -/
def asciiTables : UnicodeTables where
  printable c := decide (32 ≤ c.toNat ∧ c.toNat < 127)
  lower s := String.ofList (s.toList.map Char.toLower)
  upper s := String.ofList (s.toList.map Char.toUpper)

/-- `repr` of an optional string. -/
def pyReprOpt (printable : Char → Bool) : Option String → String
  | none => "None"
  | some s => pyRepr printable s

/-- `repr` of a list of strings. -/
def pyReprList (printable : Char → Bool) (xs : List String) : String :=
  "[" ++ ", ".intercalate (xs.map (pyRepr printable)) ++ "]"

end BasisGateway
