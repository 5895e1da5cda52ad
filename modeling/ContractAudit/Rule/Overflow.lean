import ContractAudit.Analyzer
import ContractAudit.Pattern.Vocabulary

/-!
# Integer overflow and underflow

Arithmetic is checked by the compiler from version 0.8 on, and by a library before that. This rule flags arithmetic
without either protection, blocks that switch the built-in protection off, unprotected decrements, and multiplications
before a division.
-/

namespace ContractAudit.Rule.Overflow

open Text Pattern

structure Version where
  major : Nat
  minor : Nat
  patch : Nat
deriving DecidableEq, Repr

namespace Version

/-- Whether arithmetic is checked by default. -/
def checksArithmetic (version : Version) : Bool := 0 < version.major || 8 ≤ version.minor

def label (version : Version) : String :=
  toString version.major ++ "." ++ toString version.minor ++ "." ++ toString version.patch

end Version

/-- Characters between the language name and the version of a pragma. -/
def isOperator (c : Char) : Bool := c == '^' || c == '~' || c == '>' || c == '=' || c == '<' || isBlank c

/-- A pragma with the parts of its version; the last one may be missing. -/
def versionPragma : Pattern :=
  lit "pragma" ++ gap ++ lit "solidity" ++ gap ++ run isOperator false
    ++ capture 1 (some1 isDecimalDigit) ++ lit "." ++ capture 2 (some1 isDecimalDigit)
    ++ maybe (lit "." ++ capture 3 (some1 isDecimalDigit))

/-- The most digits that a part of a version may have. -/
def maxDigits : Nat := 4300

def versionPart (digits : List Char) : Except Fault Nat :=
  if digits.length > maxDigits then .error (.longNumeral digits.length) else .ok (numeral digits)

/-- The version of the first pragma; a missing last part counts as zero. -/
def version? (code : List Char) : Except Fault (Option Version) :=
  match versionPragma.search? code with
  | none => .ok none
  | some found => do
    let major ← versionPart (found.group 1)
    let minor ← versionPart (found.group 2)
    let patch ← versionPart (found.group 3)
    pure (some ⟨major, minor, patch⟩)

def safeMath : Pattern :=
  lit "using" ++ gap ++ lit "SafeMath" <|> lit "." ++ words ["add", "sub", "mul", "div"] ++ lit "("

def uncheckedBlock : Pattern := lit "unchecked" ++ blanks ++ lit "\x7b"

def stringLiteral : Pattern :=
  lit "\"" ++ noneOf "\"\n" ++ lit "\"" <|> lit "'" ++ noneOf "'\n" ++ lit "'"

def arithmetic : Pattern :=
  one (fun c ↦ isWordCharacter c || c == ')' || c == ']') ++ blanks ++ oneOf "+-*/%" ++ blanks
      ++ one (fun c ↦ isWordCharacter c || c == '(')
    <|> lit "++" <|> lit "--" <|> oneOf "+-*/" ++ lit "="

def directive : Pattern := atStart ++ blanks ++ words ["import", "pragma"] ++ edge

def multiplyThenDivide : Pattern := lit "*" ++ anything ++ lit "/"

def divideThenMultiply : Pattern := lit "/" ++ anything ++ lit "*"

def decrement : Pattern := lit "-="

/-- A line as the arithmetic patterns see it: directives are blank and string literals are empty. -/
def mathLine (line : Line) : Line :=
  if (directive.matchStart? line).isSome then [] else stringLiteral.replaceAll ['"', '"'] line

def unprotected (label : String) : Advice where
  category := "Integer Overflow/Underflow"
  severity := .high
  description := "Solidity " ++ label ++ " lacks overflow protection and SafeMath is not used"
  recommendation := "Upgrade to Solidity 0.8+ or use SafeMath library"

def uncheckedArithmetic : Advice where
  category := "Integer Overflow/Underflow"
  severity := .medium
  description := "Unchecked block bypasses overflow protection"
  recommendation := "Ensure unchecked arithmetic is intentional and safe"

def precisionLoss : Advice where
  category := "Precision Loss"
  severity := .low
  description := "Multiplication before division can cause precision loss"
  recommendation := "Consider order of operations for better precision"

def underflow : Advice where
  category := "Integer Underflow"
  severity := .medium
  description := "Subtraction without underflow protection"
  recommendation := "Add check: require(a >= b) before a -= b"

/-- Which protection a source has. -/
structure Protection where
  builtIn : Bool
  library : Bool

def Protection.any (protection : Protection) : Bool := protection.builtIn || protection.library

def lineFindings (protection : Protection) (sheet : Sheet) (entry : Line × Nat) : List Finding :=
  let (line, index) := entry
  (if protection.builtIn && uncheckedBlock.occursIn line then [uncheckedArithmetic.atLine sheet index] else [])
    ++ (if multiplyThenDivide.occursIn line && !divideThenMultiply.occursIn line then
      [precisionLoss.atLine sheet index] else [])
    ++ if decrement.occursIn line && !protection.any then [underflow.atLine sheet index] else []

def judge : Rule := fun sheet ↦ do
  let mathLines := sheet.code.map mathLine
  let version ← version? sheet.text
  let protection : Protection := ⟨version.any Version.checksArithmetic, safeMath.occursIn sheet.text⟩
  let label := (version.map Version.label).getD "unknown"
  let general :=
    if mathLines.any arithmetic.occursIn && !protection.any then [(unprotected label).overall] else []
  pure { vulnerabilities := general ++ mathLines.zipIdx.flatMap (lineFindings protection sheet) }

def analyzer : Analyzer := .ofRule "OverflowAnalyzer" "Integer Overflow Analyzer" [] judge

end ContractAudit.Rule.Overflow
