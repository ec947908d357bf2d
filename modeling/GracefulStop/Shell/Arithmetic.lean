import GracefulStop.Power

/-!
# Shell arithmetic

Whole numbers of 64 bits, with the operators of C. An operator binds as tight as its level says.
-/

namespace GracefulStop.Shell

/-- A whole number cut to 64 bits. -/
def wrap (value : Int) : Int := value.bmod (2 ^ 64)

/-- The operators between two numbers by their levels, the loosest first. -/
def levels : List (List String) :=
  [["||"], ["&&"], ["|"], ["^"], ["&"], ["==", "!="], ["<=", ">=", "<", ">"], ["<<", ">>"],
    ["+", "-"], ["*", "/", "%"]]

/-- All operators, those of two characters first. -/
def operators : List String :=
  let all := levels.flatten
  all.filter (·.length = 2) ++ all.filter (·.length = 1)

/-- The number for a truth value. -/
def truth (value : Bool) : Int := if value then 1 else 0

/-- Two numbers joined by an operator on their bits. -/
def onBits (join : Nat → Nat → Nat) (left right : Int) : Int :=
  wrap (join (left % 2 ^ 64).toNat (right % 2 ^ 64).toNat)

/-- The value of two numbers with an operator between them. -/
def combine? (operator : String) (left right : Int) : Option Int :=
  match operator with
  | "||" => some (truth (left ≠ 0 ∨ right ≠ 0))
  | "&&" => some (truth (left ≠ 0 ∧ right ≠ 0))
  | "|" => some (onBits Nat.lor left right)
  | "^" => some (onBits Nat.xor left right)
  | "&" => some (onBits Nat.land left right)
  | "==" => some (truth (left = right))
  | "!=" => some (truth (left ≠ right))
  | "<=" => some (truth (left ≤ right))
  | ">=" => some (truth (left ≥ right))
  | "<" => some (truth (left < right))
  | ">" => some (truth (left > right))
  | "<<" => some (wrap (left * 2 ^ (right % 64).toNat))
  | ">>" => some (left / 2 ^ (right % 64).toNat)
  | "+" => some (wrap (left + right))
  | "-" => some (wrap (left - right))
  | "*" => some (wrap (left * right))
  | "/" => if right = 0 then none else some (wrap (left.tdiv right))
  | "%" => if right = 0 then none else some (left.tmod right)
  | _ => none

/-- The text from its first character that is no blank. -/
def skipSpaces (text : List Char) : List Char := text.dropWhile (·.isWhitespace)

/-- The operator at the start of a text, and what follows it. -/
def operator? (text : List Char) : Option (String × List Char) :=
  (operators.find? fun operator => operator.toList.isPrefixOf text).map fun operator =>
    (operator, text.drop operator.length)

/-- The value of a digit, for letters from ten on. -/
def digitValue? (base : Nat) (c : Char) : Option Nat :=
  let value :=
    if c.isDigit then c.toNat - '0'.toNat
    else if c.isAlpha then c.toLower.toNat - 'a'.toNat + 10
    else base
  if value < base then some value else none

/-- The number that digits in a base write. -/
def numberIn? (base : Nat) (digits : List Char) : Option Int :=
  if digits.isEmpty then none
  else (digits.mapM (digitValue? base)).map fun values =>
    (values.foldl (fun (number : Nat) value => number * base + value) 0 : Nat)

/-- The number that a constant writes: a leading zero stands for base 8, `0x` for base 16. -/
def constant? : List Char → Option Int
  | '0' :: 'x' :: digits => numberIn? 16 digits
  | '0' :: 'X' :: digits => numberIn? 16 digits
  | '0' :: digits => if digits.isEmpty then some 0 else numberIn? 8 digits
  | digits => numberIn? 10 digits

/-- The number that the value of a variable stands for. No value stands for zero. -/
def valueOf? (text : String) : Option Int :=
  match skipSpaces text.toList with
  | [] => some 0
  | '-' :: digits => (constant? digits).map (- ·)
  | '+' :: digits => constant? digits
  | digits => constant? digits

mutual

/-- The value of an expression at the start of a text, and what follows it. What does not count for
the value of the whole has no value of its own: there is nothing wrong with it. -/
def expression? (lookup : String → String) (counts : Bool) :
    (fuel : Nat) → List Char → Option (Int × List Char)
  | 0, _ => none
  | fuel + 1, text => do
    let (value, rest) ← joined? lookup counts fuel levels text
    match skipSpaces rest with
    | '?' :: rest =>
      let (first, rest) ← expression? lookup (counts && value ≠ 0) fuel rest
      match skipSpaces rest with
      | ':' :: rest =>
        let (second, rest) ← expression? lookup (counts && value = 0) fuel rest
        return (if value ≠ 0 then first else second, rest)
      | _ => none
    | rest => return (value, rest)

/-- The value of operands joined by the operators of some levels. -/
def joined? (lookup : String → String) (counts : Bool) :
    (fuel : Nat) → List (List String) → List Char → Option (Int × List Char)
  | 0, _, _ => none
  | fuel + 1, [], text => operand? lookup counts fuel text
  | fuel + 1, level :: tighter, text => do
    let (value, rest) ← joined? lookup counts fuel tighter text
    more? lookup counts fuel level tighter value rest

/-- The value of an operand with more operands of one level after it. -/
def more? (lookup : String → String) (counts : Bool) :
    (fuel : Nat) → List String → List (List String) → Int → List Char →
      Option (Int × List Char)
  | 0, _, _, _, _ => none
  | fuel + 1, level, tighter, value, text =>
    match operator? (skipSpaces text) with
    | some (operator, rest) =>
      if level.contains operator then do
        let isSettled := (operator = "&&" && value = 0) || (operator = "||" && value ≠ 0)
        let (right, rest) ← joined? lookup (counts && !isSettled) fuel tighter rest
        let value? := combine? operator value right
        more? lookup counts fuel level tighter (← if counts then value? else some 0) rest
      else some (value, text)
    | none => some (value, text)

/-- The value of a constant, a variable, an expression in brackets, or an operand with a sign. -/
def operand? (lookup : String → String) (counts : Bool) :
    (fuel : Nat) → List Char → Option (Int × List Char)
  | 0, _ => none
  | fuel + 1, text =>
    match skipSpaces text with
    | '+' :: rest => operand? lookup counts fuel rest
    | '-' :: rest =>
      (operand? lookup counts fuel rest).map fun (value, rest) => (wrap (-value), rest)
    | '!' :: rest =>
      (operand? lookup counts fuel rest).map fun (value, rest) => (truth (value = 0), rest)
    | '~' :: rest =>
      (operand? lookup counts fuel rest).map fun (value, rest) => (wrap (-value - 1), rest)
    | '(' :: rest => do
      let (value, rest) ← expression? lookup counts fuel rest
      match skipSpaces rest with
      | ')' :: rest => return (value, rest)
      | _ => none
    | text =>
      let isPart (c : Char) := c.isAlphanum || c == '_'
      let name := text.takeWhile isPart
      let value? := match name with
        | [] => none
        | c :: _ =>
          if c.isDigit then constant? name
          else if counts then valueOf? (lookup (String.ofList name))
          else some 0
      value?.map fun value => (wrap value, text.dropWhile isPart)

end

/-- The operators that can stand before the sign that gives a value to a variable. -/
def assigning : List String := ["+", "-", "*", "/", "%", "&", "|", "^", "<<", ">>"]

/-- The variable to which an expression gives a value, the operator that joins it with the value
before, and what follows the sign. -/
def assigned? (text : List Char) : Option (String × Option String × List Char) :=
  let name := text.takeWhile fun c => c.isAlphanum || c == '_'
  if name.head?.all Char.isDigit then none
  else
    let after := skipSpaces (text.drop name.length)
    let operator := assigning.find? fun operator => operator.toList.isPrefixOf after
    match after.drop ((operator.map String.length).getD 0) with
    | '=' :: rest =>
      if rest.head? = some '=' then none else some (String.ofList name, operator, rest)
    | _ => none

/-- The value of an expression without an assignment. -/
def plainValue? (lookup : String → String) (text : List Char) : Option Int :=
  match expression? lookup true (20 * text.length + 20) text with
  | some (value, rest) => if (skipSpaces rest).isEmpty then some value else none
  | none => none

/-- The value of an expression, and the variable that gets it if there is one. -/
def evaluate? (lookup : String → String) (expression : String) : Option (Int × Option String) :=
  let text := skipSpaces expression.toList
  match assigned? text with
    | none => (plainValue? lookup text).map (·, none)
    | some (name, operator, rest) => do
      let right ← plainValue? lookup rest
      match operator with
      | none => return (right, some name)
      | some operator =>
        let left ← valueOf? (lookup name)
        return (← combine? operator left right, some name)

end GracefulStop.Shell
