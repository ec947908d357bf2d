import GracefulStop.Shell.Basic

/-!
# Reading shell scripts

`line?` reads the commands of a line, which compound commands may stretch over several lines. Each
reader takes its part from the front of a text and gives back what follows it.
-/

namespace GracefulStop.Shell.Text

/-- Whether a character ends a word. -/
def endsWord (c : Char) : Bool := " \t\n;&|<>()".toList.contains c

/-- Whether a name can start with a character. -/
def startsName (c : Char) : Bool := c.isAlpha || c == '_'

/-- Whether a character can belong to a name. -/
def inName (c : Char) : Bool := c.isAlphanum || c == '_'

/-- The names of parameters that are one sign. -/
def isSpecial (c : Char) : Bool := "@*#?-$!".toList.contains c

/-- The words that belong to compound commands where a command could start. -/
def closers : List String := ["then", "else", "elif", "fi", "do", "done", "esac", "\x7d"]

/-- The words of compound commands. -/
def keywords : List String := ["\x7b", "!", "case", "for", "if", "in", "until", "while"] ++ closers

/-- The commands whose names no function can have. -/
def special : List String :=
  [":", ".", "break", "continue", "eval", "exec", "exit", "export", "readonly", "return", "set",
    "shift", "times", "trap", "unset"]

/-- The text without blanks at its start. A line may be continued after a backslash. -/
def skipBlanks : List Char → List Char
  | ' ' :: rest => skipBlanks rest
  | '\t' :: rest => skipBlanks rest
  | '\\' :: '\n' :: rest => skipBlanks rest
  | text => text

/-- The text without blanks and a comment at its start. -/
def skipSpace (text : List Char) : List Char :=
  match skipBlanks text with
  | '#' :: rest => rest.dropWhile (· != '\n')
  | rest => rest

/-- The text without blanks, comments and ends of lines at its start. Each line takes one unit of
fuel at most. -/
def skipLines : (fuel : Nat) → List Char → List Char
  | 0, text => text
  | fuel + 1, text =>
    match skipSpace text with
    | '\n' :: rest => skipLines fuel rest
    | rest => rest

/-- The characters up to the next end of a word. -/
def peek (text : List Char) : String := String.ofList (text.takeWhile fun c => !endsWord c)

/-- What follows a word that has to come next. -/
def expect? (fuel : Nat) (word : String) (text : List Char) : Option (List Char) :=
  let text := skipLines fuel text
  if peek text = word then some (text.drop word.length) else none

/-- A part of a word before others. Texts of one kind become one. -/
def put (piece : Piece) (rest : List Piece) : List Piece :=
  match piece, rest with
  | .text quoted text, .text quoted' text' :: rest =>
    if quoted = quoted' then .text quoted (text ++ text') :: rest
    else piece :: .text quoted' text' :: rest
  | _, _ => piece :: rest

/-- The text up to the two brackets that close an expression, and what follows them. A bracket that
closes nothing belongs to the text. -/
def expression? : (depth : Nat) → List Char → Option (List Char × List Char)
  | _, [] => none
  | 0, ')' :: ')' :: rest => some ([], rest)
  | depth, '(' :: rest => (expression? (depth + 1) rest).map fun (text, rest) => ('(' :: text, rest)
  | depth + 1, ')' :: rest => (expression? depth rest).map fun (text, rest) => (')' :: text, rest)
  | depth, c :: rest => (expression? depth rest).map fun (text, rest) => (c :: text, rest)

/-- The text up to a closing back quote, and what follows it. -/
def backQuoted? : List Char → Option (List Char × List Char)
  | [] => none
  | '\\' :: c :: rest =>
    (backQuoted? rest).map fun (text, rest) =>
      (if c == '\x60' || c == '\\' || c == '$' then c :: text else '\\' :: c :: text, rest)
  | c :: rest =>
    if c == '\x60' then some ([], rest)
    else (backQuoted? rest).map fun (text, rest) => (c :: text, rest)

/-- The lines before and after a line with an end mark, without leading tabs if they do not count.
-/
def splitAtMark (tabs : Bool) (mark : String) : List String → List String × List String
  | [] => ([], [])
  | line :: rest =>
    let line := if tabs then String.ofList (line.toList.dropWhile (· == '\t')) else line
    if line = mark then ([], rest)
    else
      let (document, rest) := splitAtMark tabs mark rest
      (line :: document, rest)

/-- The lines of a text after its first up to an end mark, and the text without them. -/
def document (tabs : Bool) (mark : String) (text : List Char) : List Char × List Char :=
  match (String.ofList text).splitOn "\n" with
  | first :: lines =>
    let (document, rest) := splitAtMark tabs mark lines
    ((String.join (document.map (· ++ "\n"))).toList,
      (String.intercalate "\n" (first :: rest)).toList)
  | [] => ([], text)

/-- Whether a word is quoted in part. -/
def isQuoted (word : Word) : Bool :=
  word.any fun
    | .text quoted _ => quoted
    | _ => false

/-- Whether a part of a word stands for all arguments, each by itself. -/
def isAllArguments : Piece → Bool
  | .parameter _ name => name = "@"
  | _ => false

/-- The text of a word without its quotes. -/
def plainText (word : Word) : String :=
  String.join (word.map fun
    | .text _ text => text
    | _ => "")

/-- A command that reads and writes as told, if anything is told. -/
def directedBy (directions : List Direction) (command : Command) : Command :=
  if directions.isEmpty then command else .directed directions command

/-- A sign that tells where a command reads or writes, the number before it if there is one, and
what follows it. -/
def direction? (text : List Char) : Option (Option Nat × String × List Char) :=
  let digits := text.takeWhile Char.isDigit
  let rest := text.drop digits.length
  (["<<-", "<<", "<&", "<>", "<", ">>", ">&", ">|", ">"].find? fun sign =>
    sign.toList.isPrefixOf rest).map fun sign =>
      ((String.ofList digits).toNat?, sign, rest.drop sign.length)

/-- The adjustment that a sign stands for, and what follows it. -/
def adjustment? : List Char → Option (Bool × Adjustment × List Char)
  | ':' :: '-' :: rest => some (true, .default, rest)
  | ':' :: '=' :: rest => some (true, .assign, rest)
  | ':' :: '?' :: rest => some (true, .demand, rest)
  | ':' :: '+' :: rest => some (true, .replace, rest)
  | '-' :: rest => some (false, .default, rest)
  | '=' :: rest => some (false, .assign, rest)
  | '?' :: rest => some (false, .demand, rest)
  | '+' :: rest => some (false, .replace, rest)
  | '#' :: '#' :: rest => some (false, .withoutStart true, rest)
  | '#' :: rest => some (false, .withoutStart false, rest)
  | '%' :: '%' :: rest => some (false, .withoutStop true, rest)
  | '%' :: rest => some (false, .withoutStop false, rest)
  | _ => none

/-- The name of a parameter, and what follows it. In braces a number may have several digits. -/
def parameterName? (braced : Bool) : List Char → Option (String × List Char)
  | [] => none
  | c :: rest =>
    if startsName c then
      some (String.ofList (c :: rest.takeWhile inName), rest.dropWhile inName)
    else if c.isDigit then
      if braced then
        some (String.ofList (c :: rest.takeWhile Char.isDigit), rest.dropWhile Char.isDigit)
      else some (String.singleton c, rest)
    else if isSpecial c then some (String.singleton c, rest)
    else none

mutual

/-- The parts of a word. Between braces it ends with the closing one. -/
def word? (braced : Bool) : (fuel : Nat) → List Char → Option (Word × List Char)
  | 0, _ => none
  | _, [] => some ([], [])
  | fuel + 1, c :: rest =>
    if braced && c == '\x7d' then some ([], c :: rest)
    else if !braced && endsWord c then some ([], c :: rest)
    else do
      match c, rest with
      | '\\', '\n' :: rest => word? braced fuel rest
      | '\\', c :: rest =>
        let (pieces, rest) ← word? braced fuel rest
        return (put (.text true (String.singleton c)) pieces, rest)
      | '\x27', rest =>
        let quoted := rest.takeWhile (· != '\x27')
        if quoted.length = rest.length then none
        else
          let (pieces, rest) ← word? braced fuel (rest.drop (quoted.length + 1))
          return (put (.text true (String.ofList quoted)) pieces, rest)
      | '"', rest =>
        let (inner, rest) ← quoted? true fuel rest
        let (pieces, rest) ← word? braced fuel rest
        let isText := inner.isEmpty || !inner.all isAllArguments
        return ((if isText then put (.text true "") else id) (inner ++ pieces), rest)
      | '$', rest =>
        let (piece, rest) ← replaced? false fuel rest
        let (pieces, rest) ← word? braced fuel rest
        return (put piece pieces, rest)
      | c, rest =>
        if c == '\x60' then
          let (body, rest) ← backQuoted? rest
          let items ← whole? fuel body
          let (pieces, rest) ← word? braced fuel rest
          return (.output false items :: pieces, rest)
        else
          let (pieces, rest) ← word? braced fuel rest
          return (put (.text false (String.singleton c)) pieces, rest)

/-- The parts between double quotes, up to the closing one or to the end of the text. -/
def quoted? (closed : Bool) : (fuel : Nat) → List Char → Option (Word × List Char)
  | 0, _ => none
  | _, [] => if closed then none else some ([], [])
  | fuel + 1, c :: rest => do
    match c, rest with
    | '\\', '\n' :: rest => quoted? closed fuel rest
    | '\\', c :: rest =>
      let (pieces, rest) ← quoted? closed fuel rest
      let text := if "$\"\\".toList.contains c || c == '\x60' then [c] else ['\\', c]
      return (put (.text true (String.ofList text)) pieces, rest)
    | '$', rest =>
      let (piece, rest) ← replaced? true fuel rest
      let (pieces, rest) ← quoted? closed fuel rest
      return (put piece pieces, rest)
    | c, rest =>
      if c == '"' && closed then some ([], rest)
      else if c == '\x60' then
        let (body, rest) ← backQuoted? rest
        let items ← whole? fuel body
        let (pieces, rest) ← quoted? closed fuel rest
        return (.output true items :: pieces, rest)
      else
        let (pieces, rest) ← quoted? closed fuel rest
        return (put (.text true (String.singleton c)) pieces, rest)

/-- What follows a dollar sign. Where nothing follows that it could mean, it stands for itself. -/
def replaced? (quoted : Bool) : (fuel : Nat) → List Char → Option (Piece × List Char)
  | 0, _ => none
  | fuel + 1, text =>
    match text with
    | '(' :: '(' :: rest => do
      let (expression, rest) ← expression? 0 rest
      let (pieces, _) ← quoted? false fuel expression
      return (.arithmetic quoted pieces, rest)
    | '(' :: rest => do
      let (items, rest) ← items? true fuel rest
      match skipLines fuel rest with
      | ')' :: rest => return (.output quoted items, rest)
      | _ => none
    | c :: rest =>
      if c == '\x7b' then braces? quoted fuel rest
      else match parameterName? false (c :: rest) with
        | some (name, rest) => some (.parameter quoted name, rest)
        | none => some (.text quoted "$", c :: rest)
    | [] => some (.text quoted "$", [])

/-- A parameter between braces, after the opening one. -/
def braces? (quoted : Bool) : (fuel : Nat) → List Char → Option (Piece × List Char)
  | 0, _ => none
  | fuel + 1, text => do
    let counted? := match text with
      | '#' :: rest =>
        (parameterName? true rest).bind fun (name, rest) =>
          if rest.head? = some '\x7d' then some (name, rest.drop 1) else none
      | _ => none
    match counted? with
    | some (name, rest) => return (.count name, rest)
    | none =>
      let (name, rest) := (parameterName? true text).getD ("", text)
      if name ≠ "" && rest.head? = some '\x7d' then
        return (.parameter quoted name, rest.drop 1)
      else
        let adjustment? := if name = "" then none else adjustment? rest
        let (emptyIsNone, adjustment, rest) := adjustment?.getD (true, .refuse, rest)
        let (word, rest) ← word? true fuel rest
        if rest.head? = some '\x7d' then
          return (.adjusted quoted name emptyIsNone adjustment word, rest.drop 1)
        else none

/-- The commands of a whole text. -/
def whole? : (fuel : Nat) → List Char → Option (List Item)
  | 0, _ => none
  | fuel + 1, text => do
    let (items, rest) ← items? true fuel text
    if (skipLines fuel rest).isEmpty then return items else none

/-- Commands one after another, up to something that does not start a command: on several lines, or
up to the end of a line. -/
def items? (several : Bool) : (fuel : Nat) → List Char → Option (List Item × List Char)
  | 0, _ => none
  | fuel + 1, text =>
    let text := if several then skipLines fuel text else skipSpace text
    match text with
    | [] => some ([], [])
    | ')' :: _ => some ([], text)
    | '\n' :: _ => some ([], text)
    | ';' :: ';' :: _ => some ([], text)
    | _ =>
      if closers.contains (peek text) then some ([], text)
      else do
        let (first, rest) ← pipeline? fuel text
        let (joined, rest) ← joined? fuel rest
        match skipSpace rest with
        | '&' :: rest =>
          let (items, rest) ← items? several fuel rest
          return (.mk true first joined :: items, rest)
        | ';' :: rest =>
          if rest.head? = some ';' then return ([.mk false first joined], ';' :: rest)
          else
            let (items, rest) ← items? several fuel rest
            return (.mk false first joined :: items, rest)
        | '\n' :: rest =>
          if several then
            let (items, rest) ← items? several fuel rest
            return (.mk false first joined :: items, rest)
          else return ([.mk false first joined], '\n' :: rest)
        | rest => return ([.mk false first joined], rest)

/-- The pipes that are joined to one by conditions. -/
def joined? : (fuel : Nat) → List Char → Option (List (Bool × Pipeline) × List Char)
  | 0, _ => none
  | fuel + 1, text =>
    match skipSpace text with
    | '&' :: '&' :: rest => do
      let (next, rest) ← pipeline? fuel (skipLines fuel rest)
      let (joined, rest) ← joined? fuel rest
      return ((true, next) :: joined, rest)
    | '|' :: '|' :: rest => do
      let (next, rest) ← pipeline? fuel (skipLines fuel rest)
      let (joined, rest) ← joined? fuel rest
      return ((false, next) :: joined, rest)
    | _ => some ([], text)

/-- Commands joined by pipes. -/
def pipeline? : (fuel : Nat) → List Char → Option (Pipeline × List Char)
  | 0, _ => none
  | fuel + 1, text => do
    let negated := peek text = "!"
    let text := if negated then skipSpace (text.drop 1) else text
    if negated && peek text = "!" then none
    let (first, rest) ← command? fuel text
    let (others, rest) ← piped? fuel rest
    return (.mk negated (first :: others), rest)

/-- The commands behind pipes. -/
def piped? : (fuel : Nat) → List Char → Option (List Command × List Char)
  | 0, _ => none
  | fuel + 1, text =>
    match skipSpace text with
    | '|' :: rest =>
      if rest.head? = some '|' then some ([], text)
      else if peek (skipLines fuel rest) = "!" then none
      else do
        let (command, rest) ← command? fuel (skipLines fuel rest)
        let (others, rest) ← piped? fuel rest
        return (command :: others, rest)
    | _ => some ([], text)

/-- A command. -/
def command? : (fuel : Nat) → List Char → Option (Command × List Char)
  | 0, _ => none
  | fuel + 1, text =>
    match compound? fuel text with
    | some (some (command, rest)) => do
      let (directions, rest) ← directions? fuel rest
      return (directedBy directions command, rest)
    | some none => none
    | none => do
      let (command, rest) ← simple? fuel true [] [] [] text
      if rest.length < (skipSpace text).length then return (command, rest) else none

/-- A compound command, if the text starts one; nothing within that if it is not well formed. -/
def compound? : (fuel : Nat) → List Char → Option (Option (Command × List Char))
  | 0, _ => some none
  | fuel + 1, text =>
    let word := peek text
    let rest := text.drop word.length
    if closers.contains word then some none
    else if text.head? = some '(' then
      some do
        let (body, rest) ← items? true fuel (text.drop 1)
        match skipLines fuel rest with
        | ')' :: rest => if body.isEmpty then none else return (.subshell body, rest)
        | _ => none
    else if word = "\x7b" then
      some do
        let (body, rest) ← items? true fuel rest
        let rest ← expect? fuel "\x7d" rest
        if body.isEmpty then none else return (.group body, rest)
    else if word = "if" then some (branch? fuel rest)
    else if word = "while" || word = "until" then
      some do
        let (condition, rest) ← items? true fuel rest
        let (body, rest) ← loop? fuel rest
        if condition.isEmpty then none
        else return (.repeated (word = "while") condition body, rest)
    else if word = "for" then
      some do
        let (name, rest) ← parameterName? false (skipBlanks rest)
        if !name.toList.head?.any startsName then none
        let (words, rest) ← forWords? fuel rest
        let (body, rest) ← loop? fuel rest
        return (.each name words body, rest)
    else if word = "case" then
      some do
        let (word, rest) ← word? false fuel (skipBlanks rest)
        let rest ← expect? fuel "in" rest
        let (arms, rest) ← arms? fuel rest
        return (.select word arms, rest)
    else
      let name := String.ofList (text.takeWhile inName)
      match skipBlanks (text.drop name.length) with
      | '(' :: rest =>
        if name = "" then none
        else if special.contains name then some none
        else
          some do
            match skipBlanks rest with
            | ')' :: rest =>
              let (body, rest) ← command? fuel (skipLines fuel rest)
              return (.define name body, rest)
            | _ => none
      | _ => none

/-- A branch after its first word, or after the word for another condition. -/
def branch? : (fuel : Nat) → List Char → Option (Command × List Char)
  | 0, _ => none
  | fuel + 1, text => do
    let (condition, rest) ← items? true fuel text
    let rest ← expect? fuel "then" rest
    let (body, rest) ← items? true fuel rest
    if condition.isEmpty || body.isEmpty then none
    else
      let rest := skipLines fuel rest
      if peek rest = "elif" then
        let (other, rest) ← branch? fuel (rest.drop 4)
        return (.branch condition body [.mk false (.mk false [other]) []], rest)
      else if peek rest = "else" then
        let (otherwise, rest) ← items? true fuel (rest.drop 4)
        return (.branch condition body otherwise, ← expect? fuel "fi" rest)
      else return (.branch condition body [], ← expect? fuel "fi" rest)

/-- The body of a loop. -/
def loop? : (fuel : Nat) → List Char → Option (List Item × List Char)
  | 0, _ => none
  | fuel + 1, text => do
    let rest ← expect? fuel "do" text
    let (body, rest) ← items? true fuel rest
    let rest ← expect? fuel "done" rest
    if body.isEmpty then none else return (body, rest)

/-- The words of a loop over words, with the sign or the end of the line after them. -/
def forWords? : (fuel : Nat) → List Char → Option (Option (List Word) × List Char)
  | 0, _ => none
  | fuel + 1, text =>
    let start := skipLines fuel text
    if peek start = "in" then do
      let (words, rest) ← words? fuel (start.drop 2)
      match skipSpace rest with
      | ';' :: rest => return (some words, rest)
      | '\n' :: rest => return (some words, rest)
      | _ => none
    else match skipSpace text with
      | ';' :: rest => some (none, rest)
      | _ => some (none, start)

/-- Words one after another. -/
def words? : (fuel : Nat) → List Char → Option (List Word × List Char)
  | 0, _ => none
  | fuel + 1, text => do
    let (word, rest) ← word? false fuel (skipSpace text)
    if word.isEmpty then return ([], rest)
    else
      let (words, rest) ← words? fuel rest
      return (word :: words, rest)

/-- The arms of a choice by patterns, up to its last word. -/
def arms? : (fuel : Nat) → List Char → Option (List (List Word × List Item) × List Char)
  | 0, _ => none
  | fuel + 1, text =>
    let text := skipLines fuel text
    if peek text = "esac" then some ([], text.drop 4)
    else do
      let text := if text.head? = some '(' then text.drop 1 else text
      let (patterns, rest) ← patterns? fuel text
      let (body, rest) ← items? true fuel rest
      match skipLines fuel rest with
      | ';' :: ';' :: rest =>
        let (arms, rest) ← arms? fuel rest
        return ((patterns, body) :: arms, rest)
      | rest => return ([(patterns, body)], ← expect? fuel "esac" rest)

/-- The patterns of an arm, up to the bracket after them. -/
def patterns? : (fuel : Nat) → List Char → Option (List Word × List Char)
  | 0, _ => none
  | fuel + 1, text => do
    let (pattern, rest) ← word? false fuel (skipSpace text)
    if pattern.isEmpty then none
    else match skipSpace rest with
      | ')' :: rest => return ([pattern], rest)
      | '|' :: rest =>
        let (patterns, rest) ← patterns? fuel rest
        return (pattern :: patterns, rest)
      | _ => none

/-- Where a command reads and writes. -/
def directions? : (fuel : Nat) → List Char → Option (List Direction × List Char)
  | 0, _ => none
  | fuel + 1, text =>
    match direction? (skipSpace text) with
    | none => some ([], text)
    | some (number?, sign, rest) => do
      let (word, rest) ← word? false fuel (skipBlanks rest)
      if word.isEmpty then none
      else
        let (direction, rest) ← directionOf? fuel number? sign word rest
        let (directions, rest) ← directions? fuel rest
        return (direction :: directions, rest)

/-- Where a command reads or writes, by the number before a sign, the sign and the word after it. -/
def directionOf? : (fuel : Nat) → Option Nat → String → Word → List Char →
    Option (Direction × List Char)
  | 0, _, _, _, _ => none
  | fuel + 1, number?, sign, word, rest =>
    if sign = "<<" || sign = "<<-" then do
      let (text, rest) := document (sign = "<<-") (plainText word) rest
      if isQuoted word then return (.document [.text true (String.ofList text)], rest)
      else
        let (pieces, _) ← quoted? false fuel text
        return (.document pieces, rest)
    else if sign = "<" || sign = "<>" then some (.source word, rest)
    else if sign = "<&" then some (.copy (number?.getD 0) word, rest)
    else if sign = ">&" then some (.copy (number?.getD 1) word, rest)
    else
      let writing :=
        if sign = ">>" then Writing.onwards else if sign = ">|" then Writing.over else Writing.anew
      some (.target (number?.getD 1) writing word, rest)

/-- A simple command, of which some parts have been read. Values are given before its first word. -/
def simple? : (fuel : Nat) → (assigning : Bool) → List (String × Word) → List Word →
    List Direction → List Char → Option (Command × List Char)
  | 0, _, _, _, _, _ => none
  | fuel + 1, assigning, assignments, words, directions, text =>
    let text := skipSpace text
    let name := text.takeWhile inName
    let rest := text.drop name.length
    if (direction? text).isSome then do
      let (more, rest) ← directions? fuel text
      simple? fuel assigning assignments words (directions ++ more) rest
    else if assigning && name.head?.any startsName && rest.head? = some '=' then do
      let (value, rest) ← word? false fuel (rest.drop 1)
      simple? fuel true (assignments ++ [(String.ofList name, value)]) words directions rest
    else do
      let (word, rest) ← word? false fuel text
      if word.isEmpty then return (directedBy directions (.simple assignments words), rest)
      else simple? fuel false assignments (words ++ [word]) directions rest

end

/-- The commands of the first line of a text that has any, and what follows the line. There are none
left if the list is empty. -/
def line? (text : List Char) : Option (List Item × List Char) :=
  let fuel := 4 * text.length + 8
  match skipLines fuel text with
  | [] => some ([], [])
  | text => do
    let (items, rest) ← items? false fuel text
    match skipSpace rest with
    | [] => if items.isEmpty then none else return (items, [])
    | '\n' :: rest => if items.isEmpty then none else return (items, rest)
    | _ => none

end GracefulStop.Shell.Text
