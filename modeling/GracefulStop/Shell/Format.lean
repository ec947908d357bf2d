import GracefulStop.Shell.Arithmetic
import GracefulStop.Text.Search

/-!
# Formatted output

What the commands of a shell write that fill arguments into a format, and those that write their
arguments only.
-/

namespace GracefulStop.Shell

/-- Whether a character is an octal digit. -/
def isOctal (c : Char) : Bool := '0' ≤ c && c ≤ '7'

/-- The character of octal digits. -/
def octalChar (digits : List Char) : Char :=
  Char.ofNat ((digits.foldl (fun (value : Nat) c => value * 8 + (c.toNat - '0'.toNat)) 0) % 256)

/-- The characters that stand for others behind a backslash. -/
def escapes : List (Char × Char) :=
  [('\\', '\\'), ('a', '\x07'), ('b', '\x08'), ('e', '\x1b'), ('f', '\x0c'), ('n', '\n'),
    ('r', '\r'), ('t', '\t'), ('v', '\x0b')]

/-- What stands for itself or for another character at the start of a text, after a backslash. Up to
three octal digits stand for a character. -/
def escaped (text : List Char) : Char × List Char :=
  let digits := (text.take 3).takeWhile isOctal
  match text with
  | c :: rest =>
    if !digits.isEmpty then (octalChar digits, text.drop digits.length)
    else match escapes.lookup c with
      | some meant => (meant, rest)
      | none => ('\\', text)
  | [] => ('\\', [])

/-- A text with its escapes replaced, and whether one of them ends all output. An octal number has a
zero in front. Each character takes one unit of fuel at most. -/
def unescaped : (fuel : Nat) → List Char → List Char × Bool
  | 0, _ => ([], false)
  | _, [] => ([], false)
  | fuel + 1, c :: rest =>
    let (c, rest?) := match c, rest with
      | '\\', 'c' :: _ => (c, none)
      | '\\', '0' :: rest =>
        let digits := (rest.take 3).takeWhile isOctal
        (octalChar digits, some (rest.drop digits.length))
      | '\\', rest =>
        let (c, rest) := escaped rest
        (c, some rest)
      | c, rest => (c, some rest)
    match rest? with
    | none => ([], true)
    | some rest =>
      let (text, ends) := unescaped fuel rest
      (c :: text, ends)

/-- How many characters something takes. -/
inductive Amount where
  | given (number : Nat)
  /-- As many as the next argument says. -/
  | asked
  deriving DecidableEq, Repr, Inhabited

/-- How an argument is written. -/
structure Directive where
  flags : List Char
  width : Amount
  precision : Option Amount
  kind : Char
  deriving DecidableEq, Repr, Inhabited

/-- A part of a format. -/
inductive FormatPart where
  | char (c : Char)
  | directive (directive : Directive)
  /-- A directive that is none. -/
  | fault
  deriving DecidableEq, Repr, Inhabited

/-- An amount at the start of a text, and what follows it. -/
def amountOf : List Char → Amount × List Char
  | '*' :: rest => (.asked, rest)
  | text =>
    let digits := text.takeWhile Char.isDigit
    (.given ((String.ofList digits).toNat?.getD 0), text.drop digits.length)

/-- The directive at the start of a text, after the sign of one, and what follows it. -/
def directiveOf (text : List Char) : FormatPart × List Char :=
  let flags := text.takeWhile "#-+ 0".toList.contains
  let (width, rest) := amountOf (text.drop flags.length)
  let (precision, rest) := match rest with
    | '.' :: rest =>
      let (precision, rest) := amountOf rest
      (some precision, rest)
    | rest => (none, rest)
  match rest with
  | kind :: rest =>
    let kind := if kind == 'F' then 'f' else kind
    if "bcsdiouxXf".toList.contains kind then (.directive ⟨flags, width, precision, kind⟩, rest)
    else (.fault, rest)
  | [] => (.fault, [])

/-- The parts of a format. Each character takes one unit of fuel at most. -/
def formatParts : (fuel : Nat) → List Char → List FormatPart
  | 0, _ => []
  | _, [] => []
  | fuel + 1, '\\' :: rest =>
    let (c, rest) := escaped rest
    .char c :: formatParts fuel rest
  | fuel + 1, '%' :: '%' :: rest => .char '%' :: formatParts fuel rest
  | fuel + 1, '%' :: rest =>
    let (part, rest) := directiveOf rest
    part :: formatParts fuel rest
  | fuel + 1, c :: rest => .char c :: formatParts fuel rest

/-- What has been written by a format. -/
structure Formatting where
  /-- The characters, the last one first. -/
  written : List Char := []
  /-- The arguments that are left. -/
  arguments : List String
  status : Nat := 0
  /-- Whether nothing more is written. -/
  ended : Bool := false

namespace Formatting

/-- Writes characters. -/
def put (formatting : Formatting) (text : List Char) : Formatting :=
  { formatting with written := text.reverse ++ formatting.written }

/-- Takes the next argument. -/
def next (formatting : Formatting) : Option String × Formatting :=
  (formatting.arguments.head?, { formatting with arguments := formatting.arguments.drop 1 })

/-- The number at the start of a text, and whether it is all of the text. A quote stands before a
character whose code is the number. -/
def numberAtStart (text : String) : Int × Bool :=
  match text.toList with
  | c :: rest =>
    if c == '"' || c == '\x27' then ((rest.head?.map fun c => (c.toNat : Int)).getD 0, true)
    else
      let text := skipSpaces (c :: rest)
      let (isNegative, digits) := match text with
        | '-' :: digits => (true, digits)
        | '+' :: digits => (false, digits)
        | digits => (false, digits)
      let lengths := (List.range (digits.length + 1)).reverse
      match lengths.findSome? fun length =>
          (constant? (digits.take length)).map fun number => (number, length) with
      | some (number, length) => (if isNegative then -number else number, length = digits.length)
      | none => (0, false)
  | [] => (0, true)

/-- Takes the next argument as a number. -/
def nextNumber (formatting : Formatting) : Int × Formatting :=
  match formatting.next with
  | (some word, formatting) =>
    let (number, isWhole) := numberAtStart word
    let near := max (-2 ^ 63) (min number (2 ^ 63 - 1))
    (near, if isWhole && near = number then formatting else { formatting with status := 1 })
  | (none, formatting) => (0, formatting)

/-- The amount that is given or asked for. -/
def amount (formatting : Formatting) : Amount → Int × Formatting
  | .given number => (number, formatting)
  | .asked => formatting.nextNumber

end Formatting

/-- A text in a column of some width. -/
def padded (flags : List Char) (width : Int) (text : List Char) : List Char :=
  let blanks := List.replicate (width.natAbs - text.length) ' '
  if flags.contains '-' || width < 0 then text ++ blanks else blanks ++ text

/-- The digits of a number, of which there are some at least. -/
def digitsOf (base : Nat) (least : Nat) (number : Nat) : List Char :=
  let digits := if number = 0 then [] else Nat.toDigits base number
  List.replicate (least - digits.length) '0' ++ digits

/-- A number in a column: what stands before its digits, and the digits. -/
def paddedNumber (flags : List Char) (width : Int) (precision? : Option Nat) (sign : List Char)
    (digits : Nat → List Char) : List Char :=
  let isFilled := flags.contains '0' && !flags.contains '-' && 0 ≤ width && precision?.isNone
  let least := precision?.getD (if isFilled then width.toNat - sign.length else 1)
  padded flags width (sign ++ digits (max least (if precision?.isNone then 1 else 0)))

/-- The sign before a number that may be negative. -/
def signOf (flags : List Char) (isNegative : Bool) : List Char :=
  if isNegative then ['-']
  else if flags.contains '+' then ['+']
  else if flags.contains ' ' then [' ']
  else []

/-- The number of 64 bits without a sign. -/
def bitsOf (number : Int) : Nat := (number % 2 ^ 64).toNat

/-- A fraction without the part behind the point, rounded to the nearest and to the even of two. -/
def roundedRatio (number unit : Nat) : Nat :=
  let below := number / unit
  let rest := 2 * (number % unit)
  if unit < rest || (rest = unit && below % 2 = 1) then below + 1 else below

/-- A number that is not negative as so many units of the last of some decimal places. -/
def placesOf (places : Nat) (value : Float) : Nat :=
  let (fraction, exponent) := value.frExp
  let mantissa := (fraction.scaleB 53).toUInt64.toNat * 10 ^ places
  if exponent < 53 then roundedRatio mantissa (2 ^ (53 - exponent).toNat)
  else mantissa * 2 ^ (exponent - 53).toNat

/-- A decimal number with some places behind the point, and whether it is negative. -/
def fixedPoint (places : Nat) (text : String) : Bool × List Char :=
  let text := text.toList
  let (isNegative, text) := match text with
    | '-' :: text => (true, text)
    | '+' :: text => (false, text)
    | text => (false, text)
  let whole := text.takeWhile Char.isDigit
  let fraction := match text.drop whole.length with
    | '.' :: fraction => fraction.takeWhile Char.isDigit
    | _ => []
  let number := (String.ofList (whole ++ fraction)).toNat?.getD 0
  let digits :=
    digitsOf 10 (places + 1) (placesOf places (Float.ofScientific number true fraction.length))
  let split := digits.length - places
  (isNegative,
    digits.take split ++ (if places = 0 then [] else '.' :: digits.drop split))

namespace Formatting

/-- Writes an argument as a directive tells. -/
def direct (formatting : Formatting) (directive : Directive) : Formatting :=
  let flags := directive.flags
  let (width, formatting) := formatting.amount directive.width
  let (precision?, formatting) := match directive.precision with
    | some precision =>
      let (precision, formatting) := formatting.amount precision
      (if precision < 0 then none else some precision.toNat, formatting)
    | none => (none, formatting)
  let cut (text : List Char) := (precision?.map fun precision => text.take precision).getD text
  match directive.kind with
  | 's' =>
    let (word, formatting) := formatting.next
    formatting.put (padded flags width (cut (word.getD "").toList))
  | 'b' =>
    let (word, formatting) := formatting.next
    let text := (word.getD "").toList
    let (text, ends) := unescaped text.length text
    let formatting := formatting.put (padded flags width (cut text))
    { formatting with ended := ends }
  | 'c' =>
    let (word, formatting) := formatting.next
    formatting.put (padded flags width ((word.getD "").toList.take 1))
  | 'f' =>
    let (word, formatting) := formatting.next
    let (isNegative, digits) := fixedPoint (precision?.getD 6) (word.getD "0")
    let sign := signOf flags isNegative
    formatting.put (paddedNumber flags width none sign fun least =>
      List.replicate (least - digits.length) '0' ++ digits)
  | kind =>
    let (number, formatting) := formatting.nextNumber
    let bits := bitsOf number
    let isMarked := flags.contains '#' && bits ≠ 0
    let upper (text : List Char) := if kind == 'X' then text.map Char.toUpper else text
    formatting.put <|
      if kind == 'd' || kind == 'i' then
        paddedNumber flags width precision? (signOf flags (number < 0)) fun least =>
          digitsOf 10 least number.natAbs
      else if kind == 'o' then
        paddedNumber flags width precision? (if isMarked then ['0'] else []) fun least =>
          digitsOf 8 least bits
      else if kind == 'u' then
        paddedNumber flags width precision? [] fun least => digitsOf 10 least bits
      else
        paddedNumber flags width precision? (upper (if isMarked then ['0', 'x'] else []))
          fun least => upper (digitsOf 16 least bits)

/-- Writes a part of a format. -/
def take (formatting : Formatting) (part : FormatPart) : Formatting :=
  if formatting.ended then formatting
  else match part with
    | .char c => formatting.put [c]
    | .directive directive => formatting.direct directive
    | .fault => { formatting with ended := true, status := 2 }

/-- Writes a format again and again, as long as that takes arguments and there are more. -/
def whole (parts : List FormatPart) : (fuel : Nat) → Formatting → Formatting
  | 0, formatting => formatting
  | fuel + 1, formatting =>
    let count := formatting.arguments.length
    let formatting := parts.foldl take formatting
    let left := formatting.arguments.length
    if formatting.ended || left = 0 || left = count then formatting
    else whole parts fuel formatting

end Formatting

/-- What a format and its arguments make, and the status of that. -/
def formatted (format : String) (arguments : List String) : String × Nat :=
  let parts := formatParts format.length format.toList
  let formatting := Formatting.whole parts (arguments.length + 1) { arguments }
  (String.ofList formatting.written.reverse, formatting.status)

/-- What words look like that are written with blanks between them, and their escapes replaced. -/
def echoed (words : List String) : String :=
  let (isLine, words) := if words.head? = some "-n" then (false, words.drop 1) else (true, words)
  let text := (String.intercalate " " words).toList
  let (text, ends) := unescaped text.length text
  String.ofList text ++ (if isLine && !ends then "\n" else "")

/-- Whether a word tells how words are written. -/
def isEchoOption (word : String) : Bool :=
  match word.toList with
  | '-' :: letters => !letters.isEmpty && letters.all "neE".toList.contains
  | _ => false

/-- What words look like that are written with blanks between them, by a shell that replaces escapes
only if it is told so. -/
def echoedPlain (words : List String) : String :=
  let letters := (words.takeWhile isEchoOption).flatMap String.toList
  let text := (String.intercalate " " (words.dropWhile isEchoOption)).toList
  let switches := letters.filter fun letter => letter == 'e' || letter == 'E'
  let isOn := switches.getLast? = some 'e'
  let (text, ends) := if isOn then unescaped text.length text else (text, false)
  String.ofList text ++ (if letters.contains 'n' || ends then "" else "\n")

end GracefulStop.Shell
