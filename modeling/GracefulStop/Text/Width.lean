import GracefulStop.Text.Joins

/-!
# Display width

How many columns a text takes. A selector after a character asks for another form of it, which may
be wider or narrower.
-/

namespace GracefulStop.Text

/-- The forms that selectors ask for: an emoji, a plain character, a wide quotation mark. -/
inductive Form where
  | emoji
  | plain
  | wide
  deriving DecidableEq, Repr

/-- The form that a selector asks for. -/
def formOf? (c : Char) : Option Form :=
  if c == '\uFE0F' then some .emoji
  else if c == '\uFE0E' then some .plain
  else if c == '\uFE01' then some .wide
  else none

/-- The text after a character: what it starts with, and the form that is asked of the character. -/
structure Following where
  start : Start
  form : Option Form
  deriving DecidableEq, Repr

namespace Following

/-- The end of a text. -/
def nothing : Following := ⟨.plain, none⟩

/-- What a character adds to the text after it in the form that is asked of it, and what the text
starts with then, if the character has the form. -/
def shown? (start : Start) (c : Char) : Form → Option (Int × Start)
  | .emoji => if isSelectable c then some (if start.isJoiner then 0 else 2, .emoji) else none
  | .plain =>
    if isSelectable c && isEmoji c && !(0x1F200 ≤ c.toNat && c.toNat ≤ 0x1F2FF) then
      some (1, .plain)
    else none
  | .wide => if [0x2018, 0x2019, 0x201C, 0x201D].contains c.toNat then some (2, .plain) else none

/-- What a text starts with once the form that its selector asks for is not there. -/
def withoutForm (following : Following) : Start :=
  if following.form.isNone || following.start.isLetter then following.start else .plain

/-- A text with a selector before it. -/
def select (start : Start) (form : Form) : Following :=
  if start.isLetter || (form = .emoji && start.isJoiner) then ⟨start, some form⟩
  else ⟨.plain, some form⟩

/-- What a character adds to the text after it, and that text with the character before it. -/
def before (following : Following) (c : Char) : Int × Following :=
  match following.form.bind (shown? following.start c) with
  | some (columns, start) => (columns, ⟨start, none⟩)
  | none =>
    match formOf? c with
    | some form => (0, select following.withoutForm form)
    | none =>
      let (columns, start) := following.withoutForm.before c
      (columns, ⟨start, none⟩)

end Following

/-- The columns that characters take, and what they start with. -/
def measure (text : List Char) : Int × Following :=
  text.foldr (fun c (total, following) =>
    let (columns, following) := following.before c
    (total + columns, following)) (0, .nothing)

/-- How many columns a text takes. -/
def width (text : String) : Nat := (measure text.toList).1.toNat

end GracefulStop.Text
