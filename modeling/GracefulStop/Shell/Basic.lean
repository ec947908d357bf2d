/-!
# Shell scripts

The language of shell scripts. A word is made of texts and of parts that are replaced when the word
is used. Commands are simple or compound; they are joined by pipes, and pipes by the condition that
the one before succeeded or failed.
-/

namespace GracefulStop.Shell

/-- What the value of a parameter gives way to. -/
inductive Adjustment where
  /-- A word, where the parameter has no value. -/
  | default
  /-- A word that becomes the value, where the parameter has none. -/
  | assign
  /-- An error, where the parameter has no value. -/
  | demand
  /-- An error in any case. -/
  | refuse
  /-- A word, where the parameter has a value. -/
  | replace
  /-- The value without a part at its start, the shortest or the longest that fits a pattern. -/
  | withoutStart (longest : Bool)
  /-- The value without a part at its end. -/
  | withoutStop (longest : Bool)
  deriving DecidableEq, Repr, Inhabited

/-- How a file is written. -/
inductive Writing where
  /-- From its start. Some shells take care that no file is lost in this way. -/
  | anew
  /-- From its start, whether a file is lost or not. -/
  | over
  /-- From its end on. -/
  | onwards
  deriving DecidableEq, Repr, Inhabited

mutual

/-- A part of a word. What is quoted is not split into several words. -/
inductive Piece where
  | text (quoted : Bool) (text : String)
  | parameter (quoted : Bool) (name : String)
  /-- The number of characters of a parameter's value. -/
  | count (name : String)
  /-- The value of a parameter, adjusted. An empty value may count as none. -/
  | adjusted (quoted : Bool) (name : String) (emptyIsNone : Bool) (adjustment : Adjustment)
    (word : List Piece)
  | arithmetic (quoted : Bool) (expression : List Piece)
  /-- What commands write. -/
  | output (quoted : Bool) (body : List Item)

/-- Where a command reads or writes. What it writes has a number, of which one is its output. -/
inductive Direction where
  /-- Reads from a file. -/
  | source (file : List Piece)
  /-- Writes to a file. -/
  | target (number : Nat) (writing : Writing) (file : List Piece)
  /-- Writes where something else is written. -/
  | copy (number : Nat) (name : List Piece)
  /-- Reads a text. -/
  | document (text : List Piece)

/-- A command. -/
inductive Command where
  | simple (assignments : List (String × List Piece)) (words : List (List Piece))
  | group (body : List Item)
  | subshell (body : List Item)
  | branch (condition body otherwise : List Item)
  /-- The body again and again, as long as the condition succeeds, or as long as it fails. -/
  | repeated (wanted : Bool) (condition body : List Item)
  /-- The body for each of the words, or for each argument. -/
  | each (name : String) (words : Option (List (List Piece))) (body : List Item)
  /-- The body behind the first pattern that a word fits. -/
  | select (word : List Piece) (arms : List (List (List Piece) × List Item))
  | define (name : String) (body : Command)
  /-- A command that reads and writes as told. -/
  | directed (directions : List Direction) (body : Command)

/-- Commands joined by pipes, the success of which may be turned round. -/
inductive Pipeline where
  | mk (negated : Bool) (commands : List Command)

/-- Pipes, each after the first with whether the one before has to succeed or to fail. All of them
may be left to run on their own. -/
inductive Item where
  | mk (background : Bool) (first : Pipeline) (rest : List (Bool × Pipeline))

end

/-- A word. -/
abbrev Word := List Piece

instance : Inhabited Piece := ⟨.text false ""⟩

instance : Inhabited Direction := ⟨.source []⟩

instance : Inhabited Command := ⟨.simple [] []⟩

instance : Inhabited Pipeline := ⟨.mk false []⟩

instance : Inhabited Item := ⟨.mk false default []⟩

end GracefulStop.Shell
