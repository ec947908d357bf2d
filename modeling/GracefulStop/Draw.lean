/-!
# Drawing lots

A `Draw` answers "which of so many" from a state and moves the state on. Programs that draw take
any `Draw`; `Draw.congruential` is one that looks arbitrary.
-/

namespace GracefulStop

/-- Chooses a number below a bound, and moves the state on. -/
abbrev Draw (State : Type) := Nat → State → Nat × State

namespace Draw

variable {State : Type}

/-- The number that was drawn, brought below the bound. -/
def below (draw : Draw State) (bound : Nat) (state : State) : Nat × State :=
  let (number, state) := draw bound state
  (number % bound, state)

/-- One of the items, if there is one. -/
def oneOf {Item : Type} (draw : Draw State) (items : List Item) (state : State) :
    Option Item × State :=
  let (index, state) := draw.below items.length state
  (items[index]?, state)

/-- Takes so many items out of a list, each time one of those that are left. -/
def takeOut {Item : Type} (draw : Draw State) : (count : Nat) → List Item → State →
    List Item × State
  | 0, _, state => ([], state)
  | count + 1, items, state =>
    let (index, state) := draw.below items.length state
    match items[index]? with
    | none => ([], state)
    | some item =>
      let (rest, state) := takeOut draw count (items.eraseIdx index) state
      (item :: rest, state)

/-- The items in an order that was drawn. -/
def shuffle {Item : Type} (draw : Draw State) (items : List Item) (state : State) :
    List Item × State :=
  takeOut draw items.length items state

/-- A linear congruential generator on words of 64 bits, of which it shows the upper half. -/
def congruential : Draw UInt64 := fun bound seed =>
  let next := seed * 6364136223846793005 + 1442695040888963407
  ((next >>> 32).toNat % bound, next)

end Draw

end GracefulStop
