import GracefulStop.Json.Printer
import GracefulStop.Proofs.Json.Values
import GracefulStop.Proofs.Toml.Tables
import GracefulStop.Query.Request

/-!
# What a request carries

The text of a request is read as an object with the statement and the parameters of the request, as they
are and in their order, and with nothing else. So no other request has this text.
-/

namespace GracefulStop.Request

open Json (IsValue ofMembers)

/-- The parameters of a request, one row after the other. -/
def params : Request → List Json
  | single _ params => params
  | bulk _ rows => rows.flatten

variable {request other : Request} {depth : Nat}

theorem isValue_member (shallow : depth ≤ Json.deepest - 3)
    (sound : ∀ param ∈ request.params, IsValue depth param) :
    ∀ member ∈ request.members, IsValue (Json.deepest - 1) member.2 := by
  have deep {value : Json} (within : IsValue (depth + 2) value) : IsValue (Json.deepest - 1) value :=
    within.mono (by simp only [Json.deepest] at *; omega)
  fun_cases members request with
  | case1 statement =>
      simp only [List.forall_mem_singleton]
      exact .string statement
  | case2 statement params _ =>
      simp only [List.forall_mem_cons, List.not_mem_nil, false_implies, implies_true, and_true]
      refine ⟨.string statement, deep ?_⟩
      exact .array fun param listed => (sound param listed).mono (Nat.le_succ depth)
  | case3 statement rows =>
      simp only [List.forall_mem_cons, List.not_mem_nil, false_implies, implies_true, and_true]
      refine ⟨.string statement, deep (.array ?_)⟩
      simp only [List.forall_mem_map]
      exact fun row rowListed => .array fun param listed =>
        sound param (List.mem_flatten_of_mem rowListed listed)

/-- The text of a request is read as its members, in the order of their names. -/
theorem read?_body (shallow : depth ≤ Json.deepest - 3)
    (sound : ∀ param ∈ request.params, IsValue depth param) :
    Json.read? request.body.compact = some (ofMembers request.members) :=
  Json.read?_members (isValue_member shallow sound)

theorem ofMembers_plain (statement : String) :
    ofMembers (single statement []).members = .object [("stmt", .string statement)] := rfl

theorem ofMembers_pair {first second : String} (less : first < second) (value other : Json) :
    ofMembers [(second, value), (first, other)] = .object [(first, other), (second, value)] := by
  simp [ofMembers, KeyMap.ofList, KeyMap.insert, less]

theorem ofMembers_single (statement : String) {params : List Json} (filled : params ≠ []) :
    ofMembers (single statement params).members =
      .object [("args", .array params), ("stmt", .string statement)] := by
  cases params with
  | nil => exact absurd rfl filled
  | cons param params => exact ofMembers_pair (by decide) _ _

theorem ofMembers_bulk (statement : String) (rows : List (List Json)) :
    ofMembers (bulk statement rows).members =
      .object [("bulk_args", .array (rows.map .array)), ("stmt", .string statement)] :=
  ofMembers_pair (by decide) _ _

/-- The request that an object carries. -/
def ofObject? (object : Json) : Option Request := do
  let statement ← (← object.member? "stmt").text?
  match object.member? "bulk_args", object.member? "args" with
  | some rows, _ => some (bulk statement (← (← rows.items?).mapM Json.items?))
  | none, some params => some (single statement (← params.items?))
  | none, none => some (single statement [])

/-- The members of a request tell what it is. -/
theorem ofObject?_ofMembers (request : Request) :
    ofObject? (ofMembers request.members) = some request := by
  rcases request with ⟨statement, _ | ⟨param, params⟩⟩ | ⟨statement, rows⟩
  · rfl
  · rw [ofMembers_single statement (List.cons_ne_nil _ _)]
    rfl
  · rw [ofMembers_bulk]
    have items : (rows.map Json.array).mapM Json.items? = some rows := Toml.mapM_map fun row _ => rfl
    change ((rows.map Json.array).mapM Json.items?).bind (fun rows => some (bulk statement rows)) = _
    rw [items]
    rfl

theorem eq_of_body (shallow : depth ≤ Json.deepest - 3)
    (sound : ∀ param ∈ request.params, IsValue depth param)
    (otherSound : ∀ param ∈ other.params, IsValue depth param)
    (same : request.body.compact = other.body.compact) : request = other := by
  have read := read?_body shallow sound
  rw [same, read?_body shallow otherSound] at read
  have carried := ofObject?_ofMembers request
  rw [← Option.some.inj read, ofObject?_ofMembers] at carried
  exact (Option.some.inj carried).symm

/-- The text of a request is read as exactly what it carries, and is the text of no other request. -/
theorem body_contract (depth : Nat) (shallow : depth ≤ Json.deepest - 3) :
    (∀ statement, Json.read? (single statement []).body.compact =
      some (.object [("stmt", .string statement)])) ∧
    (∀ statement params, params ≠ [] → (∀ param ∈ params, IsValue depth param) →
      Json.read? (single statement params).body.compact =
        some (.object [("args", .array params), ("stmt", .string statement)])) ∧
    (∀ statement rows, (∀ row ∈ rows, ∀ param ∈ row, IsValue depth param) →
      Json.read? (bulk statement rows).body.compact =
        some (.object [("bulk_args", .array (rows.map .array)), ("stmt", .string statement)])) ∧
    ∀ request other : Request, (∀ param ∈ request.params, IsValue depth param) →
      (∀ param ∈ other.params, IsValue depth param) → request ≠ other →
        request.body.compact ≠ other.body.compact := by
  refine ⟨fun statement => ?_, fun statement params filled sound => ?_,
    fun statement rows sound => ?_, ?_⟩
  · rw [read?_body shallow (by simp [params]), ofMembers_plain]
  · have each : ∀ param ∈ (single statement params).params, IsValue depth param := sound
    rw [read?_body shallow each, ofMembers_single statement filled]
  · have each : ∀ param ∈ (bulk statement rows).params, IsValue depth param := by
      intro param listed
      obtain ⟨row, rowListed, inRow⟩ := List.mem_flatten.mp listed
      exact sound row rowListed param inRow
    rw [read?_body shallow each, ofMembers_bulk]
  · exact fun request other sound otherSound different same =>
      different (eq_of_body shallow sound otherSound same)

/-- A double and a name that has to be escaped, in an object in an array. -/
def nested : Json := .array [.object [("a\"\n\x01", .float 0.5)], .int (-7), .null]

theorem isValue_nested : IsValue 120 nested := by
  have half : Json.ReadsBack 0.5 := by
    have written : Decimal.Style.json.write 0.5 = "0.5" := by decide +kernel
    change Json.read? (Decimal.Style.json.write 0.5) = _
    rw [written]
    rfl
  refine .array ?_
  simp only [List.forall_mem_cons, List.not_mem_nil, false_implies, implies_true, and_true]
  refine ⟨.object (List.pairwise_singleton _ _) ?_, .int (by decide) (by decide), .null⟩
  simp only [List.forall_mem_singleton]
  exact .float half

/-- A statement with one value, and the same with two rows, one of which is empty. -/
theorem body_contract_of_nested :
    Json.read? (single "select ?" [nested]).body.compact =
      some (.object [("args", .array [nested]), ("stmt", .string "select ?")]) ∧
    Json.read? (bulk "select ?" [[nested], []]).body.compact =
      some (.object
        [("bulk_args", .array [.array [nested], .array []]), ("stmt", .string "select ?")]) ∧
    (single "select ?" [nested]).body.compact ≠ (bulk "select ?" [[nested], []]).body.compact := by
  obtain ⟨_, one, rows, apart⟩ := body_contract 120 (by decide)
  have sound : ∀ param ∈ [nested], IsValue 120 param := by
    simp only [List.forall_mem_singleton]
    exact isValue_nested
  refine ⟨one _ _ (List.cons_ne_nil _ _) sound, rows _ _ ?_, apart _ _ sound sound (by simp)⟩
  simp only [List.forall_mem_cons, List.not_mem_nil, false_implies, implies_true, and_true]
  exact isValue_nested

end GracefulStop.Request
