import GracefulStop.Proofs.Text.Utf8
import GracefulStop.Query.Http
import Mathlib

/-!
# Error objects in answers

What the members of an object say about a declared field does not depend on the others. So an error
object is read whatever else stands in it, as long as the status is not that of a success. With the
status of a success it is one of the members that nothing declares.
-/

namespace GracefulStop

namespace Json.Tree

/-- Members with texts for names, none of them this one. -/
def Others (name : String) (members : List (Option String × Tree)) : Prop :=
  ∀ member ∈ members, member.1.isSome ∧ member.1 ≠ some name

/-- An object with a single member of a name. -/
def Holds (tree : Tree) (name : String) (value : Tree) : Prop :=
  ∃ before after, tree = .object (before ++ (some name, value) :: after) ∧
    Others name (before ++ after)

/-- An object without a member of a name. -/
def Lacks (tree : Tree) (name : String) : Prop :=
  ∃ members, tree = .object members ∧ Others name members

/-- An object without its members of a name. -/
def without (name : String) : Tree → Tree
  | .object members => .object (members.filter (·.1 ≠ some name))
  | tree => tree

/-- What the members of an object say about a declared field is what those of its name are. -/
theorem fields?_object (names : List String) {members : List (Option String × Tree)}
    (texts : members.any (·.1.isNone) = false) :
    (object members).fields? names = names.mapM fun name =>
      match members.filterMap fun member => if member.1 = some name then some member.2 else none with
      | [] => some .absent
      | [value] => some (.present value)
      | _ => none :=
  if_neg (by rw [texts]; exact Bool.false_ne_true)

theorem fields?_of_isNone (names : List String) {members : List (Option String × Tree)}
    (refused : members.any (·.1.isNone) = true) : (object members).fields? names = none :=
  if_pos refused

section

variable {name : String} {names : List String} {value tree : Tree}
  {members before after : List (Option String × Tree)}

theorem Others.texts (others : Others name members) : members.any (·.1.isNone) = false := by
  rw [List.any_eq_false]
  intro member among
  rw [Bool.not_eq_true, Option.isNone_eq_false_iff]
  exact (others member among).1

theorem Others.filterMap (others : Others name members) :
    (members.filterMap fun member => if member.1 = some name then some member.2 else none) = [] := by
  rw [List.filterMap_eq_nil_iff]
  intro member among
  exact if_neg (others member among).2

theorem Others.texts_around (others : Others name (before ++ after)) :
    (before ++ (some name, value) :: after).any (·.1.isNone) = false := by
  have texts := others.texts
  rw [List.any_append] at texts ⊢
  exact texts

theorem Holds.fields?_cons (holds : tree.Holds name value) :
    tree.fields? (name :: names) = (tree.fields? names).map (.present value :: ·) := by
  rcases holds with ⟨before, after, rfl, others⟩
  have others' : Others name before ∧ Others name after := by
    constructor
    · exact fun member among => others member (List.mem_append_left _ among)
    · exact fun member among => others member (List.mem_append_right _ among)
  have single : ((before ++ (some name, value) :: after).filterMap fun member =>
      if member.1 = some name then some member.2 else none) = [value] := by
    rw [List.filterMap_append, others'.1.filterMap, List.filterMap_cons, others'.2.filterMap,
      if_pos rfl, List.nil_append]
  rw [fields?_object _ others.texts_around, fields?_object _ others.texts_around, List.mapM_cons,
    single, Option.map_eq_bind]
  rfl

theorem Lacks.fields?_cons (lacks : tree.Lacks name) :
    tree.fields? (name :: names) = (tree.fields? names).map (.absent :: ·) := by
  rcases lacks with ⟨members, rfl, others⟩
  rw [fields?_object _ others.texts, fields?_object _ others.texts, List.mapM_cons,
    others.filterMap, Option.map_eq_bind]
  rfl

theorem Holds.fields?_nil (holds : tree.Holds name value) : tree.fields? [] = some [] := by
  rcases holds with ⟨before, after, rfl, others⟩
  exact fields?_object [] others.texts_around

theorem Lacks.fields?_nil (lacks : tree.Lacks name) : tree.fields? [] = some [] := by
  rcases lacks with ⟨members, rfl, others⟩
  exact fields?_object [] others.texts

theorem filterMap_without {other : String} (different : other ≠ name)
    (members : List (Option String × Tree)) :
    ((members.filter (·.1 ≠ some name)).filterMap fun member =>
        if member.1 = some other then some member.2 else none) =
      members.filterMap fun member => if member.1 = some other then some member.2 else none := by
  rw [List.filterMap_filter]
  congr 1
  funext member
  by_cases same : member.1 = some other
  · simp [same, different]
  · simp [same]

/-- A field is read alike whether or not members stand in the object that nothing declares. -/
theorem fields?_without (undeclared : name ∉ names) (tree : Tree) :
    (tree.without name).fields? names = tree.fields? names := by
  cases tree with
  | object members =>
      have kept : (members.filter (·.1 ≠ some name)).any (·.1.isNone) = members.any (·.1.isNone) := by
        rw [List.any_filter]
        congr 1
        funext member
        cases member.1 <;> simp
      rw [without]
      cases texts : members.any (·.1.isNone) with
      | true =>
          rw [texts] at kept
          rw [fields?_of_isNone _ texts, fields?_of_isNone _ kept]
      | false =>
          rw [texts] at kept
          rw [fields?_object _ texts, fields?_object _ kept]
          induction names with
          | nil => rfl
          | cons other names ih =>
              rw [List.mem_cons, not_or] at undeclared
              rw [List.mapM_cons, List.mapM_cons, filterMap_without (Ne.symm undeclared.1),
                ih undeclared.2]
  | _ => rfl

end

/-- A code that an error object gives, or that it gives none. -/
inductive Codes : Option Int → Tree → Prop
  | missing {error : Tree} (lacks : error.Lacks "code") : Codes none error
  | null {error : Tree} (holds : error.Holds "code" .null) : Codes none error
  | whole {error : Tree} {literal : List Char} {code : Int}
      (holds : error.Holds "code" (.number literal))
      (written : (Literal.ofChars literal).value? = some (.int code))
      (fits : -2 ^ 63 ≤ code ∧ code < 2 ^ 63) : Codes (some code) error

/-- An object whose member for an error is an object with a message and perhaps a code. -/
def IsErrorEnvelope (tree : Tree) (message : String) (code : Option Int) : Prop :=
  ∃ error, tree.Holds "error" error ∧ error.Holds "message" (.string (some message)) ∧
    error.Codes code

theorem Codes.fields? {error : Tree} {message : String} {code : Option Int}
    (codes : error.Codes code) (holds : error.Holds "message" (.string (some message))) :
    ∃ field,
      error.fields? ["message", "code"] = some [.present (.string (some message)), field] ∧
      field.orElse none (optional? (int? Response.leastCount Response.greatestCount)) = some code := by
  rw [holds.fields?_cons]
  cases codes with
  | missing lacks => exact ⟨.absent, by rw [lacks.fields?_cons, lacks.fields?_nil]; rfl, rfl⟩
  | null holds => exact ⟨_, by rw [holds.fields?_cons, holds.fields?_nil]; rfl, rfl⟩
  | whole holds written fits =>
      refine ⟨_, by rw [holds.fields?_cons, holds.fields?_nil]; rfl, ?_⟩
      have between : Response.leastCount ≤ _ ∧ _ ≤ Response.greatestCount :=
        ⟨fits.1, Int.le_sub_one_of_lt fits.2⟩
      simp [Field.orElse, optional?, int?, written, between]

end Json.Tree

namespace HttpAnswer

variable {answer other : HttpAnswer} {request : Request} {tree : Json.Tree}

theorem envelope?_of_isErrorEnvelope {text message : String} {code : Option Int}
    (parsed : Json.parse? text = some tree) (envelope : tree.IsErrorEnvelope message code) :
    envelope? text = some (message, code) := by
  rcases envelope with ⟨error, holds, message, codes⟩
  rcases codes.fields? message with ⟨field, read, given⟩
  have outer : tree.fields? ["error"] = some [.present error] := by
    rw [holds.fields?_cons, holds.fields?_nil]
    rfl
  simp [envelope?, parsed, outer, Json.Tree.Field.required, read, Json.Tree.string?, given]

theorem response_of_rejected (rejected : isSuccess answer.status = false) :
    answer.response request = .error (rejection answer.status answer.text) := by
  have refused : answer.successText = .error (rejection answer.status answer.text) := by
    rw [successText, rejected]
    rfl
  cases request <;>
    · rw [response, refused]
      rfl

/-- The body of a success is read as if it held no error. -/
theorem response_of_without (success : isSuccess answer.status = true)
    (same : other.status = answer.status) (parsed : Json.parse? answer.text = some tree)
    (parsed' : Json.parse? other.text = some (tree.without "error")) :
    answer.response request = other.response request := by
  have accepted : answer.successText = .ok answer.text := if_pos success
  have accepted' : other.successText = .ok other.text := if_pos (same ▸ success)
  cases request with
  | single statement params =>
      have undeclared : Response.ofTree? (tree.without "error") = Response.ofTree? tree := by
        unfold Response.ofTree?
        rw [Json.Tree.fields?_without (by decide)]
      rw [response, response, accepted, accepted']
      simp only [bind, Except.bind, parsed, parsed', Option.bind_some, undeclared]
  | bulk statement rows =>
      have undeclared : Response.bulkCounts? (tree.without "error") = Response.bulkCounts? tree := by
        unfold Response.bulkCounts?
        rw [Json.Tree.fields?_without (by decide)]
      rw [response, response, accepted, accepted']
      simp only [bind, Except.bind, parsed, parsed', Option.bind_some, undeclared]

end HttpAnswer

theorem HttpOutcome.response_of_final {answer : HttpAnswer}
    (final : 200 ≤ answer.status ∧ answer.status ≤ 999) (request : Request) :
    (answered answer).response request = answer.response request := by
  have enough : (100 ≤ answer.status && answer.status ≤ 999 &&
      (answer.status = 101 || 200 ≤ answer.status)) = true := by
    simp
    omega
  exact if_pos enough

/-- An error object is the error of a request, with its message and its code, unless the status is
that of a success. A success is read as if its body held no error. -/
theorem HttpOutcome.response_of_isErrorEnvelope {answer : HttpAnswer} {tree : Json.Tree}
    {message : String} {code : Option Int} (final : 200 ≤ answer.status ∧ answer.status ≤ 999)
    (parsed : Json.parse? answer.text = some tree) (envelope : tree.IsErrorEnvelope message code)
    (request : Request) :
    (HttpAnswer.isSuccess answer.status = false →
      (answered answer).response request = .error (.sql code message)) ∧
    (HttpAnswer.isSuccess answer.status = true → ∀ other : HttpAnswer,
      other.status = answer.status → Json.parse? other.text = some (tree.without "error") →
      (answered answer).response request = (answered other).response request) := by
  rw [response_of_final final]
  constructor
  · intro rejected
    rw [HttpAnswer.response_of_rejected rejected, HttpAnswer.rejection,
      HttpAnswer.envelope?_of_isErrorEnvelope parsed envelope]
  · intro success other same parsed'
    rw [response_of_final (same ▸ final)]
    exact HttpAnswer.response_of_without success same parsed parsed'

/-- An answer with a text for its body. -/
def replying (status : Nat) (text : String) : HttpAnswer := ⟨status, text.toUTF8.toList⟩

theorem text_replying {status : Nat} (body : HttpAnswer.hasBody status = true) (text : String) :
    (replying status text).text = text := by
  rw [HttpAnswer.text, replying, if_pos body, Text.ofUtf8_toUTF8]

/-- An error with a code. -/
def boom : String := "\x7b\"error\":\x7b\"message\":\"boom\",\"code\":4000\x7d\x7d"

/-- The object that says so. -/
def boomTree : Json.Tree :=
  .object [(some "error", .object [(some "message", .string (some "boom")),
    (some "code", .number ['4', '0', '0', '0'])])]

theorem parse?_boom : Json.parse? boom = some boomTree := by cbv

theorem isErrorEnvelope_boomTree : boomTree.IsErrorEnvelope "boom" (some 4000) := by
  refine ⟨_, ⟨[], [], rfl, ?_⟩, ⟨[], [_], rfl, ?_⟩, .whole ⟨[_], [], rfl, ?_⟩ (by cbv) (by decide)⟩
  · simp [Json.Tree.Others]
  · simp [Json.Tree.Others]
  · simp [Json.Tree.Others]

theorem HttpOutcome.response_of_isErrorEnvelope_of_boom :
    (answered (replying 404 boom)).response (.single "SELECT 1" []) =
        .error (.sql (some 4000) "boom") ∧
      (answered (replying 404 boom)).response (.bulk "SELECT 1" [[]]) =
        .error (.sql (some 4000) "boom") := by
  have parsed : Json.parse? (replying 404 boom).text = some boomTree := by
    rw [text_replying rfl, parse?_boom]
  have reports := response_of_isErrorEnvelope (by decide) parsed isErrorEnvelope_boomTree
  exact ⟨(reports _).1 rfl, (reports _).1 rfl⟩

/-- An error with a code that takes more than 64 bits. -/
def overflow : String :=
  "\x7b\"error\":\x7b\"message\":\"boom\",\"code\":9223372036854775808\x7d\x7d"

theorem HttpOutcome.ok_of_boom :
    Json.parse? boom = some boomTree ∧ boomTree.IsErrorEnvelope "boom" (some 4000) ∧
      (answered (replying 200 boom)).response (.single "SELECT 1" []) = .ok ⟨[], [], -1⟩ ∧
      (answered (replying 200 boom)).response (.bulk "SELECT 1" [[]]) = .ok (.affected 0) ∧
      (answered (replying 500 overflow)).response (.single "SELECT 1" []) =
        .error (.sql none ("HTTP 500: " ++ overflow)) := by
  have accepted : (replying 200 boom).successText = .ok boom := by
    rw [HttpAnswer.successText, text_replying rfl]
    rfl
  have unread : HttpAnswer.envelope? overflow = none := by cbv
  refine ⟨parse?_boom, isErrorEnvelope_boomTree, ?_, ?_, ?_⟩
  · rw [response_of_final (by decide), HttpAnswer.response, accepted]
    simp only [bind, Except.bind, parse?_boom]
    rfl
  · rw [response_of_final (by decide), HttpAnswer.response, accepted]
    simp only [bind, Except.bind, parse?_boom]
    rfl
  · rw [response_of_final (by decide), HttpAnswer.response_of_rejected rfl, HttpAnswer.rejection,
      text_replying rfl, unread]
    rfl

end GracefulStop
