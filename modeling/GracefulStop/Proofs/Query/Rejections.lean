import GracefulStop.Proofs.Query.Envelope
import GracefulStop.Proofs.Text.Search
import GracefulStop.Shard.Await
import Mathlib

/-!
# What becomes of a rejected statement

The body of an answer that is no success is an error object or just a text. Which of the two it is, and
what it says, settles three things at once: whether the statement is repeated, whether a wait for the
shards goes on, and whether a worker passes over the error. The main statement reads them off the body.
No error is both repeated and passed over.
-/

namespace GracefulStop

/-! ## Error objects -/

namespace Json.Tree

/-- A value that writes a code, or that there is none. -/
inductive Writes : Option Int → Tree → Prop
  | null : Writes none .null
  | whole {literal : List Char} {code : Int}
      (written : (Literal.ofChars literal).value? = some (.int code))
      (fits : -2 ^ 63 ≤ code ∧ code < 2 ^ 63) : Writes (some code) (.number literal)

/-- An error: an object with a message and perhaps a code, or an array of them in this order. -/
inductive Tells (message : String) : Option Int → Tree → Prop
  | members {code : Option Int} {error : Tree}
      (holds : error.Holds "message" (.string (some message))) (codes : error.Codes code) :
      Tells message code error
  | alone : Tells message none (.array [.string (some message)])
  | both {code : Option Int} {value : Tree} (writes : value.Writes code) :
      Tells message code (.array [.string (some message), value])

/-- An error object: an object whose member for an error tells one, or an array of nothing else. -/
inductive IsEnvelope (message : String) (code : Option Int) : Tree → Prop
  | member {tree error : Tree} (holds : tree.Holds "error" error) (tells : error.Tells message code) :
      IsEnvelope message code tree
  | item {error : Tree} (tells : error.Tells message code) : IsEnvelope message code (.array [error])

variable {name message : String} {names : List String} {tree error value : Tree}
  {field first second : Field} {fields : List Field} {members : List (Option String × Tree)}
  {code : Option Int}

theorem lacks_of_filterMap (texts : members.any (·.1.isNone) = false)
    (empty : (members.filterMap fun member =>
      if member.1 = some name then some member.2 else none) = []) : (object members).Lacks name := by
  refine ⟨members, rfl, fun member among => ⟨?_, fun same => ?_⟩⟩
  · have named := List.any_eq_false.mp texts member among
    rwa [Bool.not_eq_true, Option.isNone_eq_false_iff] at named
  · have passed := List.filterMap_eq_nil_iff.mp empty member among
    rw [if_pos same] at passed
    cases passed

theorem holds_of_filterMap (texts : members.any (·.1.isNone) = false)
    (single : (members.filterMap fun member =>
      if member.1 = some name then some member.2 else none) = [value]) :
    (object members).Holds name value := by
  rcases List.filterMap_eq_cons_iff.mp single with
    ⟨before, ⟨found, tree⟩, after, rfl, passedBefore, here, passedAfter⟩
  have same : found = some name ∧ tree = value := by simpa using here
  rcases same with ⟨rfl, rfl⟩
  have passed : ∀ member ∈ before ++ after,
      (if member.1 = some name then some member.2 else none) = none := by
    intro member among
    rcases List.mem_append.mp among with early | late
    · exact passedBefore member early
    · exact List.filterMap_eq_nil_iff.mp passedAfter member late
  refine ⟨before, after, rfl, fun member among => ⟨?_, fun again => ?_⟩⟩
  · have everywhere : member ∈ before ++ (some name, tree) :: after := by
      rcases List.mem_append.mp among with early | late
      · exact List.mem_append_left _ early
      · exact List.mem_append_right _ (List.mem_cons_of_mem _ late)
    have named := List.any_eq_false.mp texts member everywhere
    rwa [Bool.not_eq_true, Option.isNone_eq_false_iff] at named
  · have none := passed member among
    rw [if_pos again] at none
    cases none

/-- What an object says about its first declared field. -/
theorem fields?_object_cons
    (read : (object members).fields? (name :: names) = some (field :: fields)) :
    (object members).fields? names = some fields ∧
      ((∃ value, field = .present value ∧ (object members).Holds name value) ∨
        field = .absent ∧ (object members).Lacks name) := by
  cases texts : members.any (·.1.isNone) with
  | true =>
      rw [fields?_of_isNone _ texts] at read
      cases read
  | false =>
      rw [fields?_object _ texts, List.mapM_cons] at read
      rcases Option.bind_eq_some_iff.mp read with ⟨said, saidFirst, rest⟩
      rcases Option.bind_eq_some_iff.mp rest with ⟨others, saidOthers, same⟩
      cases same
      refine ⟨(fields?_object _ texts).trans saidOthers, ?_⟩
      split at saidFirst
      · rename_i empty
        cases saidFirst
        exact .inr ⟨rfl, lacks_of_filterMap texts empty⟩
      · rename_i value single
        cases saidFirst
        exact .inl ⟨value, rfl, holds_of_filterMap texts single⟩
      · cases saidFirst

theorem fields?_of_long {items : List Tree} (long : names.length < items.length) :
    (array items).fields? names = none := if_pos long

theorem int?_eq_some {least greatest whole : Int} (read : value.int? least greatest = some whole) :
    ∃ literal, value = .number literal ∧ (Literal.ofChars literal).value? = some (.int whole) ∧
      least ≤ whole ∧ whole ≤ greatest := by
  unfold int? at read
  split at read
  · rename_i literal
    split at read
    · rename_i written
      split at read
      · rename_i inside
        cases read
        exact ⟨literal, rfl, written, by simpa using inside⟩
      · cases read
    · cases read
  · cases read

/-- How the code of an error is read. -/
def code? (field : Field) : Option (Option Int) :=
  field.orElse none (optional? (int? Response.leastCount Response.greatestCount))

theorem code?_present : code? (.present value) = some code ↔ value.Writes code := by
  constructor
  · intro read
    by_cases empty : value = .null
    · subst empty
      cases read
      exact .null
    · have given : (value.int? Response.leastCount Response.greatestCount).map some = some code := by
        simpa only [code?, Field.orElse, optional?] using read
      rcases Option.map_eq_some_iff.mp given with ⟨found, whole, rfl⟩
      rcases int?_eq_some whole with ⟨literal, rfl, written, least, greatest⟩
      exact .whole written ⟨least, Int.lt_of_le_sub_one greatest⟩
  · intro writes
    cases writes with
    | null => rfl
    | whole written fits =>
        have between : Response.leastCount ≤ _ ∧ _ ≤ Response.greatestCount :=
          ⟨fits.1, Int.le_sub_one_of_lt fits.2⟩
        simp [code?, Field.orElse, optional?, int?, written, between]

theorem Codes.of_code? (read : code? field = some code)
    (said : (∃ value, field = .present value ∧ error.Holds "code" value) ∨
      field = .absent ∧ error.Lacks "code") : error.Codes code := by
  rcases said with ⟨value, rfl, holds⟩ | ⟨rfl, lacks⟩
  · cases code?_present.mp read with
    | null => exact .null holds
    | whole written fits => exact .whole holds written fits
  · cases read
    exact .missing lacks

theorem required_present {Value : Type} (read : Tree → Option Value) :
    (Field.present value).required read = read value := rfl

theorem required_string? (read : field.required string? = some message) :
    field = .present (.string (some message)) := by
  rcases field with (_ | _ | _ | value | _ | _) | _ | _
  case present.string =>
    cases value with
    | none => cases read
    | some text =>
        cases read
        rfl
  all_goals cases read

/-- What is read as an error tells one. -/
theorem tells_iff : error.Tells message code ↔ ∃ first second,
    error.fields? ["message", "code"] = some [first, second] ∧
      first.required string? = some message ∧ code? second = some code := by
  constructor
  · intro tells
    cases tells with
    | members holds codes =>
        rcases codes.fields? holds with ⟨field, read, given⟩
        exact ⟨_, field, read, rfl, given⟩
    | alone => exact ⟨_, .beyond, rfl, rfl, rfl⟩
    | both writes => exact ⟨_, _, rfl, rfl, code?_present.mpr writes⟩
  · rintro ⟨first, second, read, text, given⟩
    cases required_string? text
    cases error with
    | object members =>
        rcases fields?_object_cons read with ⟨readCode, ⟨value, same, holds⟩ | ⟨same, _⟩⟩
        · cases same
          exact .members holds (.of_code? given (fields?_object_cons readCode).2)
        · cases same
    | array items =>
        rcases items with _ | ⟨one, _ | ⟨two, _ | ⟨three, rest⟩⟩⟩
        · cases read
        · cases read
          cases given
          exact .alone
        · cases read
          exact .both (code?_present.mp given)
        · rw [fields?_of_long (by simp)] at read
          cases read
    | _ => cases read

/-- What is read as an error object is one. -/
theorem isEnvelope_iff : tree.IsEnvelope message code ↔
    ∃ error, tree.fields? ["error"] = some [.present error] ∧ error.Tells message code := by
  constructor
  · intro envelope
    cases envelope with
    | @member _ error holds tells =>
        refine ⟨error, ?_, tells⟩
        rw [holds.fields?_cons, holds.fields?_nil]
        rfl
    | item tells => exact ⟨_, rfl, tells⟩
  · rintro ⟨error, read, tells⟩
    cases tree with
    | object members =>
        rcases (fields?_object_cons read).2 with ⟨value, same, holds⟩ | ⟨same, _⟩
        · cases same
          exact .member holds tells
        · cases same
    | array items =>
        rcases items with _ | ⟨one, _ | ⟨two, rest⟩⟩
        · cases read
        · cases read
          exact .item tells
        · rw [fields?_of_long (by simp)] at read
          cases read
    | _ => cases read

end Json.Tree

namespace HttpAnswer

variable {answer : HttpAnswer} {text message : String} {code : Option Int}

theorem envelope?_iff : envelope? text = some (message, code) ↔
    ∃ tree, Json.parse? text = some tree ∧ tree.IsEnvelope message code := by
  simp only [envelope?, Option.bind_eq_bind, Option.bind_eq_some_iff]
  constructor
  · rintro ⟨tree, parsed, fields, read, rest⟩
    split at rest
    · rename_i field
      rcases field with error | _ | _
      · simp only [Json.Tree.Field.required, Option.bind_eq_some_iff] at rest
        rcases rest with ⟨inner, readInner, rest⟩
        split at rest
        · rename_i first second
          rcases Option.bind_eq_some_iff.mp rest with ⟨_, text, rest⟩
          rcases Option.bind_eq_some_iff.mp rest with ⟨_, given, same⟩
          cases same
          have tells := Json.Tree.tells_iff.mpr ⟨first, second, readInner, text, given⟩
          exact ⟨tree, parsed, Json.Tree.isEnvelope_iff.mpr ⟨error, read, tells⟩⟩
        · cases rest
      · cases rest
      · cases rest
    · cases rest
  · rintro ⟨tree, parsed, envelope⟩
    rcases Json.Tree.isEnvelope_iff.mp envelope with ⟨error, read, tells⟩
    rcases Json.Tree.tells_iff.mp tells with ⟨first, second, readInner, text, given⟩
    refine ⟨tree, parsed, _, read, ?_⟩
    simp only [Json.Tree.code?] at given
    simp [Json.Tree.required_present, readInner, text, given]

/-- The body of an answer is an error object with a message and perhaps a code. -/
def Reports (answer : HttpAnswer) (message : String) (code : Option Int) : Prop :=
  ∃ tree, Json.parse? answer.text = some tree ∧ tree.IsEnvelope message code

end HttpAnswer

/-! ## Patterns -/

/-- A text has one of some patterns in it. -/
def Mentions (patterns : List String) (text : String) : Prop :=
  ∃ pattern ∈ patterns, pattern.toList <:+: text.toList

theorem containsAny_iff {text : String} {patterns : List String} :
    QueryError.containsAny text patterns = true ↔ Mentions patterns text := by
  simp [QueryError.containsAny, Mentions, Text.contains_iff]

/-- The status before a text has no pattern in it, not even together with the text. -/
theorem mentions_labelled {patterns : List String}
    (apart : ∀ pattern ∈ patterns, ':' ∉ pattern.toList ∧ pattern.toList.head? ≠ some ' ' ∧
      'n' ∈ pattern.toList) (status : Nat) (text : String) :
    Mentions patterns ("HTTP " ++ toString status ++ ": " ++ text) ↔ Mentions patterns text := by
  -- Each pattern has an `n`, which neither the word nor a number has.
  have unlike : 'n' ∉ ("HTTP " ++ toString status).toList := by
    rw [String.toList_append, List.mem_append]
    rintro (word | number)
    · revert word
      decide
    · have digits : (toString status).toList = Nat.toDigits 10 status := Nat.toList_repr
      rw [digits] at number
      have digit := Nat.isDigit_of_mem_toDigits (by decide) (by decide) number
      revert digit
      decide
  apply exists_congr
  intro pattern
  apply and_congr_right
  intro member
  rcases apart pattern member with ⟨plain, starts, letter⟩
  have parts : ("HTTP " ++ toString status ++ ": " ++ text).toList =
      ("HTTP " ++ toString status).toList ++ ':' :: ' ' :: text.toList := by
    simp
  rw [parts]
  exact Text.infix_labelled plain starts ⟨'n', letter, unlike⟩

namespace QueryError

variable {code : Option Int} {message : String}

theorem isTransient_sql : (sql code message).isTransient = true ↔
    code ≠ some 4041 ∧ Mentions transientPatterns message := by
  rw [isTransient, decide_eq_true_iff, kind, tableUnknownCode, ← containsAny_iff]
  split_ifs with coded transient unknown
  · simp [coded]
  · simp [coded, transient]
  · simp [transient]
  · simp [transient]

theorem isTableUnknown_sql : (sql code message).isTableUnknown = true ↔
    code = some 4041 ∨
      Mentions tableUnknownPatterns message ∧ ¬Mentions transientPatterns message := by
  rw [isTableUnknown, decide_eq_true_iff, kind, tableUnknownCode, ← containsAny_iff,
    ← containsAny_iff]
  split_ifs with coded transient unknown
  · simp [coded]
  · simp [coded, transient]
  · simp [unknown, transient]
  · simp [coded, unknown]

end QueryError

namespace HttpAnswer

/-- What the body of an answer says is wrong: the message and the code of its error object, or else all
of its text. -/
inductive Complains (answer : HttpAnswer) : (message : String) → (code : Option Int) → Prop
  | object {message : String} {code : Option Int} (reports : answer.Reports message code) :
      Complains answer message code
  | plain (plain : ∀ message code, ¬answer.Reports message code) : Complains answer answer.text none

variable {answer : HttpAnswer} {message : String} {code : Option Int}

theorem exists_complains (answer : HttpAnswer) : ∃ message code, answer.Complains message code := by
  by_cases reported : ∃ message code, answer.Reports message code
  · rcases reported with ⟨message, code, reports⟩
    exact ⟨message, code, .object reports⟩
  · simp only [not_exists] at reported
    exact ⟨_, _, .plain reported⟩

/-- A rejection has the code of the complaint, and the same patterns in its message. -/
theorem Complains.rejection (complains : answer.Complains message code) :
    ∃ written, rejection answer.status answer.text = .sql code written ∧
      (Mentions QueryError.transientPatterns written ↔ Mentions QueryError.transientPatterns message) ∧
      (Mentions QueryError.tableUnknownPatterns written ↔
        Mentions QueryError.tableUnknownPatterns message) := by
  cases complains with
  | object reports =>
      refine ⟨message, ?_, Iff.rfl, Iff.rfl⟩
      rw [HttpAnswer.rejection, envelope?_iff.mpr reports]
  | plain plain =>
      refine ⟨_, ?_, mentions_labelled (by decide) answer.status answer.text,
        mentions_labelled (by decide) answer.status answer.text⟩
      have none : envelope? answer.text = none := by
        rw [Option.eq_none_iff_forall_ne_some]
        rintro ⟨message, code⟩ found
        exact plain message code (envelope?_iff.mp found)
      rw [HttpAnswer.rejection, none]

end HttpAnswer

/-! ## Decisions -/

/-- An error is repeated by the policy of every configuration and waited out by every wait for the
shards in one case, and a worker that deletes passes over it in another, which excludes the first. -/
structure QueryError.Decided (error : QueryError) (again passed : Prop) : Prop where
  repeats : ∀ settings, (RetryPolicy.ofSettings settings).retryable error = true ↔ again
  waits : ∀ query seen, again → Verifier.read query seen (some (.error error)) = .unsettled seen
  ends : ∀ query seen, ¬again → Verifier.read query seen (some (.error error)) = .failed error
  deletes : OperationKind.delete.isBenign error = true ↔ passed
  counts : ∀ kind : OperationKind, kind ≠ .delete → kind.isBenign error = false
  apart : ¬(again ∧ passed)

namespace QueryError

variable {error : QueryError} {again passed : Prop}

theorem decided_of_iff (transient : error.isTransient = true ↔ again)
    (unknown : error.isTableUnknown = true ↔ passed) : error.Decided again passed where
  repeats settings := transient
  waits query seen holds := by rw [Verifier.read, if_pos (transient.mpr holds)]
  ends query seen fails := by rw [Verifier.read, if_neg (fun holds => fails (transient.mp holds))]
  deletes := by simp [OperationKind.isBenign, unknown]
  counts kind other := by simp [OperationKind.isBenign, other]
  apart := by
    rintro ⟨holds, holds'⟩
    have one := of_decide_eq_true (transient.mpr holds)
    have other := of_decide_eq_true (unknown.mpr holds')
    rw [one] at other
    cases other

/-- An error that is no rejection is neither repeated nor passed over, whatever its text. -/
theorem decided_of_ne_sql (other : ∀ code message, error ≠ .sql code message) :
    error.Decided False False := by
  apply decided_of_iff
  all_goals
    cases error with
    | sql code message => exact (other code message rfl).elim
    | _ => simp [isTransient, isTableUnknown, kind]

end QueryError

theorem HttpOutcome.response_of_whole {answer : HttpAnswer} (request : Request)
    (whole : (answer.status = 101 ∨ 200 ≤ answer.status) ∧ answer.status ≤ 999) :
    (answered answer).response request = answer.response request := by
  have enough : (100 ≤ answer.status && answer.status ≤ 999 &&
      (answer.status = 101 || 200 ≤ answer.status)) = true := by
    simp
    omega
  exact if_pos enough

/-- From the body of an answer that is no success to what becomes of its error. A preliminary status is
that of no answer. -/
theorem HttpOutcome.decided_of_rejected {answer : HttpAnswer} (request : Request)
    (whole : (answer.status = 101 ∨ 200 ≤ answer.status) ∧ answer.status ≤ 999)
    (rejected : HttpAnswer.isSuccess answer.status = false) :
    (∃ code written, (answered answer).response request = .error (.sql code written) ∧
      (QueryError.sql code written).Decided
        (∃ message code, answer.Complains message code ∧ code ≠ some 4041 ∧
          Mentions QueryError.transientPatterns message)
        (∃ message code, answer.Complains message code ∧ (code = some 4041 ∨
          Mentions QueryError.tableUnknownPatterns message ∧
            ¬Mentions QueryError.transientPatterns message))) ∧
    ∀ error : QueryError, (∀ code message, error ≠ .sql code message) →
      error.Decided False False := by
  refine ⟨?_, fun error => QueryError.decided_of_ne_sql⟩
  rcases answer.exists_complains with ⟨message, code, complains⟩
  rcases complains.rejection with ⟨written, given, transient, unknown⟩
  -- A body complains of one thing only, up to the patterns in it: the rejection is the same.
  have only : ∀ {message' code'}, answer.Complains message' code' → code' = code ∧
      (Mentions QueryError.transientPatterns written ↔
        Mentions QueryError.transientPatterns message') ∧
      (Mentions QueryError.tableUnknownPatterns written ↔
        Mentions QueryError.tableUnknownPatterns message') := by
    intro message' code' complains'
    rcases complains'.rejection with ⟨written', given', transient', unknown'⟩
    rw [given] at given'
    cases given'
    exact ⟨rfl, transient', unknown'⟩
  refine ⟨code, written, ?_, QueryError.decided_of_iff ?_ ?_⟩
  · rw [response_of_whole request whole, HttpAnswer.response_of_rejected rejected, given]
  · rw [QueryError.isTransient_sql]
    constructor
    · rintro ⟨uncoded, mentions⟩
      exact ⟨message, code, complains, uncoded, transient.mp mentions⟩
    · rintro ⟨message', code', complains', uncoded, mentions⟩
      rcases only complains' with ⟨rfl, transient', _⟩
      exact ⟨uncoded, transient'.mpr mentions⟩
  · rw [QueryError.isTableUnknown_sql]
    constructor
    · rintro (coded | ⟨mentions, silent⟩)
      · exact ⟨message, code, complains, .inl coded⟩
      · exact ⟨message, code, complains, .inr ⟨unknown.mp mentions, fun named =>
          silent (transient.mpr named)⟩⟩
    · rintro ⟨message', code', complains', coded | ⟨mentions, silent⟩⟩
      · rcases only complains' with ⟨rfl, _, _⟩
        exact .inl coded
      · rcases only complains' with ⟨rfl, transient', unknown'⟩
        exact .inr ⟨unknown'.mpr mentions, fun named => silent (transient'.mp named)⟩

/-- What a proxy says about a node that has left. -/
def gateway : String := "upstream: Node not connected (TableUnknownException)"

/-- A text that is no error object is repeated for a pattern in it. -/
theorem HttpOutcome.decided_of_gateway :
    (replying 503 gateway).Complains gateway none ∧
      ∃ code written, (answered (replying 503 gateway)).response (.single "SELECT 1" []) =
          .error (.sql code written) ∧
        ∀ settings, (RetryPolicy.ofSettings settings).retryable (.sql code written) = true := by
  have same : (replying 503 gateway).text = gateway := text_replying rfl gateway
  have complains : (replying 503 gateway).Complains gateway none := by
    have plain : ∀ message code, ¬(replying 503 gateway).Reports message code := by
      rintro message code ⟨tree, parsed, _⟩
      rw [same] at parsed
      have unread : Json.parse? gateway = none := by cbv
      rw [unread] at parsed
      cases parsed
    have complains := HttpAnswer.Complains.plain plain
    rwa [same] at complains
  have mentions : Mentions QueryError.transientPatterns gateway :=
    containsAny_iff.mp (by cbv)
  rcases (@decided_of_rejected (replying 503 gateway) (.single "SELECT 1" []) (by decide) rfl).1 with
    ⟨code, written, given, decided⟩
  exact ⟨complains, code, written, given, fun settings =>
    (decided.repeats settings).mpr ⟨gateway, none, complains, by simp, mentions⟩⟩

end GracefulStop
