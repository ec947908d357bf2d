import GracefulStop.Proofs.Query.Rejections
import Mathlib

/-!
# Answers to bulk requests

The answer to a bulk request has a row count for each of the rows of parameters. One row that failed
fails the whole request, with an error that is neither repeated nor passed over. Otherwise the rows that
are counted are added up, in whatever order they stand.
-/

namespace GracefulStop

/-! ## Bodies of answers -/

namespace Json.Tree

/-- What the answer says about one row of parameters: an object with a row count, or an array of nothing
else. Where there is no row count, `-1` stands for it. -/
inductive IsBulkEntry : Int → Tree → Prop
  | member {count : Int} {entry value : Tree} (holds : entry.Holds "rowcount" value)
      (writes : value.Writes (some count)) : IsBulkEntry count entry
  | item {count : Int} {value : Tree} (writes : value.Writes (some count)) :
      IsBulkEntry count (.array [value])
  | missing {entry : Tree} (lacks : entry.Lacks "rowcount") : IsBulkEntry (-1) entry
  | empty : IsBulkEntry (-1) (.array [])

/-- A body with these row counts: an object with a list of results, or an array of nothing else. Where
there is no list there are no results. -/
inductive IsBulkAnswer : List Int → Tree → Prop
  | member {counts : List Int} {tree : Tree} {entries : List Tree}
      (holds : tree.Holds "results" (.array entries))
      (each : List.Forall₂ IsBulkEntry counts entries) : IsBulkAnswer counts tree
  | item {counts : List Int} {entries : List Tree}
      (each : List.Forall₂ IsBulkEntry counts entries) : IsBulkAnswer counts (.array [.array entries])
  | missing {tree : Tree} (lacks : tree.Lacks "results") : IsBulkAnswer [] tree
  | empty : IsBulkAnswer [] (.array [])

/-- How one row of parameters is read. -/
def bulkCount? (entry : Tree) : Option Int := do
  match ← entry.fields? ["rowcount"] with
  | [rowCount] =>
    rowCount.orElse Response.unknownRowCount (int? Response.leastCount Response.greatestCount)
  | _ => none

variable {tree entry value : Tree} {count : Int} {counts : List Int}

theorem int?_of_writes (writes : value.Writes (some count)) :
    value.int? Response.leastCount Response.greatestCount = some count := by
  cases writes with
  | whole written fits =>
      have between : Response.leastCount ≤ count ∧ count ≤ Response.greatestCount :=
        ⟨fits.1, Int.le_sub_one_of_lt fits.2⟩
      simp [int?, written, between]

theorem IsBulkEntry.read (isEntry : entry.IsBulkEntry count) : entry.bulkCount? = some count := by
  cases isEntry with
  | member holds writes =>
      rw [bulkCount?, holds.fields?_cons, holds.fields?_nil]
      exact int?_of_writes writes
  | item writes => exact int?_of_writes writes
  | missing lacks =>
      rw [bulkCount?, lacks.fields?_cons, lacks.fields?_nil]
      rfl
  | empty => rfl

theorem mapM_bulkCount? {entries : List Tree} (each : List.Forall₂ IsBulkEntry counts entries) :
    entries.mapM bulkCount? = some counts := by
  induction each with
  | nil => rfl
  | cons first _ ih =>
      rw [List.mapM_cons, first.read, ih]
      rfl

theorem IsBulkAnswer.read (isAnswer : tree.IsBulkAnswer counts) :
    Response.bulkCounts? tree = some counts := by
  cases isAnswer with
  | member holds each =>
      rw [Response.bulkCounts?, holds.fields?_cons, holds.fields?_nil]
      exact mapM_bulkCount? each
  | item each => exact mapM_bulkCount? each
  | missing lacks =>
      rw [Response.bulkCounts?, lacks.fields?_cons, lacks.fields?_nil]
      rfl
  | empty => rfl

end Json.Tree

/-! ## From row counts to a response -/

namespace Response

variable {counts others : List Int}

theorem findIdx?_failed (failed : bulkRowFailed ∈ counts) :
    counts.findIdx? (· = bulkRowFailed) = some (counts.idxOf bulkRowFailed) := by
  rw [List.findIdx?_eq_some_iff_findIdx_eq, List.idxOf]
  exact ⟨List.idxOf_lt_length_iff.mpr failed, rfl⟩

theorem ofBulkCounts_failed (failed : bulkRowFailed ∈ counts) :
    ofBulkCounts counts = .error (.sql none (bulkFailure (counts.count bulkRowFailed) counts.length
      (counts.idxOf bulkRowFailed))) := by
  rw [ofBulkCounts, findIdx?_failed failed, List.count_eq_length_filter]
  rfl

theorem foldr_max (counts : List Int) :
    (counts.map (max 0 ·)).foldr (· + ·) 0 = (counts.filter (0 ≤ ·)).sum := by
  induction counts with
  | nil => rfl
  | cons count counts ih =>
      rw [List.map_cons, List.foldr_cons, ih, List.filter_cons]
      by_cases known : 0 ≤ count
      · simp [known]
      · simp [known, max_eq_left (Int.le_of_lt (not_le.mp known))]

theorem ofBulkCounts_whole (whole : bulkRowFailed ∉ counts) :
    ofBulkCounts counts = .ok (affected (counts.filter (0 ≤ ·)).sum) := by
  have none : counts.findIdx? (· = bulkRowFailed) = none := by
    rw [List.findIdx?_eq_none_iff]
    rintro count member
    rw [decide_eq_false_iff_not]
    rintro rfl
    exact whole member
  rw [ofBulkCounts, none, foldr_max]

theorem isOk_ofBulkCounts : (ofBulkCounts counts).isOk = true ↔ bulkRowFailed ∉ counts := by
  by_cases failed : bulkRowFailed ∈ counts
  · simp [ofBulkCounts_failed failed, failed, Except.isOk, Except.toBool]
  · simp [ofBulkCounts_whole failed, failed, Except.isOk, Except.toBool]

theorem ofBulkCounts_eq_ok {response : Response} (succeeds : ofBulkCounts counts = .ok response) :
    bulkRowFailed ∉ counts ∧ response = affected (counts.filter (0 ≤ ·)).sum := by
  have whole : bulkRowFailed ∉ counts := isOk_ofBulkCounts.mp (by rw [succeeds]; rfl)
  rw [ofBulkCounts_whole whole] at succeeds
  exact ⟨whole, (Except.ok.inj succeeds).symm⟩

/-- The order of the rows is of no matter to a success. -/
theorem ofBulkCounts_perm (same : counts.Perm others) :
    (ofBulkCounts counts).isOk = (ofBulkCounts others).isOk ∧
      ∀ response, ofBulkCounts counts = .ok response → ofBulkCounts others = .ok response := by
  refine ⟨?_, fun response succeeds => ?_⟩
  · rw [Bool.eq_iff_iff, isOk_ofBulkCounts, isOk_ofBulkCounts, same.mem_iff]
  · obtain ⟨whole, rfl⟩ := ofBulkCounts_eq_ok succeeds
    rw [ofBulkCounts_whole (same.mem_iff.not.mp whole), (same.filter _).sum_eq]

theorem ofBulkCounts_append {response other : Response} (first : ofBulkCounts counts = .ok response)
    (second : ofBulkCounts others = .ok other) :
    ofBulkCounts (counts ++ others) = .ok (affected (response.rowCount + other.rowCount)) := by
  obtain ⟨whole, rfl⟩ := ofBulkCounts_eq_ok first
  obtain ⟨wholeOthers, rfl⟩ := ofBulkCounts_eq_ok second
  have together : bulkRowFailed ∉ counts ++ others := by
    rw [List.mem_append, not_or]
    exact ⟨whole, wholeOthers⟩
  rw [ofBulkCounts_whole together, List.filter_append, List.sum_append]
  rfl

end Response

/-! ## The error of rows that failed -/

/-- A pattern with a letter that a text does not have does not occur in it. -/
theorem not_mentions {patterns : List String} {text : String}
    (apart : ∀ pattern ∈ patterns, ∃ c ∈ pattern.toList, c ∉ text.toList) :
    ¬Mentions patterns text := by
  rintro ⟨pattern, member, occurs⟩
  obtain ⟨c, inPattern, absent⟩ := apart pattern member
  exact absent (occurs.subset inPattern)

/-- The words in the text of a failure. -/
def bulkWords : List String :=
  ["bulk request failed for ", " of ", " parameter sets (first at index ", ")"]

/-- The text of a failure has the letters of its words only. -/
theorem not_mem_bulkFailure {c : Char} (noDigit : c.isDigit = false)
    (noWord : ∀ word ∈ bulkWords, c ∉ word.toList) (failed total first : Nat) :
    c ∉ (Response.bulkFailure failed total first).toList := by
  have number (n : Nat) : c ∉ (toString n).toList := by
    have digits : (toString n).toList = Nat.toDigits 10 n := Nat.toList_repr
    rw [digits]
    intro member
    rw [Nat.isDigit_of_mem_toDigits (by decide) (by decide) member] at noDigit
    cases noDigit
  have written : Response.bulkFailure failed total first =
      "bulk request failed for " ++ toString failed ++ " of " ++ toString total ++
        " parameter sets (first at index " ++ toString first ++ ")" := rfl
  simp only [bulkWords, List.forall_mem_cons] at noWord
  obtain ⟨start, between, place, close, _⟩ := noWord
  simp only [written, String.toList_append, List.mem_append, not_or]
  exact ⟨⟨⟨⟨⟨⟨start, number failed⟩, between⟩, number total⟩, place⟩, number first⟩, close⟩

/-- A failure says nothing about the cluster, whatever its numbers are. -/
theorem kind_bulkFailure (failed total first : Nat) :
    (QueryError.sql none (Response.bulkFailure failed total first)).kind = .other := by
  have letter {c : Char} (noDigit : c.isDigit = false)
      (noWord : ∀ word ∈ bulkWords, c ∉ word.toList) :=
    not_mem_bulkFailure noDigit noWord failed total first
  -- no failure has these letters, and each pattern has one of them
  have noC := letter (c := 'c') (by decide) (by decide)
  have noU := letter (c := 'U') (by decide) (by decide)
  have transient : ¬Mentions QueryError.transientPatterns
      (Response.bulkFailure failed total first) := by
    refine not_mentions ?_
    simp only [QueryError.transientPatterns, List.forall_mem_cons]
    exact ⟨⟨'c', by decide, noC⟩, ⟨'c', by decide, noC⟩, by simp⟩
  have unknown : ¬Mentions QueryError.tableUnknownPatterns
      (Response.bulkFailure failed total first) := by
    refine not_mentions ?_
    simp only [QueryError.tableUnknownPatterns, List.forall_mem_cons]
    exact ⟨⟨'U', by decide, noU⟩, ⟨'U', by decide, noU⟩, by simp⟩
  rw [← containsAny_iff] at transient unknown
  simp [QueryError.kind, transient, unknown]

theorem decided_bulkFailure (failed total first : Nat) :
    (QueryError.sql none (Response.bulkFailure failed total first)).Decided False False := by
  have kind := kind_bulkFailure failed total first
  apply QueryError.decided_of_iff
  · simp [QueryError.isTransient, kind]
  · simp [QueryError.isTableUnknown, kind]

/-! ## Answers -/

/-- A success of which the body has these row counts. -/
structure HttpAnswer.Counts (answer : HttpAnswer) (counts : List Int) : Prop where
  success : HttpAnswer.isSuccess answer.status = true
  body : ∃ tree, Json.parse? answer.text = some tree ∧ tree.IsBulkAnswer counts

theorem HttpOutcome.response_of_counts {answer : HttpAnswer} {counts : List Int}
    (answers : answer.Counts counts) (statement : String) (rows : List (List Json)) :
    (answered answer).response (.bulk statement rows) = Response.ofBulkCounts counts := by
  obtain ⟨tree, parsed, isAnswer⟩ := answers.body
  have within : 200 ≤ answer.status ∧ answer.status ≤ 299 := by
    simpa [HttpAnswer.isSuccess] using answers.success
  have accepted : answer.successText = .ok answer.text := if_pos answers.success
  rw [response_of_final ⟨within.1, within.2.trans (by decide)⟩, HttpAnswer.response, accepted]
  simp only [bind, Except.bind, parsed, Option.bind_some, isAnswer.read]

/-- A bulk request fails exactly if one of its rows failed, with an error that tells how many did and
which one was the first, and that is neither repeated nor passed over. Else its response holds the sum
of the known counts, and no rows. Neither depends on the order of the rows, and the counts of two lists
of results that both succeed add up. -/
theorem HttpOutcome.bulk_contract {answer : HttpAnswer} {counts : List Int}
    (answers : answer.Counts counts) (statement : String) (rows : List (List Json)) :
    ((∃ error, (answered answer).response (.bulk statement rows) = .error error) ↔ -2 ∈ counts) ∧
      (-2 ∈ counts → (answered answer).response (.bulk statement rows) =
        .error (.sql none ("bulk request failed for " ++ toString (counts.count (-2)) ++ " of " ++
          toString counts.length ++ " parameter sets (first at index " ++
          toString (counts.idxOf (-2)) ++ ")"))) ∧
      (∀ failed total first : Nat,
        (QueryError.sql none ("bulk request failed for " ++ toString failed ++ " of " ++
          toString total ++ " parameter sets (first at index " ++ toString first ++ ")")).Decided
            False False) ∧
      (-2 ∉ counts → (answered answer).response (.bulk statement rows) =
        .ok ⟨[], [], (counts.filter (0 ≤ ·)).sum⟩) ∧
      (∀ other permuted, other.Counts permuted → counts.Perm permuted →
        ((answered answer).response (.bulk statement rows)).isOk =
            ((answered other).response (.bulk statement rows)).isOk ∧
          ∀ response, (answered answer).response (.bulk statement rows) = .ok response →
            (answered other).response (.bulk statement rows) = .ok response) ∧
      ∀ other more whole, other.Counts more → whole.Counts (counts ++ more) →
        ∀ response added, (answered answer).response (.bulk statement rows) = .ok response →
          (answered other).response (.bulk statement rows) = .ok added →
          (answered whole).response (.bulk statement rows) =
            .ok ⟨[], [], response.rowCount + added.rowCount⟩ := by
  have given {answer : HttpAnswer} {counts : List Int} (answers : answer.Counts counts) :=
    response_of_counts answers statement rows
  rw [given answers]
  refine ⟨?_, Response.ofBulkCounts_failed, fun failed total first => ?_,
    Response.ofBulkCounts_whole, ?_, ?_⟩
  · by_cases failed : -2 ∈ counts
    · exact ⟨fun _ => failed, fun _ => ⟨_, Response.ofBulkCounts_failed failed⟩⟩
    · refine ⟨fun fails => ?_, fun member => absurd member failed⟩
      obtain ⟨error, fails⟩ := fails
      rw [Response.ofBulkCounts_whole failed] at fails
      cases fails
  · exact decided_bulkFailure failed total first
  · intro other permuted otherAnswers same
    rw [given otherAnswers]
    exact Response.ofBulkCounts_perm same
  · intro other more whole otherAnswers wholeAnswers response added first second
    rw [given otherAnswers] at second
    rw [given wholeAnswers]
    exact Response.ofBulkCounts_append first second

/-- Results of which two failed and one has no row count. -/
def mixed : String :=
  "\x7b\"results\":[\x7b\"rowcount\":2\x7d,\x7b\"rowcount\":-2\x7d,\x7b\x7d,[-2]]\x7d"

/-- Results of which none failed and one has no row count. -/
def unfailing : String := "\x7b\"results\":[\x7b\"rowcount\":2\x7d,\x7b\x7d,[3]]\x7d"

/-- An entry with a row count. -/
def countedTree (literal : List Char) : Json.Tree := .object [(some "rowcount", .number literal)]

/-- An object with these results. -/
def resultsTree (entries : List Json.Tree) : Json.Tree := .object [(some "results", .array entries)]

theorem isBulkEntry_countedTree {count : Int} {literal : List Char}
    (writes : (Json.Tree.number literal).Writes (some count)) :
    (countedTree literal).IsBulkEntry count :=
  .member ⟨[], [], rfl, by simp [Json.Tree.Others]⟩ writes

theorem isBulkEntry_empty : (Json.Tree.object []).IsBulkEntry (-1) :=
  .missing ⟨[], rfl, by simp [Json.Tree.Others]⟩

theorem isBulkAnswer_resultsTree {entries : List Json.Tree} {counts : List Int}
    (each : List.Forall₂ Json.Tree.IsBulkEntry counts entries) :
    (resultsTree entries).IsBulkAnswer counts :=
  .member ⟨[], [], rfl, by simp [Json.Tree.Others]⟩ each

theorem counts_mixed : (replying 200 mixed).Counts [2, -2, -1, -2] where
  success := rfl
  body := by
    have parsed : Json.parse? mixed = some (resultsTree
        [countedTree ['2'], countedTree ['-', '2'], .object [], .array [.number ['-', '2']]]) := by
      cbv
    have failed : (Json.Tree.number ['-', '2']).Writes (some (-2)) :=
      .whole (by cbv) (by decide)
    refine ⟨_, by rw [text_replying rfl, parsed], isBulkAnswer_resultsTree ?_⟩
    refine .cons (isBulkEntry_countedTree (.whole (by cbv) (by decide))) ?_
    refine .cons (isBulkEntry_countedTree failed) (.cons isBulkEntry_empty ?_)
    exact .cons (.item failed) .nil

theorem counts_unfailing : (replying 200 unfailing).Counts [2, -1, 3] where
  success := rfl
  body := by
    have parsed : Json.parse? unfailing = some (resultsTree
        [countedTree ['2'], .object [], .array [.number ['3']]]) := by
      cbv
    refine ⟨_, by rw [text_replying rfl, parsed], isBulkAnswer_resultsTree ?_⟩
    refine .cons (isBulkEntry_countedTree (.whole (by cbv) (by decide))) (.cons isBulkEntry_empty ?_)
    exact .cons (.item (.whole (by cbv) (by decide))) .nil

/-- One list of results with failures and one without. -/
theorem HttpOutcome.bulk_contract_of_mixed :
    (answered (replying 200 mixed)).response (.bulk "INSERT INTO t1 VALUES (?)" [[], [], [], []]) =
        .error (.sql none "bulk request failed for 2 of 4 parameter sets (first at index 1)") ∧
      (answered (replying 200 unfailing)).response (.bulk "INSERT INTO t1 VALUES (?)" [[], [], []]) =
        .ok ⟨[], [], 5⟩ := by
  obtain ⟨_, failed, _⟩ :=
    bulk_contract counts_mixed "INSERT INTO t1 VALUES (?)" [[], [], [], []]
  obtain ⟨_, _, _, whole, _⟩ :=
    bulk_contract counts_unfailing "INSERT INTO t1 VALUES (?)" [[], [], []]
  exact ⟨(failed (by decide)).trans rfl, (whole (by decide)).trans rfl⟩

end GracefulStop
