import GracefulStop.Proofs.Files.Names

/-!
# Joined paths

A base and a relative path are joined by a stroke, unless the base is empty or ends with one. Joining
is associative, so a path that is joined again and again is joined once to what its bases come to. As
sequences of steps, without empty names and single points, the base comes first and then the path; and
the place that a joined path leads to has the last name of the path.
-/

namespace GracefulStop

namespace Path

variable {base path : Path}

/-- What stands between a base and a relative path. -/
def gap (base : Path) : String :=
  if base = "" ∨ base.toList.getLast? = some '/' then "" else "/"

theorem join_absolute (absolute : path.isAbsolute = true) : join base path = path := by
  simp [join, absolute]

theorem join_relative (relative : path.isAbsolute = false) :
    join base path = base ++ gap base ++ path := by
  by_cases empty : base = ""
  · simp [join, gap, empty]
  · by_cases stroke : base.toList.getLast? = some '/' <;>
      simp [join, gap, relative, empty, stroke]

/-- A path is absolute by its first character, whatever follows it. -/
theorem isAbsolute_append (base more : String) (filled : base ≠ "") :
    Path.isAbsolute (base ++ more) = Path.isAbsolute base := by
  have some : base.toList ≠ [] := by simpa using filled
  simp only [isAbsolute, String.toList_append, List.head?_append_of_ne_nil _ some]

@[simp]
theorem isAbsolute_join : (join base path).isAbsolute = (base.isAbsolute || path.isAbsolute) := by
  cases absolute : path.isAbsolute with
  | true => rw [join_absolute absolute, absolute, Bool.or_true]
  | false =>
      rw [join_relative absolute, Bool.or_false]
      by_cases empty : base = ""
      · have rootless : isAbsolute "" = false := by decide
        simp [empty, gap, absolute, rootless]
      · rw [String.append_assoc, isAbsolute_append base _ empty]

theorem gap_gap (base : Path) : gap (base ++ gap base) = "" := by
  unfold gap
  split_ifs <;> simp_all

theorem gap_append (base path : Path) : gap (base ++ gap base ++ path) = gap path := by
  by_cases empty : path = ""
  · subst empty
    simpa [gap] using gap_gap base
  · have some : path.toList ≠ [] := by simpa using empty
    simp [gap, empty, List.getLast?_append_of_ne_nil _ some]

theorem join_assoc (base middle path : Path) :
    join (join base middle) path = join base (join middle path) := by
  cases absolute : path.isAbsolute with
  | true => simp only [join_absolute absolute]
  | false =>
      cases rooted : middle.isAbsolute with
      | true =>
          have joined : (join middle path).isAbsolute = true := by simp [rooted]
          rw [join_absolute rooted, join_absolute joined]
      | false =>
          have joined : (join middle path).isAbsolute = false := by simp [rooted, absolute]
          rw [join_relative absolute, join_relative rooted, join_relative joined,
            join_relative absolute, gap_append]
          simp only [String.append_assoc]

/-- Only an empty base, or an absolute path, leaves a path as it is. -/
theorem join_eq_self_iff : join base path = path ↔ base = "" ∨ path.isAbsolute = true := by
  cases absolute : path.isAbsolute with
  | true => simp [join_absolute absolute]
  | false =>
      rw [join_relative absolute]
      simp only [Bool.false_eq_true, or_false]
      constructor
      · intro same
        have lengths := congrArg String.length same
        simp only [String.length_append] at lengths
        exact String.length_eq_zero_iff.mp (by omega)
      · rintro rfl
        simp [gap]

theorem join_again_iff :
    join base (join base path) = join base path ↔
      base = "" ∨ base.isAbsolute = true ∨ path.isAbsolute = true := by
  rw [join_eq_self_iff, isAbsolute_join, Bool.or_eq_true]

/-! ## Steps -/

/-- The names that lead on from a directory; an empty one or a single point does not. -/
def parts (path : Path) : List String := path.names.filter fun name => name != "" && name != "."

/-- The steps of a path: the root if it is absolute, or the single point that it begins with, and then
its names. Two paths with the same steps are the same path, however it is written. -/
def steps (path : Path) : List String :=
  (if path.isAbsolute then ["/"] else if path.names.head? = some "." then ["."] else []) ++ path.parts

theorem names_ne_nil (path : Path) : path.names ≠ [] := by
  simp [names_eq]

theorem names_stroke (front back : String) :
    names (front ++ "/" ++ back) = names front ++ names back := by
  have chars : (front ++ "/" ++ back).toList = front.toList ++ '/' :: back.toList := by simp
  rw [names_eq, names_eq, names_eq, chars, List.splitOnP_append_cons _ _ (by rfl), List.map_append]

theorem names_of_plain {name : String} (plain : '/' ∉ name.toList) : names name = [name] := by
  have whole : ∀ c ∈ name.toList, (c == '/') = false := by
    intro c member
    rw [beq_eq_false_iff_ne]
    rintro rfl
    exact plain member
  simp [names_eq, List.splitOnP_eq_singleton whole]

/-- A relative path stands after the last stroke of the base, or after a stroke of its own. -/
theorem exists_stroke (relative : path.isAbsolute = false) (filled : base ≠ "") :
    ∃ front : String, join base path = front ++ "/" ++ path ∧
      (base = front ∨ base = front ++ "/") := by
  rw [join_relative relative, gap]
  split_ifs with closed
  · have stroke := closed.resolve_left filled
    obtain ⟨front, written⟩ := List.getLast?_eq_some_iff.mp stroke
    have same : base = String.ofList front ++ "/" := by
      rw [← String.ofList_toList (s := base), written]
      simp
    exact ⟨String.ofList front, by simp [same], .inr same⟩
  · exact ⟨base, rfl, .inl rfl⟩

/-- The names of a relative path come last. -/
theorem exists_names_join (relative : path.isAbsolute = false) :
    ∃ front, (join base path).names = front ++ path.names := by
  by_cases empty : base = ""
  · exact ⟨[], by simp [join_relative relative, gap, empty]⟩
  · obtain ⟨front, joined, _⟩ := exists_stroke relative empty
    exact ⟨names front, by rw [joined, names_stroke]⟩

/-- The parts of a path that is followed by a stroke and another are those of both. -/
theorem parts_stroke (front back : String) :
    parts (front ++ "/" ++ back) = parts front ++ parts back := by
  rw [parts, names_stroke, List.filter_append]
  rfl

theorem parts_empty : parts "" = [] := by simp [parts, names_of_plain]

theorem parts_join (relative : path.isAbsolute = false) :
    (join base path).parts = base.parts ++ path.parts := by
  by_cases empty : base = ""
  · simp [join_relative relative, gap, empty, parts_empty]
  · obtain ⟨front, joined, rfl | rfl⟩ := exists_stroke relative empty
    · rw [joined, parts_stroke]
    · have closed := parts_stroke front ""
      rw [String.append_empty, parts_empty, List.append_nil] at closed
      rw [joined, parts_stroke, closed]

theorem steps_join (relative : path.isAbsolute = false) (filled : base ≠ "") :
    (join base path).steps = base.steps ++ path.parts := by
  have same : (join base path).names.head? = base.names.head? := by
    obtain ⟨front, joined, rfl | rfl⟩ := exists_stroke relative filled
    · rw [joined, names_stroke, List.head?_append_of_ne_nil _ (names_ne_nil _)]
    · have closed := names_stroke front ""
      rw [String.append_empty] at closed
      rw [joined, names_stroke, closed, List.head?_append_of_ne_nil _ (names_ne_nil _),
        List.head?_append_of_ne_nil _ (names_ne_nil _)]
  rw [steps, steps, isAbsolute_join, relative, Bool.or_false, same, parts_join relative,
    List.append_assoc]

/-- A name that leads on. -/
def IsName (name : String) : Prop := '/' ∉ name.toList ∧ name ∉ ["", ".", ".."]

theorem IsName.relative {name : String} (proper : IsName name) : Path.isAbsolute name = false := by
  rw [isAbsolute, beq_eq_false_iff_ne]
  intro starts
  exact proper.1 (List.mem_of_mem_head? starts)

theorem IsName.getLast?_steps_join {name : String} (proper : IsName name) (base : Path) :
    (join base name).steps.getLast? = some name := by
  have kept : parts name = [name] := by
    have names := proper.2
    simp only [List.mem_cons, List.not_mem_nil, or_false, not_or] at names
    simp [parts, names_of_plain proper.1, names.1, names.2.1]
  simp [steps, parts_join proper.relative, kept]

/-- Joining a path to the same base again is another path, unless there is nowhere to go from the base
or a root to start from. -/
theorem steps_join_again_iff :
    (join base (join base path)).steps = (join base path).steps ↔
      base.parts = [] ∨ base.isAbsolute = true ∨ path.isAbsolute = true := by
  by_cases same : base = "" ∨ base.isAbsolute = true ∨ path.isAbsolute = true
  · rw [join_again_iff.mpr same]
    rcases same with rfl | rooted
    · simp [parts_empty]
    · simp [rooted]
  · simp only [not_or, Bool.not_eq_true] at same
    obtain ⟨filled, rootless, relative⟩ := same
    have joined : (join base path).isAbsolute = false := by simp [rootless, relative]
    rw [steps_join joined filled, steps_join relative filled, parts_join relative]
    simp [rootless, relative]

end Path

namespace FileTree

variable {tree : FileTree} {here there : List String}

theorem walk_append (front back : List String) :
    tree.walk here (front ++ back) = (tree.walk here front).bind fun there => tree.walk there back := by
  induction front generalizing here with
  | nil => rfl
  | cons name rest ih =>
      simp only [List.cons_append, walk, ih]
      split
      · split <;> rfl
      · rfl
      · rfl

/-- The place that a joined path leads to is called as its last name says. -/
theorem getLast?_of_walk {front : List String} {name : String} (proper : Path.IsName name)
    (ended : tree.walk here (front ++ [name]) = .ok there) : there.getLast? = some name := by
  have names := proper.2
  simp only [List.mem_cons, List.not_mem_nil, or_false, not_or] at names
  rw [walk_append] at ended
  cases walked : tree.walk here front with
  | error error => simp [walked, Except.bind] at ended
  | ok last =>
      simp only [walked, Except.bind, walk] at ended
      split at ended
      · split_ifs at ended
        simp only [Except.ok.injEq] at ended
        simp [← ended, goTo, names]
      · cases ended
      · cases ended

theorem getLast?_of_resolve {base : Path} {name : String} (proper : Path.IsName name)
    (found : tree.resolve (Path.join base name) = .ok there) : there.getLast? = some name := by
  cases flaw : (Path.join base name).error? with
  | some error => simp [resolve, flaw] at found
  | none =>
      have filled : (Path.join base name).isEmpty = false := by
        rw [Path.error?] at flaw
        split_ifs at flaw with empty
        simpa using empty
      obtain ⟨front, names⟩ :=
        @Path.exists_names_join (Path.join tree.workingDir base) name proper.relative
      rw [resolve_eq tree flaw, fullPath, if_neg (by simp [filled]), ← Path.join_assoc, names,
        Path.names_of_plain proper.1] at found
      exact getLast?_of_walk proper found

end FileTree

end GracefulStop
