import GracefulStop.Text.Search

/-!
# Where a pattern occurs

A pattern occurs in a text if the text has it as a part. A pattern without some character lies on one
side of every such character. So what is put before a text makes no pattern occur that does not occur
in the text, if it ends with a colon and a blank and the pattern has no colon, does not begin with a
blank, and has some character that does not stand before the colon.
-/

namespace GracefulStop.Text

variable {pattern before after label text : List Char} {c : Char}

theorem occursIn_iff : occursIn pattern text = true ↔ pattern <:+: text := by
  induction text with
  | nil => simp [occursIn]
  | cons c rest ih => simp [occursIn, startsWith, ih, List.infix_cons_iff]

theorem contains_iff {text pattern : String} :
    contains text pattern = true ↔ pattern.toList <:+: text.toList := occursIn_iff

/-- A pattern without some character is at the front if it is so up to that character. -/
theorem prefix_before (absent : c ∉ pattern) :
    pattern <+: before ++ c :: after ↔ pattern <+: before := by
  induction before generalizing pattern with
  | nil =>
      cases pattern with
      | nil => simp
      | cons first pattern =>
          have other : first ≠ c := fun same => absent (same ▸ List.mem_cons_self)
          simp [other]
  | cons head before ih =>
      cases pattern with
      | nil => simp
      | cons first pattern =>
          have absentRest : c ∉ pattern := fun member => absent (List.mem_cons_of_mem _ member)
          simp only [List.cons_append, List.cons_prefix_cons, ih absentRest]

/-- A pattern without some character lies on one side of it. -/
theorem infix_around (absent : c ∉ pattern) :
    pattern <:+: before ++ c :: after ↔ pattern <:+: before ∨ pattern <:+: after := by
  induction before with
  | nil =>
      have front : pattern <+: [] ++ c :: after ↔ pattern <+: [] := prefix_before absent
      simp only [List.nil_append, List.prefix_nil, List.infix_nil] at front ⊢
      rw [List.infix_cons_iff, front]
  | cons head before ih =>
      have front : pattern <+: head :: before ++ c :: after ↔ pattern <+: head :: before :=
        prefix_before absent
      rw [List.cons_append] at front ⊢
      rw [List.infix_cons_iff, List.infix_cons_iff, front, ih, or_assoc]

/-- What stands before a text with a colon and a blank makes no pattern occur. -/
theorem infix_labelled (plain : ':' ∉ pattern) (starts : pattern.head? ≠ some ' ')
    (unlike : ∃ c ∈ pattern, c ∉ label) :
    pattern <:+: label ++ ':' :: ' ' :: text ↔ pattern <:+: text := by
  rcases unlike with ⟨c, member, absent⟩
  have outside : ¬pattern <:+: label := fun inside => absent (inside.subset member)
  have unbegun : ¬pattern <+: ' ' :: text := by
    rintro ⟨back, parted⟩
    cases pattern with
    | nil => cases member
    | cons first pattern =>
        cases parted
        exact starts rfl
  rw [infix_around plain, List.infix_cons_iff]
  simp [outside, unbegun]

end GracefulStop.Text
