import GracefulStop.FileTree
import Mathlib.Data.String.Basic

/-!
# The names of a path

A path is parted at its strokes. The parts are those of the list of its characters. They lead an
absolute path from the root of a tree.
-/

namespace GracefulStop

namespace Path

open String (ofList utf8Len utf8Len_append)

theorem extract_part (before part rest : List Char) :
    String.Pos.Raw.extract (ofList (before ++ part ++ rest)) ⟨utf8Len before⟩
      ⟨utf8Len (before ++ part)⟩ = ofList part := by
  rw [utf8Len_append]
  exact String.extract_of_valid before part rest

/-- The parts of a text from a place on, where a part has begun before the place. -/
theorem splitOnAux_stroke (before part rest : List Char) (found : List String) :
    String.splitOnAux (ofList (before ++ part ++ rest)) "/" ⟨utf8Len before⟩
        ⟨utf8Len (before ++ part)⟩ 0 found =
      found.reverse ++ (List.splitOnPPrepend (· == '/') rest part.reverse).map ofList := by
  induction rest generalizing before part found with
  | nil =>
      rw [String.splitOnAux, if_pos ((String.atEnd_of_valid (before ++ part) []).mpr rfl),
        extract_part, List.splitOnPPrepend_nil, List.reverse_reverse]
      simp
  | cons c rest ih =>
      have more : ¬ String.Pos.Raw.atEnd (ofList (before ++ part ++ c :: rest))
          ⟨utf8Len (before ++ part)⟩ = true := by
        rw [String.atEnd_of_valid (before ++ part) (c :: rest)]
        exact List.cons_ne_nil _ _
      have here := String.get_of_valid (before ++ part) (c :: rest)
      have next := String.next_of_valid (before ++ part) c rest
      have stroke : String.Pos.Raw.get "/" 0 = '/' := rfl
      have beyond : String.Pos.Raw.next "/" 0 = ⟨1⟩ := rfl
      have all : String.Pos.Raw.atEnd "/" ⟨1⟩ = true := rfl
      rw [String.splitOnAux, if_neg more]
      simp only [here, next, stroke, beyond, all, List.headD_cons, if_true,
        List.splitOnPPrepend_cons_eq_if]
      by_cases same : c = '/'
      · subst same
        have back : String.Pos.Raw.unoffsetBy ⟨utf8Len (before ++ part) + ('/').utf8Size⟩ ⟨1⟩ =
            ⟨utf8Len (before ++ part)⟩ := rfl
        have later := ih (before ++ part ++ ['/']) [] (ofList part :: found)
        rw [List.append_nil, utf8Len_append (before ++ part) ['/'], List.append_assoc,
          List.singleton_append] at later
        simp only [beq_self_eq_true, if_true, back, extract_part]
        refine later.trans ?_
        simp
      · have later := ih before (part ++ [c]) found
        have size : utf8Len (before ++ (part ++ [c])) = utf8Len (before ++ part) + c.utf8Size := by
          simp [Nat.add_assoc]
        have stay : String.Pos.Raw.unoffsetBy ⟨utf8Len (before ++ part)⟩ 0 =
            ⟨utf8Len (before ++ part)⟩ := rfl
        rw [size] at later
        simp only [beq_iff_eq, same, if_false, stay, next]
        simpa [-String.ofList_append, -utf8Len_append] using later

theorem names_eq (path : Path) :
    path.names = (path.toList.splitOnP (· == '/')).map ofList := by
  have parts := splitOnAux_stroke [] [] path.toList []
  simpa [names, String.splitOn] using parts

end Path

namespace FileTree

/-- The names of an absolute path are its own, wherever the tree is seen from. -/
theorem names_fullPath (tree : FileTree) {path : Path} (absolute : path.isAbsolute = true) :
    (tree.fullPath path).names = (path.toList.splitOnP (· == '/')).map String.ofList := by
  have same : tree.fullPath path = path := by simp [fullPath, Path.join, absolute]
  rw [same, Path.names_eq]

theorem resolve_eq (tree : FileTree) {path : Path} (fine : path.error? = none) :
    tree.resolve path = tree.walk [] (tree.fullPath path).names := by
  simp only [resolve, fine]

theorem find?_eq (tree : FileTree) {path : Path} (fine : path.error? = none) :
    tree.find? path = (tree.walk [] (tree.fullPath path).names).toOption.bind tree.at? := by
  rw [find?, resolve_eq tree fine]
  cases tree.walk [] (tree.fullPath path).names <;> rfl

/-- What the parts of a path lead to, as a list of characters is parted. Unlike the parts of a text they
can be computed. -/
def reached? (tree : FileTree) (path : Path) : Option File :=
  (tree.walk [] (((tree.fullPath path).toList.splitOnP (· == '/')).map String.ofList)).toOption.bind
    tree.at?

theorem find?_eq_reached? (tree : FileTree) {path : Path} (fine : path.error? = none) :
    tree.find? path = tree.reached? path := by
  rw [find?_eq tree fine, Path.names_eq, reached?]

theorem exists?_eq (tree : FileTree) {path : Path} (fine : path.error? = none) :
    tree.exists? path = (tree.reached? path).isSome := by
  rw [exists?, find?_eq_reached? tree fine]

theorem find?_absolute (tree : FileTree) {path : Path} (absolute : path.isAbsolute = true)
    (fine : path.error? = none) :
    tree.find? path =
      (tree.walk [] ((path.toList.splitOnP (· == '/')).map String.ofList)).toOption.bind tree.at? := by
  rw [find?_eq tree fine, names_fullPath tree absolute]

end FileTree

end GracefulStop
