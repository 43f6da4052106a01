import OscRemote.Text.Grapheme.Clusters

/-!
# Lines as they are typed

A line may hold backspaces, each of which takes back the grapheme before it.  Main statement: a line
without a backspace stays as it is.
-/

namespace OscRemote.Shell

/-- The character that takes back the grapheme before it. -/
def backspace : Char := '\x08'

/-- The graphemes that are left, the last one first, after one more is typed. -/
def addTyped (left : List (List Char)) (g : List Char) : List (List Char) :=
  if g = [backspace] then left.tail else g :: left

/-- A line after its backspaces. -/
def typed (line : String) : String :=
  String.ofList ((Text.graphemes line.toList).foldl addTyped []).reverse.flatten

theorem foldl_addTyped_of_not_mem {gs left : List (List Char)} (h : [backspace] ∉ gs) :
    gs.foldl addTyped left = gs.reverse ++ left := by
  induction gs generalizing left with
  | nil => rfl
  | cons g gs ih =>
    simp only [List.mem_cons, not_or] at h
    simp [addTyped, Ne.symm h.1, ih h.2]

/-- A line without a backspace stays as it is. -/
theorem typed_eq_self {line : String} (h : backspace ∉ line.toList) : typed line = line := by
  have absent : [backspace] ∉ Text.graphemes line.toList := fun hg => h <| by
    rw [← Text.flatten_graphemes line.toList]
    exact List.mem_flatten.2 ⟨_, hg, List.mem_singleton_self _⟩
  simp [typed, foldl_addTyped_of_not_mem absent, Text.flatten_graphemes]

end OscRemote.Shell
