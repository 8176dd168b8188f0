import Mathlib.Data.List.Basic

/-!
# Texts cut at a separator

A text is cut at every occurrence of a character.
-/

namespace CloudRing.Library

/-- `strings.Split` at a character. -/
def splitText (separator : Char) (text : String) : List String :=
  (text.toList.splitOn separator).map String.ofList

theorem splitText_whole {separator : Char} {text : String} (whole : separator ∉ text.toList) :
    splitText separator text = [text] := by
  rw [splitText, List.splitOn_eq_singleton whole, List.map_singleton, String.ofList_toList]

theorem splitText_join {separator : Char} (left right : String) :
    splitText separator (left ++ String.singleton separator ++ right) =
      splitText separator left ++ splitText separator right := by
  have joined : (left ++ String.singleton separator ++ right).toList =
      left.toList ++ separator :: right.toList := by
    rw [String.toList_append, String.toList_append, String.toList_singleton, List.append_assoc,
      List.singleton_append]
  rw [splitText, joined, List.splitOn_append_cons_self, List.map_append]
  rfl

end CloudRing.Library
