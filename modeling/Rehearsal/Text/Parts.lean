/-! # Cutting a text at a character -/

namespace Rehearsal.Text

/-- The parts of a text between the marks in it, empty ones included. -/
def parts (mark : Char) : List Char → List (List Char)
  | [] => [[]]
  | c :: rest =>
    if c = mark then [] :: parts mark rest
    else
      match parts mark rest with
      | [] => [[c]]
      | part :: others => (c :: part) :: others

theorem parts_ne_nil (mark : Char) (text : List Char) : parts mark text ≠ [] := by
  cases text with
  | nil => simp [parts]
  | cons c rest =>
    unfold parts
    split
    · simp
    · split <;> simp

def cutAt (mark : Char) (text : String) : List String :=
  (parts mark text.toList).map String.ofList

end Rehearsal.Text
