namespace AbiBindings.Text

/-- The pieces between the characters that `isBorder` picks. There is one more piece than borders. -/
def splitWhere (isBorder : Char → Bool) : List Char → List (List Char)
  | [] => [[]]
  | c :: cs =>
    if isBorder c then [] :: splitWhere isBorder cs
    else match splitWhere isBorder cs with
      | [] => [[c]]
      | piece :: pieces => (c :: piece) :: pieces

theorem splitWhere_ne_nil (isBorder : Char → Bool) (cs : List Char) :
    splitWhere isBorder cs ≠ [] := by
  cases cs with
  | nil => simp [splitWhere]
  | cons c cs =>
    simp only [splitWhere]
    split
    · simp
    · split <;> simp

def afterPrefix : List Char → List Char → Option (List Char)
  | [], cs => some cs
  | _ :: _, [] => none
  | p :: ps, c :: cs => if p = c then afterPrefix ps cs else none

/-- A text as its lines. A final line feed leaves an empty last line. -/
def lines (s : String) : List String :=
  (splitWhere (· == '\n') s.toList).map String.ofList

end AbiBindings.Text
