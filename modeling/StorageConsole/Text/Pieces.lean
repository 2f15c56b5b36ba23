namespace StorageConsole.Text

variable {α : Type}

def pieces (separates : α → Bool) : List α → List (List α)
  | [] => [[]]
  | a :: rest =>
    if separates a then [] :: pieces separates rest
    else match pieces separates rest with
      | [] => [[a]]
      | piece :: more => (a :: piece) :: more

def join (separator : α) : List (List α) → List α
  | [] => []
  | [piece] => piece
  | piece :: next :: more => piece ++ separator :: join separator (next :: more)

theorem pieces_ne_nil (separates : α → Bool) (as : List α) : pieces separates as ≠ [] := by
  cases as with
  | nil => simp [pieces]
  | cons a rest =>
    simp only [pieces]
    split
    · simp
    · split <;> simp

def piecesOf (separates : Char → Bool) (s : String) : List String :=
  (pieces separates s.toList).map String.ofList

end StorageConsole.Text
