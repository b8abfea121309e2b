/-!
# Splitting text

A text is split at every occurrence of a mark; joining the pieces with the mark
in between gives the text back.
-/

namespace EventDispatch.Text

/-- The pieces of a text between the marks; a text without marks is one piece. -/
def split (mark : Char) : List Char → List (List Char)
  | [] => [[]]
  | c :: rest =>
      if c = mark then [] :: split mark rest
      else
        match split mark rest with
        | [] => [[c]]
        | piece :: pieces => (c :: piece) :: pieces

/-- Pieces with the mark in between. -/
def join (mark : Char) : List (List Char) → List Char
  | [] => []
  | [piece] => piece
  | piece :: pieces => piece ++ mark :: join mark pieces

/-- There is at least one piece. -/
theorem split_ne_nil (mark : Char) (text : List Char) : split mark text ≠ [] := by
  cases text with
  | nil => simp [split]
  | cons c rest =>
    rw [split]
    split
    · simp
    · split <;> simp

/-- Joining undoes splitting. -/
theorem join_split (mark : Char) (text : List Char) : join mark (split mark text) = text := by
  induction text with
  | nil => rfl
  | cons c rest ih =>
    have hne := split_ne_nil mark rest
    rw [split]
    cases hsplit : split mark rest with
    | nil => exact absurd hsplit hne
    | cons piece pieces =>
      rw [hsplit] at ih
      by_cases hc : c = mark
      · simp [hc, join, ih]
      · cases pieces with
        | nil => simp_all [join]
        | cons next others => simp_all [join]

end EventDispatch.Text
