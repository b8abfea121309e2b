import EventDispatch.Path
import Mathlib.Data.List.DropRight

/-!
# Names in paths

The names in a path are its pieces without the empty ones.  A relative path that is
joined to a path adds its names at the end, however the path itself ends
(`names_join_of_relative`); a name without slashes is one more name (`names_join`).
The parent of a path has the names before the last one (`exists_parent`).
-/

namespace EventDispatch

/-! ## Pieces -/

namespace Text

variable {mark : Char} {text : List Char}

theorem split_cons_of_ne {c : Char} (hne : c ≠ mark) {piece : List Char} {pieces : List (List Char)}
    (hsplit : split mark text = piece :: pieces) : split mark (c :: text) = (c :: piece) :: pieces := by
  rw [split, if_neg hne, hsplit]

theorem split_of_notMem (hmark : mark ∉ text) : split mark text = [text] := by
  induction text with
  | nil => rfl
  | cons c rest ih =>
      rw [List.mem_cons, not_or] at hmark
      obtain ⟨hne, hrest⟩ := hmark
      exact split_cons_of_ne (Ne.symm hne) (ih hrest)

/-- A mark separates the pieces before it from those behind it. -/
theorem split_append_mark (front back : List Char) :
    split mark (front ++ mark :: back) = split mark front ++ split mark back := by
  induction front with
  | nil => simp [split]
  | cons c rest ih =>
      by_cases hmark : c = mark
      · simp [split, hmark, ih]
      · obtain ⟨piece, pieces, hsplit⟩ := List.exists_cons_of_ne_nil (split_ne_nil mark rest)
        rw [hsplit, List.cons_append] at ih
        rw [List.cons_append, split_cons_of_ne hmark hsplit, split_cons_of_ne hmark ih,
          List.cons_append]

theorem notMem_of_mem_split {piece : List Char} (hpiece : piece ∈ split mark text) :
    mark ∉ piece := by
  induction text generalizing piece with
  | nil =>
      rw [split, List.mem_singleton] at hpiece
      simp [hpiece]
  | cons c rest ih =>
      by_cases hmark : c = mark
      · rw [split, if_pos hmark, List.mem_cons] at hpiece
        rcases hpiece with rfl | hrest
        · simp
        · exact ih hrest
      · obtain ⟨first, others, hsplit⟩ := List.exists_cons_of_ne_nil (split_ne_nil mark rest)
        rw [split_cons_of_ne hmark hsplit, List.mem_cons] at hpiece
        rw [hsplit] at ih
        rcases hpiece with rfl | hothers
        · rw [List.mem_cons, not_or]
          exact ⟨Ne.symm hmark, ih List.mem_cons_self⟩
        · exact ih (List.mem_cons_of_mem first hothers)

theorem join_cons {rest : List (List Char)} (hrest : rest ≠ []) (piece : List Char) :
    join mark (piece :: rest) = piece ++ mark :: join mark rest := by
  cases rest with
  | nil => exact absurd rfl hrest
  | cons next others => rfl

theorem split_join {pieces : List (List Char)} (hnonempty : pieces ≠ [])
    (hpieces : ∀ piece ∈ pieces, mark ∉ piece) : split mark (join mark pieces) = pieces := by
  induction pieces with
  | nil => exact absurd rfl hnonempty
  | cons piece rest ih =>
      rw [List.forall_mem_cons] at hpieces
      cases rest with
      | nil => exact split_of_notMem hpieces.1
      | cons next others =>
          rw [join_cons (List.cons_ne_nil next others), split_append_mark,
            split_of_notMem hpieces.1, ih (List.cons_ne_nil next others) hpieces.2,
            List.singleton_append]

theorem join_concat {front : List (List Char)} (hfront : front ≠ []) (piece : List Char) :
    join mark (front ++ [piece]) = join mark front ++ mark :: piece := by
  induction front with
  | nil => exact absurd rfl hfront
  | cons first rest ih =>
      rw [List.cons_append, join_cons (by simp)]
      by_cases hrest : rest = []
      · simp [hrest, join]
      · rw [ih hrest, join_cons hrest, List.append_assoc, List.cons_append]

end Text

/-! ## Names -/

namespace Path

/-- The names in a path. -/
def names (path : String) : List String :=
  ((pieces path).filter fun piece => !piece.isEmpty).map String.ofList

variable {directory fileName : String}

theorem not_isAbsolute_of_notMem (hslash : '/' ∉ fileName.toList) : isAbsolute fileName = false := by
  cases hchars : fileName.toList with
  | nil => simp [isAbsolute, hchars]
  | cons first rest =>
      rw [hchars, List.mem_cons, not_or] at hslash
      simp [isAbsolute, hchars, Ne.symm hslash.1]

theorem names_append_slash (front back : String) :
    names (front ++ "/" ++ back) = names front ++ names back := by
  simp [names, pieces, Text.split_append_mark]

theorem names_of_notMem (hslash : '/' ∉ fileName.toList) (hfile : fileName ≠ "") :
    names fileName = [fileName] := by
  have hnonempty : fileName.toList ≠ [] := fun hnil => hfile (String.toList_eq_nil_iff.mp hnil)
  simp [names, pieces, Text.split_of_notMem hslash, hnonempty]

/-- The names in a joined path are those in its two parts. -/
theorem names_join_of_relative (hrelative : isAbsolute fileName = false) :
    names (join directory fileName) = names directory ++ names fileName := by
  rw [join, hrelative, if_neg Bool.false_ne_true]
  by_cases hdirectory : directory = ""
  · simp [hdirectory, names, pieces, Text.split]
  cases hends : endsInSlash directory with
  | true =>
      have hlast : directory.toList.getLast? = some '/' := beq_iff_eq.mp hends
      have hdirectory : directory = String.ofList directory.toList.dropLast ++ "/" := by
        rw [← String.toList_inj, String.toList_append, String.toList_ofList]
        exact (List.dropLast_append_getLast? '/' hlast).symm
      have hempty : names "" = [] := by simp [names, pieces, Text.split]
      have hnames : names directory = names (String.ofList directory.toList.dropLast) := by
        conv_lhs => rw [hdirectory, ← String.append_empty (s := _ ++ "/"), names_append_slash]
        rw [hempty, List.append_nil]
      rw [Bool.or_true, if_pos rfl, hnames, ← names_append_slash, ← hdirectory]
  | false =>
      rw [Bool.or_false, decide_eq_false hdirectory, if_neg Bool.false_ne_true,
        names_append_slash]

theorem isAbsolute_join_of_relative (hrelative : isAbsolute fileName = false) :
    isAbsolute (join directory fileName) = isAbsolute directory := by
  rw [join, hrelative, if_neg Bool.false_ne_true]
  by_cases hdirectory : directory = ""
  · simp [hdirectory, hrelative]
    decide
  · obtain ⟨first, rest, hchars⟩ : ∃ first rest, directory.toList = first :: rest :=
      List.exists_cons_of_ne_nil fun hnil => hdirectory (String.toList_eq_nil_iff.mp hnil)
    split
    · simp [isAbsolute, hchars]
    · simp [isAbsolute, hchars]

theorem names_join (hslash : '/' ∉ fileName.toList) (hfile : fileName ≠ "") :
    names (join directory fileName) = names directory ++ [fileName] := by
  rw [names_join_of_relative (not_isAbsolute_of_notMem hslash), names_of_notMem hslash hfile]

theorem isAbsolute_join (hslash : '/' ∉ fileName.toList) :
    isAbsolute (join directory fileName) = isAbsolute directory :=
  isAbsolute_join_of_relative (not_isAbsolute_of_notMem hslash)

/-! ## Parents -/

/-- The names among pieces. -/
def namesIn (pieces : List (List Char)) : List String :=
  (pieces.filter fun piece => !piece.isEmpty).map String.ofList

theorem names_eq_namesIn (path : String) : names path = namesIn (pieces path) :=
  rfl

theorem namesIn_append (front back : List (List Char)) :
    namesIn (front ++ back) = namesIn front ++ namesIn back := by
  simp [namesIn]

theorem pieces_ofPieces {kept : List (List Char)} (hnonempty : kept ≠ [])
    (hslash : ∀ piece ∈ kept, '/' ∉ piece) : pieces (ofPieces kept) = kept := by
  rw [pieces, ofPieces, String.toList_ofList, Text.split_join hnonempty hslash]

/-- Only an absolute path has an empty piece in front of others. -/
theorem isAbsolute_of_join {path : String} {first : List Char} {rest : List (List Char)}
    (hjoin : Text.join '/' (first :: rest) = path.toList) (hslash : '/' ∉ first)
    (hmore : first ≠ [] ∨ rest ≠ []) : isAbsolute path = first.isEmpty := by
  rw [isAbsolute, ← hjoin]
  cases first with
  | nil =>
      have hrest : rest ≠ [] := hmore.resolve_left fun hne => hne rfl
      rw [Text.join_cons hrest]
      rfl
  | cons c others =>
      have hne : c ≠ '/' := fun heq => hslash (heq ▸ List.mem_cons_self)
      cases rest with
      | nil => simp [Text.join, hne]
      | cons next further => simp [Text.join, hne]

/-- What trimming takes away are empty pieces and points. -/
theorem exists_points (pieces : List (List Char)) :
    ∃ points, namesIn pieces = namesIn (trimEnd pieces) ++ points ∧
      ∀ point ∈ points, point = "." := by
  have hpieces : trimEnd pieces ++ pieces.rtakeWhile isIdle = pieces :=
    List.rdropWhile_append_rtakeWhile
  refine ⟨namesIn (pieces.rtakeWhile isIdle), ?_, fun point hmem => ?_⟩
  · rw [← namesIn_append, hpieces]
  · obtain ⟨piece, hpiece, rfl⟩ := List.mem_map.mp hmem
    obtain ⟨htaken, hsome⟩ := List.mem_filter.mp hpiece
    have hidle : isIdle piece = true := List.mem_rtakeWhile_imp htaken
    have hnonempty : piece ≠ [] := by simpa using hsome
    have hpoint : piece = ['.'] := by simpa [isIdle, hnonempty] using hidle
    rw [hpoint]

/-- The last name of a path that does not end in a slash is its last piece. -/
theorem exists_pieces_concat {path name : String} {front : List String}
    (hnames : names path = front ++ [name]) (hends : endsInSlash path = false) :
    ∃ init, pieces path = init ++ [name.toList] ∧ front = namesIn init ∧ name ≠ "" := by
  obtain ⟨init, last, hpieces⟩ : ∃ init last, pieces path = init ++ [last] :=
    List.eq_nil_or_concat' (pieces path) |>.resolve_left (Text.split_ne_nil '/' path.toList)
  have hjoin : Text.join '/' (init ++ [last]) = path.toList := by
    rw [← hpieces]
    exact Text.join_split '/' path.toList
  have hsome : last ≠ [] := by
    rintro rfl
    by_cases hinit : init = []
    · simp [names, hpieces, hinit] at hnames
    · rw [Text.join_concat hinit] at hjoin
      simp [endsInSlash, ← hjoin] at hends
  have hlast : namesIn [last] = [String.ofList last] := by simp [namesIn, hsome]
  rw [names_eq_namesIn, hpieces, namesIn_append, hlast] at hnames
  obtain ⟨rfl, hname⟩ := List.append_inj' hnames rfl
  cases hname
  exact ⟨init, by rw [hpieces, String.toList_ofList], rfl, by simpa using hsome⟩

/-- The parent of a path of more than one piece has those before the last one that lead
somewhere.  The root is a case of its own: one empty piece alone would be the empty path. -/
theorem parent?_of_pieces {path : String} {first last : List Char} {middle : List (List Char)}
    (hpieces : pieces path = first :: (middle ++ [last])) (hlast : isIdle last = false)
    (habsolute : isAbsolute path = first.isEmpty) :
    parent? path = some (if first = [] ∧ trimEnd middle = [] then "/"
      else ofPieces (first :: trimEnd middle)) := by
  have hbody : trimEnd (middle ++ [last]) = middle ++ [last] :=
    List.rdropWhile_concat_neg isIdle middle _ (by simp [hlast])
  unfold parent?
  rw [hpieces]
  simp only [hbody, List.dropLast_concat, habsolute]
  cases first with
  | nil =>
      by_cases hkept : trimEnd middle = []
      · simp [hkept]
      · simp [hkept]
  | cons c others => simp

/-- A path that ends in a name that leads somewhere has a parent.  The names in it are those
before the last one, up to points at the end. -/
theorem exists_parent {path name : String} {front : List String}
    (hnames : names path = front ++ [name]) (hname : name ≠ ".")
    (hends : endsInSlash path = false) :
    ∃ base points, parent? path = some base ∧ isAbsolute base = isAbsolute path ∧
      front = names base ++ points ∧ ∀ point ∈ points, point = "." := by
  obtain ⟨init, hpieces, rfl, hsome⟩ := exists_pieces_concat hnames hends
  have hjoin : Text.join '/' (pieces path) = path.toList := Text.join_split '/' path.toList
  have hslash : ∀ piece ∈ pieces path, '/' ∉ piece := fun piece hmem =>
    Text.notMem_of_mem_split hmem
  rw [hpieces] at hjoin hslash
  cases init with
  | nil =>
      -- The one piece is a name, so the path starts where it is used.
      have hrelative : isAbsolute path = false := by
        rw [isAbsolute_of_join hjoin (hslash _ List.mem_cons_self) (.inl (by simpa using hsome))]
        simpa using hsome
      refine ⟨"", [], ?_, ?_, ?_, nofun⟩
      · simp [parent?, hpieces, hrelative, trimEnd, hsome]
      · rw [hrelative]
        rfl
      · simp [names, namesIn, pieces, Text.split]
  | cons first middle =>
      have hfirst : '/' ∉ first := hslash first List.mem_cons_self
      have habsolute : isAbsolute path = first.isEmpty :=
        isAbsolute_of_join hjoin hfirst (.inr (by simp))
      have hleads : isIdle name.toList = false := by
        have hpoint : name.toList ≠ ['.'] := fun heq => hname (String.toList_inj.mp heq)
        simp [isIdle, hsome, hpoint]
      obtain ⟨points, hpoints, hidle⟩ := exists_points middle
      have hfront : namesIn (first :: middle) = namesIn (first :: trimEnd middle) ++ points := by
        rw [← List.singleton_append, namesIn_append, hpoints, ← List.append_assoc,
          ← namesIn_append, List.singleton_append]
      refine ⟨_, points, parent?_of_pieces hpieces hleads habsolute, ?_, ?_, hidle⟩
      · rw [habsolute]
        split
        · rename_i hroot
          rw [hroot.1]
          rfl
        · rename_i hroot
          rw [not_and_or] at hroot
          exact isAbsolute_of_join (by rw [ofPieces, String.toList_ofList]) hfirst hroot
      · rw [hfront]
        split
        · rename_i hroot
          rw [hroot.1, hroot.2]
          rfl
        · have hkept : ∀ piece ∈ first :: trimEnd middle, '/' ∉ piece := fun piece hmem =>
            hslash piece (List.mem_append_left _
              (List.cons_subset_cons first (List.rdropWhile_prefix isIdle middle).subset hmem))
          rw [names_eq_namesIn, pieces_ofPieces (List.cons_ne_nil _ _) hkept]

end Path

end EventDispatch
