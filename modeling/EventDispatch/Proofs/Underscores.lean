import EventDispatch.Proofs.SnakeCase

/-!
# Which underscores a conversion adds

What becomes of a character of a name is decided by the character and the one before it:
`pieceAt` is the piece for the character at a position, and a converted name is these pieces
one behind the other (`pieces_eq_flatten`).  A piece is the character in lower case, with at
most one underscore in front.

Without their underscores the converted name and the name in lower case are therefore the
same text (`filter_pieces`).  An underscore is added only behind a character that is none, and
never at the start; and since no capital has an underscore in lower case, neither the
underscores at the start (`takeWhile_pieces`) nor those that stand side by side
(`underscorePairs_pieces`) become more or fewer.
-/

namespace EventDispatch.Name

open Text.LetterCase

/-! ## The piece at a position -/

/-- A character, in lower case if it is a capital. -/
def lowered (c : Char) : List Char :=
  if isUppercase c then lowercase c else [c]

/-- The piece for the character at a position of a name: the character in lower case, behind
an underscore if it is a capital that neither opens the name nor follows an underscore. -/
def pieceAt (name : List Char) (position : Nat) (c : Char) : List Char :=
  (if isUppercase c ∧ 0 < position ∧ name[position - 1]? ≠ some '_' then ['_'] else []) ++ lowered c

theorem lowered_eq_lowercase (c : Char) : lowered c = lowercase c := by
  unfold lowered
  split
  · rfl
  · rename_i hplain
    exact (lowercase_of_not_isUppercase (Bool.eq_false_iff.mpr hplain)).symm

/-- A piece is the character in lower case, or that behind one underscore where no word may
start. -/
theorem piece_cases (before : Option Char) (c : Char) :
    piece before c = lowered c ∨
      (piece before c = '_' :: lowered c ∧ isUppercase c = true ∧ opensWord before = false) := by
  cases hupper : isUppercase c with
  | false =>
      left
      rw [piece_of_not_isUppercase hupper, lowered, hupper, if_neg Bool.false_ne_true]
  | true =>
      rw [piece_of_isUppercase hupper, lowered_eq_lowercase]
      cases hopens : opensWord before with
      | true => exact .inl (if_pos rfl)
      | false => exact .inr ⟨if_neg Bool.false_ne_true, rfl, rfl⟩

/-- At the position behind the front of a name, the character before is the last one of the
front. -/
theorem pieceAt_eq (front rest : List Char) (c : Char) :
    pieceAt (front ++ c :: rest) front.length c = piece front.getLast? c := by
  have hbefore : (0 < front.length ∧ (front ++ c :: rest)[front.length - 1]? ≠ some '_') ↔
      opensWord front.getLast? = false := by
    have hfront : front.getLast? ≠ none ↔ 0 < front.length := by
      rw [ne_eq, List.getLast?_eq_none_iff, List.length_pos_iff]
    rw [opensWord, Bool.or_eq_false_iff, beq_eq_false_iff_ne, beq_eq_false_iff_ne, hfront]
    refine and_congr_right fun hpos => ?_
    have hlt : front.length - 1 < front.length := Nat.sub_lt hpos Nat.zero_lt_one
    rw [List.getElem?_append_left hlt, List.getLast?_eq_getElem?]
  unfold pieceAt
  simp only [hbefore]
  rcases piece_cases front.getLast? c with hpiece | ⟨hpiece, hupper, hopens⟩
  · rw [hpiece]
    by_cases hadds : isUppercase c = true ∧ opensWord front.getLast? = false
    · rw [piece_of_isUppercase hadds.1, hadds.2, if_neg Bool.false_ne_true,
        lowered_eq_lowercase] at hpiece
      exact absurd (congrArg List.length hpiece) (by simp)
    · rw [if_neg hadds, List.nil_append]
  · rw [if_pos ⟨hupper, hopens⟩, hpiece, List.singleton_append]

/-- The induction is on what is left of the name behind its front. -/
theorem pieces_eq_flatten_mapIdx (back : List Char) : ∀ front : List Char,
    pieces front.getLast? back =
      (back.mapIdx fun index c => pieceAt (front ++ back) (front.length + index) c).flatten := by
  induction back with
  | nil => intro front; rfl
  | cons c rest ih =>
      intro front
      have hrest := ih (front ++ [c])
      simp only [List.getLast?_concat, List.append_assoc, List.singleton_append, List.length_append,
        List.length_singleton, Nat.add_assoc, Nat.add_comm 1] at hrest
      rw [pieces, hrest, List.mapIdx_cons, List.flatten_cons, Nat.add_zero, pieceAt_eq]

theorem pieces_eq_flatten (name : List Char) :
    pieces none name = (name.mapIdx (pieceAt name)).flatten := by
  simpa using pieces_eq_flatten_mapIdx name []

/-! ## Without underscores -/

theorem filter_piece (before : Option Char) (c : Char) :
    (piece before c).filter (· != '_') = (lowered c).filter (· != '_') := by
  rcases piece_cases before c with hpiece | ⟨hpiece, _⟩
  · rw [hpiece]
  · rw [hpiece, List.filter_cons_of_neg (by decide)]

/-- Without underscores a converted name is the name in lower case. -/
theorem filter_pieces (name : List Char) (before : Option Char) :
    (pieces before name).filter (· != '_') = (name.flatMap lowered).filter (· != '_') := by
  induction name generalizing before with
  | nil => rfl
  | cons c rest ih =>
      rw [pieces, List.flatMap_cons, List.filter_append, List.filter_append, filter_piece, ih]

/-- The name in lower case is all there in its order, its own underscores included. -/
theorem sublist_pieces (name : List Char) (before : Option Char) :
    (name.flatMap lowered).Sublist (pieces before name) := by
  induction name generalizing before with
  | nil => exact List.Sublist.refl []
  | cons c rest ih =>
      have hpiece : (lowered c).Sublist (piece before c) := by
        rcases piece_cases before c with hpiece | ⟨hpiece, _⟩
        · rw [hpiece]
        · rw [hpiece]
          exact List.sublist_cons_self '_' (lowered c)
      rw [pieces, List.flatMap_cons]
      exact hpiece.append (ih (some c))

/-! ## Underscores side by side -/

/-- The number of places where two underscores stand side by side. -/
def underscorePairs (text : List Char) : Nat :=
  (text.zip text.tail).count ('_', '_')

/-- Whether one text ends and the next one starts with an underscore. -/
def meets (last first : Option Char) : Nat :=
  if last = some '_' ∧ first = some '_' then 1 else 0

theorem underscorePairs_cons (c : Char) (rest : List Char) :
    underscorePairs (c :: rest) = meets (some c) rest.head? + underscorePairs rest := by
  unfold underscorePairs meets
  cases rest with
  | nil => simp
  | cons d others =>
      rw [List.tail_cons, List.tail_cons, List.zip_cons_cons, List.count_cons, Nat.add_comm]
      simp [Prod.ext_iff]

theorem underscorePairs_append (front back : List Char) :
    underscorePairs (front ++ back) =
      underscorePairs front + meets front.getLast? back.head? + underscorePairs back := by
  induction front with
  | nil => simp [underscorePairs, meets]
  | cons c rest ih =>
      rw [List.cons_append, underscorePairs_cons, ih, underscorePairs_cons]
      cases rest with
      | nil => simp [underscorePairs, meets]
      | cons d others =>
          rw [List.cons_append, List.head?_cons, List.head?_cons, List.getLast?_cons_cons]
          omega

theorem underscorePairs_of_notMem {text : List Char} (hnone : '_' ∉ text) :
    underscorePairs text = 0 := by
  unfold underscorePairs
  rw [List.count_eq_zero]
  intro hmem
  exact hnone (List.of_mem_zip hmem).1

theorem underscorePairs_piece (before : Option Char) (c : Char) :
    underscorePairs (piece before c) = 0 := by
  cases hupper : isUppercase c with
  | false =>
      rw [piece_of_not_isUppercase hupper]
      rfl
  | true =>
      have hnone := underscore_notMem_lowercase hupper
      have hlower := underscorePairs_of_notMem hnone
      rw [piece_of_isUppercase hupper]
      split
      · exact hlower
      · have hhead : (lowercase c).head? ≠ some '_' := fun hhead =>
          hnone (List.mem_of_mem_head? hhead)
        rw [underscorePairs_cons, hlower, meets, if_neg fun hboth => hhead hboth.2]

/-- A piece ends in an underscore exactly where its character is one. -/
theorem getLast?_piece_eq_iff (before : Option Char) (c : Char) :
    (piece before c).getLast? = some '_' ↔ c = '_' := by
  have hsome : (piece before c).getLast? ≠ none := by
    rw [ne_eq, List.getLast?_eq_none_iff]
    exact piece_ne_nil before c
  have hopens := opensWord_getLast?_piece before none c
  rw [Option.or_none, Bool.eq_iff_iff] at hopens
  simpa [opensWord, hsome, -List.getLast?_eq_none_iff] using hopens

/-- Where a word may start, a converted name starts with an underscore only if the name does. -/
theorem head?_pieces_eq_iff {before : Option Char} (hopens : opensWord before = true)
    (name : List Char) : (pieces before name).head? = some '_' ↔ name.head? = some '_' := by
  cases name with
  | nil => rfl
  | cons c rest =>
      rw [pieces, List.head?_append_of_ne_nil _ (piece_ne_nil before c), List.head?_cons]
      cases hupper : isUppercase c with
      | false => rw [piece_of_not_isUppercase hupper, List.head?_cons]
      | true =>
          rw [piece_of_isUppercase hupper, hopens, if_pos rfl]
          constructor
          · intro hhead
            exact absurd (List.mem_of_mem_head? hhead) (underscore_notMem_lowercase hupper)
          · intro hc
            obtain rfl := Option.some.inj hc
            rw [isUppercase_underscore] at hupper
            cases hupper

/-- A name and its conversion start with the same underscores. -/
theorem takeWhile_pieces (name : List Char) :
    ∀ {before : Option Char}, opensWord before = true →
      (pieces before name).takeWhile (· == '_') = name.takeWhile (· == '_') := by
  induction name with
  | nil => intro before _; rfl
  | cons c rest ih =>
      intro before hopens
      by_cases hc : c = '_'
      · subst hc
        rw [pieces, piece_of_not_isUppercase isUppercase_underscore, List.singleton_append,
          List.takeWhile_cons_of_pos rfl, List.takeWhile_cons_of_pos rfl, ih rfl]
      · have hhead := head?_pieces_eq_iff hopens (c :: rest)
        rw [List.head?_cons, Option.some_inj] at hhead
        rw [List.takeWhile_cons_of_neg (by simpa using hc)]
        cases hpieces : pieces before (c :: rest) with
        | nil => rfl
        | cons d others =>
            rw [hpieces, List.head?_cons, Option.some_inj] at hhead
            exact List.takeWhile_cons_of_neg (by simpa using mt hhead.mp hc)

/-- As many underscores stand side by side in a name as in its conversion. -/
theorem underscorePairs_pieces (name : List Char) (before : Option Char) :
    underscorePairs (pieces before name) = underscorePairs name := by
  induction name generalizing before with
  | nil => rfl
  | cons c rest ih =>
      -- Behind an underscore a word may start, so that nothing is put in between.
      have hmeets : meets (piece before c).getLast? (pieces (some c) rest).head? =
          meets (some c) rest.head? := by
        unfold meets
        refine if_congr ?_ rfl rfl
        rw [getLast?_piece_eq_iff, Option.some_inj]
        refine and_congr_right ?_
        rintro rfl
        exact head?_pieces_eq_iff rfl rest
      rw [pieces, underscorePairs_append, underscorePairs_piece, hmeets, ih, Nat.zero_add,
        underscorePairs_cons]

/-- A converted name is put together from a piece for each character of the name, and each
piece depends on its character and the one before.  So the conversion does no more than add
underscores to the name in lower case: without underscores the two are the same, and the name in
lower case is there in full and in order.  It adds none at the start, and none beside another
one. -/
theorem snakeCase_local (name : String) :
    let given := (unraw name).toList
    let converted := (snakeCase name).toList
    converted = (given.mapIdx (pieceAt given)).flatten ∧
      converted.filter (· != '_') = (given.flatMap lowered).filter (· != '_') ∧
      (given.flatMap lowered).Sublist converted ∧
      converted.takeWhile (· == '_') = given.takeWhile (· == '_') ∧
      underscorePairs converted = underscorePairs given := by
  intro given converted
  have hconverted : converted = pieces none given := by
    simp only [converted, given, toList_snakeCase, toList_unraw]
  rw [hconverted]
  exact ⟨pieces_eq_flatten given, filter_pieces given none, sublist_pieces given none,
    takeWhile_pieces given rfl, underscorePairs_pieces given none⟩

example : snakeCase "r#_HTTP__Error" = "_h_t_t_p__error" := by decide +kernel

end EventDispatch.Name
