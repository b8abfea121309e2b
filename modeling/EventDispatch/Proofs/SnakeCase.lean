import EventDispatch.EventSet
import EventDispatch.Proofs.LetterCase

/-!
# Snake case, one character at a time

The conversion looks at the end of what it has written so far.  The same text comes out when
each character is looked at beside the one before it in the name: `piece` is what becomes of
a character, and `pieces` strings them together (`snakeChars_eq`).  The two views agree
because a piece ends in an underscore exactly where its character is one
(`opensWord_getLast?_piece`).

From there one converted name is compared with another:

* a second conversion finds nothing to do but to strip a raw marker, should the first one have
  brought one to light (`snakeCase_snakeCase`);
* a name is left as it is exactly if it has no capital, but for capitals without a lower case,
  which stay where words start (`isSnakeCase_iff`).
-/

namespace EventDispatch.Name

open Text.LetterCase

/-! ## Pieces -/

/-- A word may start behind the character without an underscore; it may at the start. -/
def opensWord (before : Option Char) : Bool :=
  before == none || before == some '_'

/-- What becomes of a character behind another one, or at the start of a name. -/
def piece (before : Option Char) (c : Char) : List Char :=
  if isUppercase c then
    if opensWord before then lowercase c else '_' :: lowercase c
  else [c]

/-- What becomes of the characters of a name behind another character. -/
def pieces : Option Char → List Char → List Char
  | _, [] => []
  | before, c :: rest => piece before c ++ pieces (some c) rest

theorem piece_of_isUppercase {c : Char} (hupper : isUppercase c = true) (before : Option Char) :
    piece before c = if opensWord before then lowercase c else '_' :: lowercase c :=
  if_pos hupper

theorem piece_of_not_isUppercase {c : Char} (hplain : isUppercase c = false)
    (before : Option Char) : piece before c = [c] := by
  rw [piece, hplain, if_neg Bool.false_ne_true]

theorem opensWord_some_of_ne {c : Char} (hne : c ≠ '_') : opensWord (some c) = false := by
  simp [opensWord, hne]

/-- A capital never ends in an underscore, neither as it is nor in lower case. -/
theorem opensWord_getLast?_lowercase {c : Char} (hupper : isUppercase c = true) :
    opensWord (lowercase c).getLast? = false := by
  cases hlast : (lowercase c).getLast? with
  | none => exact absurd (List.getLast?_eq_none_iff.mp hlast) (lowercase_ne_nil c)
  | some last =>
      apply opensWord_some_of_ne
      rintro rfl
      exact underscore_notMem_lowercase hupper (List.mem_of_getLast? hlast)

theorem opensWord_some_of_isUppercase {c : Char} (hupper : isUppercase c = true) :
    opensWord (some c) = false := by
  apply opensWord_some_of_ne
  rintro rfl
  rw [isUppercase_underscore] at hupper
  cases hupper

theorem piece_ne_nil (before : Option Char) (c : Char) : piece before c ≠ [] := by
  unfold piece
  split
  · split
    · exact lowercase_ne_nil c
    · exact List.cons_ne_nil _ _
  · exact List.cons_ne_nil _ _

/-- A piece ends in an underscore exactly where its character is one, whatever stands before
the piece. -/
theorem opensWord_getLast?_piece (before other : Option Char) (c : Char) :
    opensWord ((piece before c).getLast?.or other) = opensWord (some c) := by
  have hsome : (piece before c).getLast?.isSome = true := by
    rw [Option.isSome_iff_ne_none, ne_eq, List.getLast?_eq_none_iff]
    exact piece_ne_nil before c
  rw [Option.or_of_isSome hsome]
  cases hupper : isUppercase c with
  | false => rw [piece_of_not_isUppercase hupper, List.getLast?_singleton]
  | true =>
      have hlast : (piece before c).getLast? = (lowercase c).getLast? := by
        rw [piece_of_isUppercase hupper]
        split
        · rfl
        · exact List.getLast?_cons_of_ne_nil (lowercase_ne_nil c)
      rw [hlast, opensWord_getLast?_lowercase hupper, opensWord_some_of_isUppercase hupper]

/-! ## The conversion as pieces -/

/-- Of the character before only counts whether a word may start behind it. -/
theorem piece_congr {before other : Option Char} (hsame : opensWord before = opensWord other)
    (c : Char) : piece before c = piece other c := by
  rw [piece, piece, hsame]

theorem pieces_congr {before other : Option Char} (hsame : opensWord before = opensWord other)
    (name : List Char) : pieces before name = pieces other name := by
  cases name with
  | nil => rfl
  | cons c rest => rw [pieces, pieces, piece_congr hsame]

/-- The last character written so far stands for the one before in the name. -/
theorem appendSnake_eq (converted : List Char) (c : Char) :
    appendSnake converted c = converted ++ piece converted.getLast? c := by
  have hopens : (converted.isEmpty || converted.getLast? == some '_') =
      opensWord converted.getLast? := by
    cases converted with
    | nil => rfl
    | cons first rest => simp [opensWord, List.getLast?_cons]
  unfold appendSnake piece
  rw [hopens]
  split
  · split <;> rfl
  · rfl

/-- The induction is on the name; what is written so far and the character before change from
step to step, and agree on whether a word may start. -/
theorem foldl_appendSnake (name : List Char) :
    ∀ (converted : List Char) (before : Option Char),
      opensWord converted.getLast? = opensWord before →
      name.foldl appendSnake converted = converted ++ pieces before name := by
  induction name with
  | nil => intro converted before _; rw [List.foldl_nil, pieces, List.append_nil]
  | cons c rest ih =>
      intro converted before hsame
      have hlast : opensWord (converted ++ piece before c).getLast? = opensWord (some c) := by
        rw [List.getLast?_append, opensWord_getLast?_piece]
      rw [List.foldl_cons, appendSnake_eq, piece_congr hsame, ih _ _ hlast, pieces,
        List.append_assoc]

theorem snakeChars_eq (name : List Char) : snakeChars name = pieces none (unrawChars name) :=
  foldl_appendSnake (unrawChars name) [] none rfl

theorem toList_snakeCase (name : String) :
    (snakeCase name).toList = pieces none (unrawChars name.toList) := by
  rw [snakeCase, String.toList_ofList, snakeChars_eq]

theorem toList_unraw (name : String) : (unraw name).toList = unrawChars name.toList := by
  rw [unraw, String.toList_ofList]

/-! ## Marks -/

/-- The conversion brings in no mark but the underscore. -/
theorem mem_of_mem_pieces {mark : Char} (hnonzero : mark.toNat ≠ 0)
    (hlt : mark.toNat < '_'.toNat) {name : List Char} {before : Option Char}
    (hmem : mark ∈ pieces before name) : mark ∈ name := by
  induction name generalizing before with
  | nil => exact hmem
  | cons c rest ih =>
      rcases List.mem_append.mp hmem with hpiece | hrest
      · have hlower : mark ∈ lowercase c ∨ mark = c := by
          unfold piece at hpiece
          split at hpiece
          · split at hpiece
            · exact .inl hpiece
            · rcases List.mem_cons.mp hpiece with rfl | hlower
              · exact absurd hlt (Nat.lt_irrefl _)
              · exact .inl hlower
          · exact .inr (List.mem_singleton.mp hpiece)
        rcases hlower with hlower | rfl
        · rw [eq_of_mem_lowercase hnonzero (Nat.le_of_lt hlt) hlower]
          exact List.mem_cons_self
        · exact List.mem_cons_self
      · exact List.mem_cons_of_mem c (ih hrest)

/-! ## Names without capitals -/

theorem pieces_of_forall {name : List Char} (hplain : ∀ c ∈ name, isUppercase c = false)
    (before : Option Char) : pieces before name = name := by
  induction name generalizing before with
  | nil => rfl
  | cons c rest ih =>
      obtain ⟨hfirst, hrest⟩ := List.forall_mem_cons.mp hplain
      rw [pieces, piece_of_not_isUppercase hfirst, ih hrest, List.singleton_append]

theorem isSnakeCase_iff_forall {name : String} : isSnakeCase name = true ↔
    ∀ c ∈ (unraw name).toList, isUppercase c = false := by
  simp [isSnakeCase, toList_unraw]

theorem length_le_length_pieces (before : Option Char) (name : List Char) :
    name.length ≤ (pieces before name).length := by
  induction name generalizing before with
  | nil => exact Nat.le_refl _
  | cons c rest ih =>
      have hpiece := List.length_pos_iff.mpr (piece_ne_nil before c)
      have hrest := ih (some c)
      rw [pieces, List.length_append, List.length_cons]
      omega

/-- A conversion that changes nothing has met no capital with a lower case. -/
theorem lowercase_of_pieces_eq {name : List Char} {before : Option Char}
    (hsame : pieces before name = name) {c : Char} (hmem : c ∈ name)
    (hupper : isUppercase c = true) : lowercase c = [c] := by
  induction name generalizing before with
  | nil => cases hmem
  | cons first rest ih =>
      -- No piece is empty, so one that is longer than its character would make the text longer.
      have hpiece : (piece before first).length = 1 := by
        have hlength := congrArg List.length hsame
        have hpos := List.length_pos_iff.mpr (piece_ne_nil before first)
        have hrest := length_le_length_pieces (some first) rest
        rw [pieces, List.length_append, List.length_cons] at hlength
        omega
      obtain ⟨d, hd⟩ := List.length_eq_one_iff.mp hpiece
      rw [pieces, hd, List.singleton_append, List.cons.injEq] at hsame
      obtain ⟨rfl, hothers⟩ := hsame
      rcases List.mem_cons.mp hmem with rfl | hmem
      · rw [piece_of_isUppercase hupper] at hd
        split at hd
        · exact hd
        · exact absurd (List.cons.inj hd).2 (lowercase_ne_nil c)
      · exact ih hothers hmem

/-- Some capital of the name, its raw marker aside, has no lower case. -/
def HasBareCapital (name : String) : Prop :=
  ∃ c ∈ (unraw name).toList, isUppercase c = true ∧ lowercase c = [c]

/-- A name has no capital exactly if the conversion leaves it and no capital is without a lower
case. -/
theorem isSnakeCase_iff {name : String} : isSnakeCase name = true ↔
    snakeCase name = unraw name ∧ ¬ HasBareCapital name := by
  rw [isSnakeCase_iff_forall, ← String.toList_inj, toList_snakeCase, HasBareCapital, toList_unraw]
  constructor
  · intro hplain
    refine ⟨pieces_of_forall hplain none, ?_⟩
    rintro ⟨c, hmem, hupper, _⟩
    rw [hplain c hmem] at hupper
    cases hupper
  · rintro ⟨hsame, hbare⟩ c hmem
    by_contra hupper
    rw [Bool.not_eq_false] at hupper
    exact hbare ⟨c, hmem, hupper, lowercase_of_pieces_eq hsame hmem hupper⟩

theorem isSnakeCase_eq_false_iff {name : String} : isSnakeCase name = false ↔
    snakeCase name ≠ unraw name ∨ HasBareCapital name := by
  rw [← Bool.not_eq_true, isSnakeCase_iff, not_and_or, not_not]

/-! ## A second conversion -/

theorem pieces_append (front back : List Char) (before : Option Char) :
    pieces before (front ++ back) = pieces before front ++ pieces (front.getLast?.or before) back := by
  induction front generalizing before with
  | nil => rfl
  | cons c rest ih =>
      have hlast : ((c :: rest).getLast?).or before = rest.getLast?.or (some c) := by
        rw [List.getLast?_cons]
        cases rest.getLast? <;> rfl
      rw [List.cons_append, pieces, pieces, ih, hlast, List.append_assoc]

/-- The lower case of a capital stays as it is where a word starts. -/
theorem pieces_lowercase {before : Option Char} (hopens : opensWord before = true) (c : Char) :
    pieces before (lowercase c) = lowercase c := by
  by_cases hsettled : lowercase c = [c]
  · have hpiece : piece before c = [c] := by
      rw [piece, hopens, if_pos rfl, hsettled, ite_self]
    rw [hsettled, pieces, hpiece]
    rfl
  · exact pieces_of_forall
      (fun d hmem => (settled_of_mem_lowercase hmem).resolve_right hsettled) before

theorem pieces_piece (before : Option Char) (c : Char) :
    pieces before (piece before c) = piece before c := by
  cases hupper : isUppercase c with
  | false =>
      rw [piece_of_not_isUppercase hupper, pieces, piece_of_not_isUppercase hupper]
      rfl
  | true =>
      rw [piece_of_isUppercase hupper]
      split
      · rename_i hopens
        exact pieces_lowercase hopens c
      · rw [pieces, piece_of_not_isUppercase isUppercase_underscore, pieces_lowercase rfl]
        rfl

/-- The induction is on the name; in the second conversion another character stands before,
behind which a word may start or not as behind the first one. -/
theorem pieces_pieces (name : List Char) :
    ∀ {before other : Option Char}, opensWord other = opensWord before →
      pieces other (pieces before name) = pieces before name := by
  induction name with
  | nil => intro before other _; rfl
  | cons c rest ih =>
      intro before other hsame
      rw [pieces, pieces_append, ih (opensWord_getLast?_piece before other c),
        pieces_congr hsame, pieces_piece]

/-- A name that the conversion leaves behind some character is left at the start as well: a
capital that gets no underscore there gets none here. -/
theorem pieces_none_of_pieces_eq {name : List Char} {before : Option Char}
    (hsame : pieces before name = name) : pieces none name = name := by
  cases hopens : opensWord before with
  | true =>
      have hstart : opensWord none = opensWord before := hopens.symm
      rw [pieces_congr hstart, hsame]
  | false =>
      cases name with
      | nil => rfl
      | cons c rest =>
          cases hupper : isUppercase c with
          | false =>
              rw [pieces, piece_of_not_isUppercase hupper] at hsame ⊢
              exact hsame
          | true =>
              rw [pieces, piece_of_isUppercase hupper, hopens, if_neg Bool.false_ne_true] at hsame
              obtain rfl : '_' = c := (List.cons.inj hsame).1
              rw [isUppercase_underscore] at hupper
              cases hupper

/-- Without its raw marker a converted name is still one. -/
theorem pieces_unrawChars {name : List Char} (hsettled : pieces none name = name) :
    pieces none (unrawChars name) = unrawChars name := by
  unfold unrawChars
  split
  · rename_i rest
    have hletter : isUppercase 'r' = false := by decide +kernel
    have hmark : isUppercase '#' = false := by decide +kernel
    rw [pieces, pieces, piece_of_not_isUppercase hletter, piece_of_not_isUppercase hmark] at hsettled
    have hrest : pieces (some '#') rest = rest := (List.cons.inj (List.cons.inj hsettled).2).2
    exact pieces_none_of_pieces_eq hrest
  · exact hsettled

/-- All that is left to do for a second conversion is to strip a raw marker. -/
theorem snakeCase_snakeCase (name : String) : snakeCase (snakeCase name) = unraw (snakeCase name) := by
  rw [← String.toList_inj, toList_snakeCase, toList_unraw, toList_snakeCase]
  exact pieces_unrawChars (pieces_pieces _ rfl)

theorem unrawChars_of_notMem {name : List Char} (hmark : '#' ∉ name) : unrawChars name = name := by
  unfold unrawChars
  split
  · simp at hmark
  · rfl

theorem unraw_of_notMem {name : String} (hmark : '#' ∉ name.toList) : unraw name = name := by
  rw [← String.toList_inj, toList_unraw, unrawChars_of_notMem hmark]

/-- A name derived from a name without marks is left as it is by a second derivation, with the
capitals that have no lower case and the one whose lower case is two characters among them.
So a field that is called by a key already is recorded under this key. -/
theorem snakeCase_idempotent {name : String} (hmark : '#' ∉ (unraw name).toList) :
    snakeCase (snakeCase name) = snakeCase name ∧
      Field.ofIdent (paramKey name) = { ident := paramKey name, key := paramKey name } := by
  have hmarkless : '#' ∉ (snakeCase name).toList := by
    intro hmem
    rw [toList_snakeCase] at hmem
    rw [toList_unraw] at hmark
    exact hmark (mem_of_mem_pieces (by decide) (by decide) hmem)
  have hsame : snakeCase (snakeCase name) = snakeCase name := by
    rw [snakeCase_snakeCase, unraw_of_notMem hmarkless]
  exact ⟨hsame, congrArg (Field.mk (paramKey name)) hsame⟩

/-- A raw name with the dotted capital, whose lower case is two characters, and a capital
without a lower case. -/
theorem snakeCase_idempotent_dotted :
    '#' ∉ (unraw "r#a\u0130\u2102").toList ∧
      snakeCase "r#a\u0130\u2102" = "a_i\u0307_\u2102" ∧
      snakeCase "a_i\u0307_\u2102" = "a_i\u0307_\u2102" := by
  have hmark : '#' ∉ (unraw "r#a\u0130\u2102").toList := by decide +kernel
  have hfirst : snakeCase "r#a\u0130\u2102" = "a_i\u0307_\u2102" := by decide +kernel
  have hsecond := (snakeCase_idempotent hmark).1
  rw [hfirst] at hsecond
  exact ⟨hmark, hfirst, hsecond⟩

end EventDispatch.Name
