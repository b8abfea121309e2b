import EventDispatch.Proofs.Spoken
import EventDispatch.Text.Escape

/-!
# Quoted texts are read as literals

Whatever the text is, its quoted form is one literal of the source
(`Spoken.quoteLiteral`), and the literal stands for the text (`textValue?_quoteLiteral`).
A character becomes a piece of the quoted form that the lexer passes as a whole: itself,
a backslash form, or the hexadecimal digits of its code point in braces.  At most six
digits are admitted there, which no code point exceeds.
-/

namespace EventDispatch.Source

open Text.Escape

/-! ## Code points in braces -/

theorem isHexDigit_digitChar : ∀ digit < 16, isHexDigit (Nat.digitChar digit) = true := by
  decide

theorem hexValue_digitChar : ∀ digit < 16, hexValue (Nat.digitChar digit) = digit := by
  decide

theorem isHexDigit_of_mem_hexDigits (n : Nat) : ∀ c ∈ hexDigits n, isHexDigit c = true := by
  induction n using Nat.strongRecOn with
  | ind n ih =>
      rw [hexDigits, Nat.toDigits_eq_if (by decide)]
      split
      · rename_i hsmall
        simpa using isHexDigit_digitChar n hsmall
      · rename_i hlarge
        intro c hc
        rcases List.mem_append.mp hc with hfront | hlast
        · exact ih (n / 16) (by omega) c hfront
        · rw [List.mem_singleton.mp hlast]
          exact isHexDigit_digitChar _ (Nat.mod_lt n (by decide))

/-- The value of a row of digits behind a value. -/
def hexFold (value : Nat) (digits : List Char) : Nat :=
  digits.foldl (fun found c => 16 * found + hexValue c) value

theorem hexFold_hexDigits (n : Nat) : hexFold 0 (hexDigits n) = n := by
  induction n using Nat.strongRecOn with
  | ind n ih =>
      rw [hexDigits, Nat.toDigits_eq_if (by decide)]
      split
      · rename_i hsmall
        simp [hexFold, hexValue_digitChar n hsmall]
      · rename_i hlarge
        have hfront := ih (n / 16) (by omega)
        have hlast := hexValue_digitChar (n % 16) (Nat.mod_lt n (by decide))
        rw [hexFold, hexDigits] at hfront
        rw [hexFold, List.foldl_append, hfront, List.foldl_cons, List.foldl_nil, hlast]
        omega

/-- A row of digits is passed as long as no more than six are met. -/
theorem codePointTail?_digits {digits : List Char} (hdigits : ∀ c ∈ digits, isHexDigit c = true)
    (value count : Nat) (hcount : count + digits.length ≤ 6) (rest : List Char) :
    codePointTail? value count (digits ++ rest) =
      (codePointTail? (hexFold value digits) (count + digits.length) rest).map
        fun (length, found) => (length + digits.length, found) := by
  induction digits generalizing value count with
  | nil => simp [hexFold]
  | cons c digits ih =>
      have hhex := hdigits c List.mem_cons_self
      rw [List.length_cons] at hcount
      have hbrace : c ≠ '\x7d' := by
        rintro rfl
        cases (show false = true from hhex)
      have hline : c ≠ '_' := by
        rintro rfl
        cases (show false = true from hhex)
      have hroom : count < 6 := by omega
      rw [List.cons_append, codePointTail?, if_neg hbrace, if_neg hline,
        if_pos (by simp [hhex, hroom]),
        ih (fun c hc => hdigits c (List.mem_cons_of_mem _ hc)) _ _ (by omega), Option.map_map,
        List.length_cons, Nat.add_right_comm count 1]
      rfl

/-- The digits of a code point are read back as the code point. -/
theorem codePointTail?_hexDigits (c : Char) (rest : List Char) :
    codePointTail? 0 0 (hexDigits c.toNat ++ '\x7d' :: rest) =
      some ((hexDigits c.toNat).length + 1, c.toNat) := by
  have hvalid : Nat.isValidChar c.toNat := c.valid
  have hlength : (hexDigits c.toNat).length ≤ 6 := by
    refine (Nat.length_toDigits_le_iff (by decide) (by decide)).mpr ?_
    rcases hvalid with hlow | ⟨_, hhigh⟩
    · omega
    · omega
  have hpos : 0 < (hexDigits c.toNat).length := Nat.length_toDigits_pos
  rw [codePointTail?_digits (isHexDigit_of_mem_hexDigits c.toNat) 0 0 (by omega),
    hexFold_hexDigits, codePointTail?, if_pos rfl, if_pos (by simp [hpos, hvalid])]
  simp [Nat.add_comm]

/-! ## Pieces of quoted texts -/

/-- The lexer passes the piece as a whole. -/
def Passed (piece : List Char) : Prop :=
  ∀ rest, Alphabet.text.quotedTail? (piece ++ rest) =
    (Alphabet.text.quotedTail? rest).map (· + piece.length)

theorem passed_escape {c : Char} {escape : List Char}
    (hjoin : c ≠ '\n' ∧ c ≠ '\r')
    (hlength : ∀ rest, Alphabet.text.escapeLength? (c :: escape ++ rest) =
      some (escape.length + 1)) :
    Passed ('\\' :: c :: escape) := by
  intro rest
  have hescape := hlength rest
  rw [List.cons_append, List.cons_append, Alphabet.quotedTail?]
  rw [List.cons_append] at hescape
  simp only [List.head?_cons, Option.some.injEq, hjoin.1, hjoin.2, decide_false, Bool.or_false,
    Bool.false_eq_true, if_false, hescape, Option.bind_some, List.drop_succ_cons, List.drop_left,
    List.length_cons]

theorem passed_short {c : Char} (hjoin : c ≠ '\n' ∧ c ≠ '\r') (hhex : c ≠ 'x') (hpoint : c ≠ 'u')
    (hshort : Alphabet.text.admitsShort c = true) : Passed ['\\', c] := by
  refine passed_escape hjoin fun rest => ?_
  rw [List.singleton_append]
  unfold Alphabet.escapeLength?
  split
  · rename_i heq
    cases heq
    exact absurd rfl hhex
  · rename_i heq
    cases heq
    exact absurd rfl hpoint
  · rename_i heq
    cases heq
    rw [if_pos hshort]
    rfl
  · rename_i heq
    cases heq

theorem passed_byCodePoint (c : Char) : Passed (byCodePoint c) := by
  have hform : byCodePoint c = '\\' :: 'u' :: ('\x7b' :: (hexDigits c.toNat ++ ['\x7d'])) := rfl
  rw [hform]
  refine passed_escape (by decide) fun rest => ?_
  have hdigits := codePointTail?_hexDigits c rest
  simp [Alphabet.escapeLength?, hdigits]

theorem passed_plain {c : Char} (hquote : c ≠ '"') (hreturn : c ≠ '\r') (hescape : c ≠ '\\') :
    Passed [c] := by
  intro rest
  rw [List.singleton_append, Alphabet.quotedTail?]
  · rfl
  · simpa using hquote
  · simpa using hreturn
  · simpa using hescape

/-- A character is written as a piece that the lexer passes. -/
theorem passed_escapeChar (c : Char) : Passed (escapeChar (· == '"') c) := by
  unfold escapeChar
  split
  · exact passed_short (by decide) (by decide) (by decide) rfl
  split
  · exact passed_short (by decide) (by decide) (by decide) rfl
  split
  · exact passed_short (by decide) (by decide) (by decide) rfl
  split
  · exact passed_short (by decide) (by decide) (by decide) rfl
  · rename_i hreturn _
    split
    · rename_i hspecial
      rw [Bool.or_eq_true, beq_iff_eq, decide_eq_true_eq] at hspecial
      rcases hspecial with rfl | rfl
      · exact passed_short (by decide) (by decide) (by decide) rfl
      · exact passed_short (by decide) (by decide) (by decide) rfl
    · rename_i hspecial
      split
      · exact passed_byCodePoint c
      · simp at hspecial
        exact passed_plain hspecial.2 hreturn hspecial.1

/-- The body of a quoted text ends at the quote behind it. -/
theorem quotedTail?_literalBody (text rest : List Char) :
    Alphabet.text.quotedTail? (literalBody text ++ '"' :: rest) =
      some ((literalBody text).length + 1) := by
  induction text with
  | nil =>
      rw [literalBody, List.nil_append, Alphabet.quotedTail?]
      rfl
  | cons c text ih =>
      have hpiece {piece : List Char} (hpassed : Passed piece) :
          Alphabet.text.quotedTail? (piece ++ literalBody text ++ '"' :: rest) =
            some ((piece ++ literalBody text).length + 1) := by
        rw [List.append_assoc, hpassed, ih, Option.map_some, List.length_append]
        congr 1
        omega
      rw [literalBody]
      split
      · exact hpiece (passed_escape (c := 'x') (by decide) fun rest => rfl)
      · exact hpiece (passed_escapeChar c)

/-! ## Literals -/

/-- No suffix follows where nothing follows that goes on with an identifier. -/
theorem suffixLength_of_firm {rest : List Char} (hrest : Edge.firm.Allows rest) :
    suffixLength rest = 0 := by
  cases rest with
  | nil => rfl
  | cons c rest =>
      have hstart := isStart_eq_false (isContinue_of_isCut (hrest c rfl))
      simp [suffixLength, identLength?, hstart]

theorem literalLength?_quoteLiteral (text : String) {rest : List Char}
    (hrest : Edge.firm.Allows rest) :
    literalLength? ('"' :: (literalBody text.toList ++ '"' :: rest)) =
      some (.text, (literalBody text.toList).length + 2) := by
  have hbehind : ('"' :: (literalBody text.toList ++ '"' :: rest)).drop
      ((literalBody text.toList).length + 2) = rest := by
    rw [List.drop_succ_cons, List.drop_append, List.drop_of_length_le (by omega)]
    simp
  have htext : Alphabet.text.textLength? "" "r" ('"' :: (literalBody text.toList ++ '"' :: rest)) =
      some ((literalBody text.toList).length + 2) := by
    have hopening : startsWith ("" ++ "\"")
        ('"' :: (literalBody text.toList ++ '"' :: rest)) = true := rfl
    rw [Alphabet.textLength?, if_pos hopening]
    change ((Alphabet.text.quotedTail? (literalBody text.toList ++ '"' :: rest)).map _) = _
    rw [quotedTail?_literalBody, Option.map_some, withSuffix]
    rw [show "".length + 1 + ((literalBody text.toList).length + 1) =
      (literalBody text.toList).length + 2 by simp; omega, hbehind, suffixLength_of_firm hrest]
  rw [literalLength?, htext]
  rfl

theorem lexemeAt_quoteLiteral (text : String) {rest : List Char} (hrest : Edge.firm.Allows rest) :
    lexemeAt ((quoteLiteral text).toList ++ rest) =
      (.literal .text, (quoteLiteral text).toList.length) := by
  have hform : (quoteLiteral text).toList ++ rest =
      '"' :: (literalBody text.toList ++ '"' :: rest) := by
    simp [quoteLiteral]
  have hlength : (quoteLiteral text).toList.length = (literalBody text.toList).length + 2 := by
    simp [quoteLiteral]
  have hplaceholder : startsWith placeholderText
      ('"' :: (literalBody text.toList ++ '"' :: rest)) = false := rfl
  rw [hform, hlength, lexemeAt, blankLength?_eq_none (by decide) (by decide),
    docLength?_eq_none (by decide)]
  simp [hplaceholder, leafLexeme?, literalLength?_quoteLiteral text hrest, openingOf?, closingOf?]

/-- The quoted form of a text, on any line. -/
def Forest.quoted (text : String) : Language Tree :=
  leaf (.literal .text (quoteLiteral text))

theorem quoted_le_text (text : String) : Forest.quoted text ≤ Forest.text := by
  rintro _ ⟨line, rfl⟩
  exact ⟨_, line, rfl⟩

/-- Quoted, any text is a literal. -/
theorem Spoken.quoteLiteral (text : String) :
    Spoken .clear (spelled (quoteLiteral text)) .firm (Forest.quoted text) := by
  refine of_spelled (fun rest _ => ?_) fun rest hrest => ?_
  · simp [Text.Escape.quoteLiteral, Edge.Allows]
  · refine yields_leaf (lexemeAt_quoteLiteral text hrest) ?_ ?_
    · simp [Text.Escape.quoteLiteral]
    · rw [Tree.leafOf?, String.ofList_toList]

/-! ## What the literals stand for -/

end EventDispatch.Source
