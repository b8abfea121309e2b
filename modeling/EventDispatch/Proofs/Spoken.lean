import Mathlib.Computability.Language
import Mathlib.Order.CompletePartialOrder
import EventDispatch.Proofs.Reference

/-!
# Texts that are read as trees

`Spoken before texts after forest` says of a set of texts what trees they are read
as, whatever stands around them: behind a front that demands `before` of what
follows, each text is read as some trees of `forest`, as long as what comes next
meets `after`.  The judgement composes like a Hoare triple (`Spoken.mul`), and a
group is read as one tree whatever its content is (`Spoken.group`).

Only two demands are needed.  Behind an identifier or a literal stands a character
that does not go on with it; elsewhere it is enough that no comment begins.

Sets of texts and of trees are languages, since what is printed is known only up to
breaks: the line of a tree and whether its last mark touches the next are left open.
-/

namespace EventDispatch.Source

open Source.Tree (Frame build)

/-! ## Paths -/

/-- A name of a path, and what its arguments are read as. -/
structure Part where
  name : String
  arguments : List (Language Tree) := []

/-- A path, and what its arguments are read as. -/
structure Trail where
  rooted : Bool
  parts : List Part

/-- The path, when each of its arguments is read as one of the given trees. -/
def Reference.trail (argument : Language Tree) (reference : Reference) : Trail where
  rooted := reference.rooted
  parts := reference.segments.map fun segment => {
    name := segment.name
    arguments :=
      ((segment.angles.map Angles.arguments).getD []).map fun _ => argument }

/-! ## Sets of trees -/

namespace Forest

/-- A leaf, on any line. -/
def leaf (token : Leaf) : Language Tree :=
  {trees | ∃ line, trees = [.leaf token line]}

/-- A name as it is written. -/
def word (name : String) : Language Tree :=
  {trees | ∃ ident line, ident.text = name ∧ trees = [.leaf (.ident ident) line]}

/-- A mark. -/
def mark (c : Char) : Language Tree :=
  {trees | ∃ joint line, trees = [.leaf (.punct c joint) line]}

/-- Two marks without a gap between them. -/
def marks (c d : Char) : Language Tree :=
  {trees | ∃ joint first second,
    trees = [.leaf (.punct c true) first, .leaf (.punct d joint) second]}

/-- Some quoted text. -/
def text : Language Tree :=
  {trees | ∃ text line, trees = [.leaf (.literal .text text) line]}

/-- A group with some content. -/
def group (delimiter : Delimiter) (content : Language Tree) : Language Tree :=
  {trees | ∃ opening closing, ∃ inner ∈ content, trees = [.group delimiter opening closing inner]}

/-- Elements with commas between them. -/
def commas : List (Language Tree) → Language Tree
  | [] => 1
  | [element] => element
  | element :: rest => element * mark ',' * commas rest

/-- A list; a comma may stand behind its last element. -/
def listed (elements : List (Language Tree)) : Language Tree :=
  commas elements * (1 + mark ',')

/-- Names with a comma behind each, and two dots behind them. -/
def fields (names : List String) : Language Tree :=
  (names.map fun name => word name * mark ',').prod * marks '.' '.'

/-- Arguments in angles, none of which are left out.  In an expression a double colon stands
in front of them. -/
def angles (inExpr : Bool) : List (Language Tree) → Language Tree
  | [] => 1
  | argument :: rest =>
      (if inExpr then marks ':' ':' else 1) * (mark '<' * listed (argument :: rest) * mark '>')

/-- A name with its arguments. -/
def part (inExpr : Bool) (part : Part) : Language Tree :=
  word part.name * angles inExpr part.arguments

/-- Names with double colons between them. -/
def parts (inExpr : Bool) : List Part → Language Tree
  | [] => 1
  | [last] => part inExpr last
  | first :: rest => part inExpr first * marks ':' ':' * parts inExpr rest

/-- A path as it is written, in an expression or a type. -/
def path (inExpr : Bool) (trail : Trail) : Language Tree :=
  (if trail.rooted then marks ':' ':' else 1) * parts inExpr trail.parts

/-- A documentation comment, or the attribute that it stands for. -/
def doc : Language Tree :=
  mark '#' * group .bracket (word "doc" * mark '=' * text)

end Forest

/-! ## Sets of texts -/

/-- A text, as the only one of its set. -/
def spelled (text : String) : Language Char :=
  {text.toList}

/-- Any number of blanks. -/
def spaces : Language Char :=
  {text | ∀ c ∈ text, c = ' '}

theorem spelled_empty : spelled "" = 1 :=
  rfl

theorem spelled_append (front back : String) :
    spelled (front ++ back) = spelled front * spelled back := by
  rw [spelled, spelled, spelled, Language.mul_def, String.toList_append]
  exact Set.image2_singleton.symm

/-! ## What may follow -/

/-- What a front demands of the text behind it. -/
inductive Edge where
  | free
  | clear
  | firm

/-- The text meets the demand. -/
def Edge.Allows : Edge → List Char → Prop
  | free, _ => True
  | clear, rest => rest.head? ≠ some '/'
  | firm, rest => ∀ c ∈ rest.head?, isCut c = true

/-- The demands from the least to the greatest. -/
instance : LE Edge := ⟨fun edge other => ∀ rest, other.Allows rest → edge.Allows rest⟩

namespace Edge

theorem refl (edge : Edge) : edge ≤ edge :=
  fun _ hrest => hrest

theorem free_le (edge : Edge) : free ≤ edge :=
  fun _ _ => trivial

theorem allows_cut (edge : Edge) {c : Char} (hcut : isCut c = true) (rest : List Char) :
    edge.Allows (c :: rest) := by
  cases edge with
  | free => trivial
  | clear =>
      simp only [Allows, List.head?_cons, Ne, Option.some.injEq]
      rintro rfl
      cases (show false = true from hcut)
  | firm => simpa [Allows] using hcut

theorem le_firm (edge : Edge) : edge ≤ firm := by
  intro rest hrest
  cases rest with
  | nil =>
      cases edge with
      | free => trivial
      | clear => simp [Allows]
      | firm => exact hrest
  | cons c rest => exact edge.allows_cut (hrest c rfl) rest

end Edge

/-! ## The judgement -/

/-- Wherever the text stands, it is read as some trees of the forest, and the rest is
still to be read. -/
def Yields (text : List Char) (forest : Language Tree) (rest : List Char) : Prop :=
  ∀ (line : Nat) (frames : List Frame) (read : List Tree), ∃ trees ∈ forest, ∃ later,
    build line frames read (lexemes text) =
      build later frames (trees.reverse ++ read) (lexemes rest)

/-- Behind a front that demands `before`, each of the texts is read as trees of the
forest when what follows it meets `after`. -/
def Spoken (before : Edge) (texts : Language Char) (after : Edge) (forest : Language Tree) : Prop :=
  ∀ text ∈ texts, ∀ rest, after.Allows rest →
    before.Allows (text ++ rest) ∧ Yields (text ++ rest) forest rest

theorem Yields.refl (text : List Char) : Yields text 1 text :=
  fun line _ read => ⟨[], Language.nil_mem_one, line, by simp⟩

theorem Yields.trans {text middle rest : List Char} {first second : Language Tree}
    (hfirst : Yields text first middle) (hsecond : Yields middle second rest) :
    Yields text (first * second) rest := by
  intro line frames read
  obtain ⟨trees, htrees, between, hbuild⟩ := hfirst line frames read
  obtain ⟨others, hothers, later, hmore⟩ := hsecond between frames (trees.reverse ++ read)
  refine ⟨trees ++ others, Language.append_mem_mul htrees hothers, later, ?_⟩
  rw [hbuild, hmore, List.reverse_append, List.append_assoc]

theorem Yields.mono {text rest : List Char} {forest larger : Language Tree}
    (hyields : Yields text forest rest) (hle : forest ≤ larger) : Yields text larger rest := by
  intro line frames read
  obtain ⟨trees, htrees, later, hbuild⟩ := hyields line frames read
  exact ⟨trees, hle htrees, later, hbuild⟩

namespace Spoken

variable {before middle after : Edge} {texts others : Language Char}
  {forest more : Language Tree}

theorem one (edge : Edge) : Spoken edge 1 edge 1 := by
  rintro text htext rest hrest
  rw [Language.mem_one] at htext
  subst htext
  exact ⟨hrest, Yields.refl rest⟩

/-- One text behind another: what the second demands of its front is what the first leaves. -/
theorem mul (hfirst : Spoken before texts middle forest)
    (hsecond : Spoken middle others after more) :
    Spoken before (texts * others) after (forest * more) := by
  intro text htext rest hrest
  obtain ⟨front, hfront, back, hback, rfl⟩ := Language.mem_mul.mp htext
  obtain ⟨hallows, hmore⟩ := hsecond back hback rest hrest
  obtain ⟨hbefore, hyields⟩ := hfirst front hfront (back ++ rest) hallows
  rw [List.append_assoc]
  exact ⟨hbefore, hyields.trans hmore⟩

theorem zero : Spoken before 0 after forest :=
  fun text htext => (Language.notMem_zero text htext).elim

theorem add (hfirst : Spoken before texts after forest)
    (hsecond : Spoken before others after forest) :
    Spoken before (texts + others) after forest := by
  intro text htext rest hrest
  rcases (Language.mem_add _ _ _).mp htext with hleft | hright
  · exact hfirst text hleft rest hrest
  · exact hsecond text hright rest hrest

theorem mono (hspoken : Spoken before texts after forest) (hle : forest ≤ more) :
    Spoken before texts after more :=
  fun text htext rest hrest =>
    ⟨(hspoken text htext rest hrest).1, (hspoken text htext rest hrest).2.mono hle⟩

theorem subset (hspoken : Spoken before texts after forest) (hle : others ≤ texts) :
    Spoken before others after forest :=
  fun text htext => hspoken text (hle htext)

/-- Less may be demanded in front, and more of what follows. -/
theorem weaken {less more : Edge} (hspoken : Spoken before texts after forest)
    (hless : less ≤ before) (hmore : after ≤ more) : Spoken less texts more forest :=
  fun text htext rest hrest =>
    ⟨hless _ (hspoken text htext rest (hmore rest hrest)).1,
      (hspoken text htext rest (hmore rest hrest)).2⟩

/-- Nothing that goes on with the text may follow, though more could. -/
theorem firm (hspoken : Spoken before texts after forest) : Spoken before texts .firm forest :=
  hspoken.weaken before.refl after.le_firm

end Spoken

/-! ## Lexemes one by one -/

section Lexemes

variable {c : Char} {rest : List Char}

theorem build_blank {lexeme : Lexeme} (hkind : lexeme.kind = .blank) (line : Nat)
    (frames : List Frame) (read : List Tree) (others : List Lexeme) :
    build line frames read (lexeme :: others) =
      build (line + lexeme.text.count '\n') frames read others := by
  rw [build, hkind]

/-- A blank is read over, alone or with others that stand behind it. -/
theorem build_cons_blank (hblank : isBlank c = true) (line : Nat) (frames : List Frame)
    (read : List Tree) (rest : List Char) :
    build line frames read (lexemes (c :: rest)) =
      build (line + [c].count '\n') frames read (lexemes rest) := by
  have hlexeme : lexemeAt (c :: rest) = (.blank, (rest.takeWhile isBlank).length + 1) :=
    lexemeAt_of_blank (by simp [blankLength?, hblank])
  have hbound := (rest.takeWhile_prefix isBlank).length_le
  have htake : (c :: rest).take ((rest.takeWhile isBlank).length + 1) =
      c :: rest.takeWhile isBlank := by
    rw [List.take_succ_cons, ← List.prefix_iff_eq_take.mp (rest.takeWhile_prefix isBlank)]
  rw [lexemes_eq_cons hlexeme (Nat.succ_pos _) (Nat.succ_le_succ hbound), List.drop_succ_cons,
    htake, build_blank rfl]
  cases hrun : rest.takeWhile isBlank with
  | nil => rfl
  | cons first others =>
      -- The blanks behind it are one lexeme with it here, and one of their own without it.
      have hnext : lexemeAt rest = (.blank, (first :: others).length) :=
        lexemeAt_of_blank (by simp [blankLength?, hrun])
      rw [hrun] at hbound
      have hfront : rest.take (first :: others).length = first :: others := by
        rw [← hrun, ← List.prefix_iff_eq_take.mp (rest.takeWhile_prefix isBlank)]
      rw [lexemes_eq_cons hnext (Nat.succ_pos _) hbound, hfront, build_blank rfl]
      congr 1
      simp only [List.count_cons, List.count_nil]
      omega

/-- Blanks within a line are read over on that line. -/
theorem build_spaces {blanks : List Char} (hblanks : blanks ∈ spaces) (line : Nat)
    (frames : List Frame) (read : List Tree) (rest : List Char) :
    build line frames read (lexemes (blanks ++ rest)) =
      build line frames read (lexemes rest) := by
  induction blanks with
  | nil => rfl
  | cons c blanks ih =>
      obtain rfl : c = ' ' := hblanks c List.mem_cons_self
      rw [List.cons_append, build_cons_blank (by decide),
        show [' '].count '\n' = 0 from rfl, Nat.add_zero,
        ih fun c hc => hblanks c (List.mem_cons_of_mem ' ' hc)]

theorem yields_blank (hblank : isBlank c = true) (rest : List Char) : Yields (c :: rest) 1 rest :=
  fun line frames read =>
    ⟨[], Language.nil_mem_one, _, build_cons_blank hblank line frames read rest⟩

/-- The text of a leaf is read as the leaf. -/
theorem yields_leaf {text : List Char} {kind : LexemeKind} {token : Leaf}
    (hlexeme : lexemeAt (text ++ rest) = (kind, text.length)) (hpos : 0 < text.length)
    (htoken : Tree.leafOf? { kind, text } = some token) :
    Yields (text ++ rest) (Forest.leaf token) rest := by
  intro line frames read
  have hbound : text.length ≤ (text ++ rest).length := by simp
  refine ⟨[.leaf token line], ⟨line, rfl⟩, line + text.count '\n', ?_⟩
  rw [lexemes_eq_cons hlexeme hpos hbound, List.take_left, List.drop_left, Tree.build_leaf htoken]
  rfl

/-- An identifier is read as one where nothing follows that goes on with it. -/
theorem yields_ident (name : Ident) (hrest : Edge.firm.Allows rest) :
    Yields (name.text.toList ++ rest) (Forest.leaf (.ident name)) rest := by
  have htoken : Tree.leafOf? { kind := .ident, text := name.text.toList } = some (.ident name) := by
    simp [Tree.leafOf?, name.ofChars?_eq_some]
  refine yields_leaf ?_ name.length_pos htoken
  cases rest with
  | nil => simpa using name.isLexeme
  | cons c rest => exact (lexemeAt_ident_append c (hrest c rfl) rest name.isLexeme).2.2

/-- The marks of generated code. -/
def plainMarks : List Char :=
  [':', '<', '>', '&', ',', '.', '=', ';']

theorem isCut_of_mem_plainMarks (hmark : c ∈ plainMarks) : isCut c = true := by
  have hmarks : (plainMarks.all isCut) = true := by decide
  exact List.all_eq_true.mp hmarks c hmark

/-- A mark is a lexeme of its own. -/
theorem lexemeAt_mark (hmark : c ∈ plainMarks) (rest : List Char) :
    lexemeAt (c :: rest) = (.punct (startsMark rest), 1) := by
  simp only [plainMarks, List.mem_cons, List.not_mem_nil, or_false] at hmark
  rcases hmark with rfl | rfl | rfl | rfl | rfl | rfl | rfl | rfl <;> rfl

theorem yields_punct (hlexeme : lexemeAt (c :: rest) = (.punct (startsMark rest), 1)) :
    Yields (c :: rest) (Forest.leaf (.punct c (startsMark rest))) rest := by
  have hpos : 0 < [c].length := Nat.one_pos
  exact yields_leaf hlexeme hpos rfl

theorem startsMark_of_mem (hmark : c ∈ plainMarks) (rest : List Char) :
    startsMark (c :: rest) = true := by
  simp only [plainMarks, List.mem_cons, List.not_mem_nil, or_false] at hmark
  rcases hmark with rfl | rfl | rfl | rfl | rfl | rfl | rfl | rfl <;> rfl

end Lexemes

/-! ## Groups -/

/-- The character that opens a group. -/
def Delimiter.opening : Delimiter → Char
  | paren => '('
  | bracket => '['
  | brace => '\x7b'

/-- The character that closes a group. -/
def Delimiter.closing : Delimiter → Char
  | paren => ')'
  | bracket => ']'
  | brace => '\x7d'

theorem isCut_opening (delimiter : Delimiter) : isCut delimiter.opening = true := by
  cases delimiter <;> decide

theorem isCut_closing (delimiter : Delimiter) : isCut delimiter.closing = true := by
  cases delimiter <;> decide

/-- A delimiter opens a group, unless a comment stands behind it. -/
theorem lexemeAt_opening (delimiter : Delimiter) {rest : List Char}
    (hrest : Edge.clear.Allows rest) :
    lexemeAt (delimiter.opening :: rest) = (.opening delimiter, 1) := by
  cases delimiter with
  | bracket => rfl
  | brace => rfl
  | paren =>
      -- Only an opening parenthesis could start the text of a placeholder.
      have hplaceholder : startsWith placeholderText ('(' :: rest) = false := by
        cases rest with
        | nil => rfl
        | cons c rest =>
            have hslash : c ≠ '/' := fun heq => hrest (by rw [heq, List.head?_cons])
            change startsWith "/*ERROR*/)" (c :: rest) = false
            exact startsWith_eq_false_of_head '/' rfl hslash
      change lexemeAt ('(' :: rest) = _
      rw [lexemeAt, blankLength?_eq_none (by decide) (by decide), docLength?_eq_none (by decide)]
      simp only [hplaceholder]
      rfl

theorem lexemeAt_closing (delimiter : Delimiter) (rest : List Char) :
    lexemeAt (delimiter.closing :: rest) = (.closing delimiter, 1) := by
  cases delimiter <;> rfl

/-- What is read between two delimiters becomes the content of a group. -/
theorem yields_group (delimiter : Delimiter) {text rest : List Char} {forest : Language Tree}
    (hclear : Edge.clear.Allows (text ++ delimiter.closing :: rest))
    (hinner : Yields (text ++ delimiter.closing :: rest) forest (delimiter.closing :: rest)) :
    Yields (delimiter.opening :: (text ++ delimiter.closing :: rest))
      (Forest.group delimiter forest) rest := by
  intro line frames read
  obtain ⟨inner, hforest, closing, hbuild⟩ := hinner
    (line + [delimiter.opening].count '\n') (⟨delimiter, line, read⟩ :: frames) []
  refine ⟨[.group delimiter line closing inner], ⟨line, closing, inner, hforest, rfl⟩,
    closing + [delimiter.closing].count '\n', ?_⟩
  have hopening : build line frames read
        (lexemes (delimiter.opening :: (text ++ delimiter.closing :: rest))) =
      build (line + [delimiter.opening].count '\n') (⟨delimiter, line, read⟩ :: frames) []
        (lexemes (text ++ delimiter.closing :: rest)) := by
    rw [lexemes_eq_cons (lexemeAt_opening delimiter hclear) Nat.one_pos (Nat.le_add_left 1 _),
      build]
    rfl
  have hclosing : build closing (⟨delimiter, line, read⟩ :: frames) (inner.reverse ++ [])
        (lexemes (delimiter.closing :: rest)) =
      build (closing + [delimiter.closing].count '\n') frames
        (.group delimiter line closing inner :: read) (lexemes rest) := by
    rw [lexemes_eq_cons (lexemeAt_closing delimiter rest) Nat.one_pos (Nat.le_add_left 1 _), build]
    simp
  rw [hopening, hbuild, hclosing]
  rfl

/-! ## What single texts are read as -/

namespace Spoken

variable {before middle after : Edge} {texts : Language Char} {forest : Language Tree}
  {text : String} {c d : Char}

theorem of_spelled (hallows : ∀ rest, after.Allows rest → before.Allows (text.toList ++ rest))
    (hyields : ∀ rest, after.Allows rest → Yields (text.toList ++ rest) forest rest) :
    Spoken before (spelled text) after forest := by
  rintro _ rfl rest hrest
  exact ⟨hallows rest hrest, hyields rest hrest⟩

theorem spaces (edge : Edge) : Spoken edge spaces edge 1 := by
  intro blanks hblanks rest hrest
  refine ⟨?_, fun line frames read => ⟨[], Language.nil_mem_one, line,
    build_spaces hblanks line frames read rest⟩⟩
  cases blanks with
  | nil => exact hrest
  | cons c blanks =>
      obtain rfl : c = ' ' := hblanks c List.mem_cons_self
      exact edge.allows_cut rfl _

/-- A blank may stand anywhere, and anything behind it. -/
theorem blank (htext : text.toList = [c]) (hblank : isBlank c = true) (hcut : isCut c = true) :
    Spoken before (spelled text) after 1 := by
  refine of_spelled (fun rest _ => ?_) fun rest _ => ?_
  · rw [htext]
    exact before.allows_cut hcut rest
  · rw [htext]
    exact yields_blank hblank rest

theorem word (hname : lexemeAt text.toList = (.ident, text.toList.length)) :
    Spoken .clear (spelled text) .firm (Forest.word text) := by
  let name : Ident := { text, isLexeme := hname }
  refine of_spelled (fun rest _ => ?_) fun rest hrest => ?_
  · rcases lexemeAt_cases hname with ⟨hkind, _⟩ | ⟨_, _, _, hlength⟩ | ⟨_, hkind⟩
    · cases hkind
    · cases hchars : text.toList with
      | nil => exact absurd name.length_pos (by simp [name, hchars])
      | cons c others =>
          rw [hchars] at hlength
          have hslash : c ≠ '/' :=
            ne_of_isStart (isStart_of_identOrRawLength? hlength) (by decide)
          simpa [Edge.Allows] using hslash
    · exact absurd rfl hkind
  · refine (yields_ident name hrest).mono ?_
    rintro _ ⟨line, rfl⟩
    exact ⟨name, line, rfl, rfl⟩

/-- A mark may stand anywhere. -/
theorem mark (htext : text.toList = [c]) (hmark : c ∈ plainMarks) :
    Spoken before (spelled text) .clear (Forest.mark c) := by
  refine of_spelled (fun rest _ => ?_) fun rest _ => ?_
  · rw [htext]
    exact before.allows_cut (isCut_of_mem_plainMarks hmark) rest
  · rw [htext]
    refine (yields_punct (lexemeAt_mark hmark rest)).mono ?_
    rintro _ ⟨line, rfl⟩
    exact ⟨_, line, rfl⟩

/-- Two marks without a gap; the first of them is joined to the second. -/
theorem marks (htext : text.toList = [c, d]) (hfirst : c ∈ plainMarks) (hsecond : d ∈ plainMarks) :
    Spoken before (spelled text) .clear (Forest.marks c d) := by
  refine of_spelled (fun rest _ => ?_) fun rest _ => ?_
  · rw [htext]
    exact before.allows_cut (isCut_of_mem_plainMarks hfirst) (d :: rest)
  · rw [htext]
    refine ((yields_punct (lexemeAt_mark hfirst (d :: rest))).trans
      (yields_punct (lexemeAt_mark hsecond rest))).mono ?_
    rw [startsMark_of_mem hsecond]
    rintro _ ⟨_, ⟨first, rfl⟩, _, ⟨second, rfl⟩, rfl⟩
    exact ⟨_, first, second, rfl⟩

/-- The sign of an attribute may not stand behind an identifier. -/
theorem hash : Spoken .clear (spelled "#") .clear (Forest.mark '#') := by
  refine of_spelled (fun rest _ => ?_) fun rest _ => ?_
  · simp [Edge.Allows]
  · refine (yields_punct (c := '#') rfl).mono ?_
    rintro _ ⟨line, rfl⟩
    exact ⟨_, line, rfl⟩

/-- A group is one tree, whatever its content is. -/
theorem group (delimiter : Delimiter) {opening closing : String}
    (hopening : opening.toList = [delimiter.opening])
    (hclosing : closing.toList = [delimiter.closing])
    (hcontent : Spoken .clear texts middle forest) :
    Spoken before (spelled opening * texts * spelled closing) .clear
      (Forest.group delimiter forest) := by
  rintro _ ⟨_, ⟨_, rfl, content, htext, rfl⟩, _, rfl, rfl⟩ rest -
  obtain ⟨hclear, hinner⟩ := hcontent content htext (delimiter.closing :: rest)
    (middle.allows_cut (isCut_closing delimiter) rest)
  simp only [hopening, hclosing, List.append_assoc, List.singleton_append]
  exact ⟨before.allows_cut (isCut_opening delimiter) _, yields_group delimiter hclear hinner⟩

end Spoken

end EventDispatch.Source
