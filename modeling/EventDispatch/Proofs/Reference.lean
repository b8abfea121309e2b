import Mathlib.Data.List.Forall2
import EventDispatch.Proofs.Lexeme
import EventDispatch.Proofs.Result
import EventDispatch.Source.Reference

/-!
# Texts that are paths

A text is a path without arguments when its lexemes, blanks aside, are names with
double colons between them, and perhaps one in front (`ofText_eq_ok_iff`).  From this
it follows that such a path goes on being one with a double colon and a name behind it
(`ofText_append`), whatever blanks and comments it is written with.

Of paths with arguments only the names are described (`isCode_of_ofText`).
-/

namespace EventDispatch.Source

/-! ## Lexemes without groups -/

/-- The lexemes are blanks and the given leaves. -/
inductive Spells : List Lexeme → List Leaf → Prop
  | nil : Spells [] []
  | blank {lexeme : Lexeme} {rest : List Lexeme} {leaves : List Leaf}
      (hkind : lexeme.kind = .blank) (hrest : Spells rest leaves) : Spells (lexeme :: rest) leaves
  | leaf {lexeme : Lexeme} {rest : List Lexeme} {token : Leaf} {leaves : List Leaf}
      (htoken : Tree.leafOf? lexeme = some token) (hrest : Spells rest leaves) :
      Spells (lexeme :: rest) (token :: leaves)

namespace Tree

/-- The tree is the leaf, on some line. -/
def Is (token : Leaf) (tree : Tree) : Prop :=
  ∃ line, tree = .leaf token line

/-- The tree has trees inside. -/
def IsGroup (tree : Tree) : Prop :=
  ∃ delimiter opening closing inner, tree = .group delimiter opening closing inner

theorem build_leaf {lexeme : Lexeme} {token : Leaf} (htoken : leafOf? lexeme = some token)
    (line : Nat) (frames : List Frame) (read : List Tree) (rest : List Lexeme) :
    build line frames read (lexeme :: rest) =
      build (line + lexeme.text.count '\n') frames (.leaf token line :: read) rest := by
  rw [build]
  split
  · rename_i hkind
    simp [leafOf?, hkind] at htoken
  · rename_i hkind
    simp [leafOf?, hkind] at htoken
  · rename_i hkind
    simp [leafOf?, hkind] at htoken
  · rename_i hkind
    simp [leafOf?, hkind] at htoken
  · rw [htoken]

theorem build_of_spells {lexemes : List Lexeme} {leaves : List Leaf}
    (hspells : Spells lexemes leaves) :
    ∀ line read, ∃ trees, build line [] read lexemes = .ok (read.reverse ++ trees) ∧
      List.Forall₂ Is leaves trees := by
  induction hspells with
  | nil =>
      intro line read
      exact ⟨[], by rw [build, List.append_nil], .nil⟩
  | @blank lexeme rest leaves hkind _ ih =>
      intro line read
      obtain ⟨trees, hbuild, htrees⟩ := ih (line + lexeme.text.count '\n') read
      exact ⟨trees, by rw [build, hkind, hbuild], htrees⟩
  | @leaf lexeme rest token leaves htoken _ ih =>
      intro line read
      obtain ⟨trees, hbuild, htrees⟩ :=
        ih (line + lexeme.text.count '\n') (.leaf token line :: read)
      refine ⟨.leaf token line :: trees, ?_, .cons ⟨line, rfl⟩ htrees⟩
      rw [build_leaf htoken, hbuild, List.reverse_cons, List.append_assoc, List.singleton_append]

theorem exists_isGroup_ofDoc (inner : Bool) (line : Nat) :
    ∃ tree ∈ ofDoc inner line, tree.IsGroup := by
  refine ⟨_, List.mem_append_right _ (List.mem_singleton_self _), ?_⟩
  exact ⟨_, _, _, _, rfl⟩

/-- A group that is open or has been read is found among the trees. -/
theorem exists_isGroup_of_build (line : Nat) (frames : List Frame) (read : List Tree)
    (lexemes : List Lexeme) {trees : List Tree}
    (hbuild : build line frames read lexemes = .ok trees)
    (hgroup : frames ≠ [] ∨ ∃ tree ∈ read, tree.IsGroup) : ∃ tree ∈ trees, tree.IsGroup := by
  fun_induction build line frames read lexemes with
  | case1 line read =>
      cases hbuild
      obtain ⟨tree, htree, hgroup⟩ := hgroup.resolve_left fun hframes => hframes rfl
      exact ⟨tree, List.mem_reverse.mpr htree, hgroup⟩
  | case2 => cases hbuild
  | case3 line frames read lexeme rest next hkind ih => exact ih hbuild hgroup
  | case4 line frames read lexeme rest next inner hkind ih =>
      obtain ⟨tree, htree, hdoc⟩ := exists_isGroup_ofDoc inner line
      exact ih hbuild
        (.inr ⟨tree, List.mem_append_left _ (List.mem_reverse.mpr htree), hdoc⟩)
  | case5 line frames read lexeme rest next delimiter hkind ih =>
      exact ih hbuild (.inl (List.cons_ne_nil _ _))
  | case6 => cases hbuild
  | case7 line read lexeme rest next frame outer hkind ih =>
      exact ih hbuild (.inr ⟨_, List.mem_cons_self, _, _, _, _, rfl⟩)
  | case8 => cases hbuild
  | case9 line frames read lexeme rest next token htoken _ _ _ _ ih =>
      refine ih hbuild (hgroup.imp_right ?_)
      rintro ⟨tree, htree, hinner⟩
      exact ⟨tree, List.mem_cons_of_mem _ htree, hinner⟩
  | case10 => cases hbuild

/-- Trees without groups come from lexemes that are blanks and leaves. -/
theorem spells_of_build (line : Nat) (frames : List Frame) (read : List Tree)
    (lexemes : List Lexeme) {trees : List Tree} (hframes : frames = [])
    (hbuild : build line frames read lexemes = .ok trees)
    (hplain : ∀ tree ∈ trees, ¬ tree.IsGroup) :
    ∃ leaves later, trees = read.reverse ++ later ∧ Spells lexemes leaves ∧
      List.Forall₂ Is leaves later := by
  -- A documentation comment or an opening delimiter ends in a group among the trees.
  have hnone {frames : List Frame} {read : List Tree} {line : Nat} {rest : List Lexeme}
      (hbuild : build line frames read rest = .ok trees)
      (hgroup : frames ≠ [] ∨ ∃ tree ∈ read, tree.IsGroup) : False := by
    obtain ⟨tree, htree, hinner⟩ := exists_isGroup_of_build line frames read rest hbuild hgroup
    exact hplain tree htree hinner
  fun_induction build line frames read lexemes with
  | case1 line read =>
      cases hbuild
      exact ⟨[], [], (List.append_nil _).symm, .nil, .nil⟩
  | case2 => cases hbuild
  | case3 line frames read lexeme rest next hkind ih =>
      obtain ⟨leaves, later, htrees, hspells, hleaves⟩ := ih hframes hbuild
      exact ⟨leaves, later, htrees, .blank hkind hspells, hleaves⟩
  | case4 line frames read lexeme rest next inner hkind ih =>
      obtain ⟨tree, htree, hdoc⟩ := exists_isGroup_ofDoc inner line
      exact (hnone hbuild
        (.inr ⟨tree, List.mem_append_left _ (List.mem_reverse.mpr htree), hdoc⟩)).elim
  | case5 line frames read lexeme rest next delimiter hkind ih =>
      exact (hnone hbuild (.inl (List.cons_ne_nil _ _))).elim
  | case6 => cases hbuild
  | case7 => cases hframes
  | case8 => cases hbuild
  | case9 line frames read lexeme rest next token htoken _ _ _ _ ih =>
      obtain ⟨leaves, later, htrees, hspells, hleaves⟩ := ih hframes hbuild
      refine ⟨token :: leaves, .leaf token line :: later, ?_, .leaf htoken hspells,
        .cons ⟨line, rfl⟩ hleaves⟩
      rw [htrees, List.reverse_cons, List.append_assoc, List.singleton_append]
  | case10 => cases hbuild

end Tree

/-! ## Segments -/

/-- The name may be a segment of a path. -/
def Ident.IsSegment (name : Ident) : Prop :=
  name.text ∈ Reference.segmentWords ∨ name.text ∉ Peek.reserved

/-- The segment is called by an identifier that may be one, and has angles only behind one that
may have arguments. -/
def Segment.IsCode (segment : Segment) : Prop :=
  ∃ name : Ident, name.text = segment.name ∧ name.IsSegment ∧
    (segment.angles ≠ none → name.text ∉ Reference.moduleWords)

/-- The leaves are names with double colons between them. -/
inductive Segments : List Leaf → List String → Prop
  | last {name : Ident} (hname : name.IsSegment) : Segments [.ident name] [name.text]
  | more {name : Ident} {joint : Bool} {leaves : List Leaf} {segments : List String}
      (hname : name.IsSegment) (hmore : Segments leaves segments) :
      Segments (.ident name :: .punct ':' true :: .punct ':' joint :: leaves)
        (name.text :: segments)

/-- The path with these names and no arguments. -/
def Names.path (names : Names) : Reference where
  rooted := names.rooted
  segments := names.segments.map fun name => { name }

theorem Reference.eq_path_of_isPlain {reference : Reference}
    (hplain : reference.isPlain = true) : reference = reference.names.path := by
  obtain ⟨rooted, segments⟩ := reference
  suffices hsegments : segments = (segments.map Segment.name).map fun name => { name } by
    simpa [Names.path, Reference.names] using hsegments
  have hsame : segments.map ((fun name => { name }) ∘ Segment.name) = segments.map id := by
    refine List.map_congr_left fun segment hsegment => ?_
    have hnone := List.all_eq_true.mp hplain segment hsegment
    rw [Option.isNone_iff_eq_none] at hnone
    simp [← hnone]
  rw [List.map_map, hsame, List.map_id]

/-- The leaves are a path without arguments. -/
inductive IsPath : List Leaf → Names → Prop
  | free {leaves : List Leaf} {segments : List String} (hsegments : Segments leaves segments) :
      IsPath leaves { rooted := false, segments }
  | rooted {joint : Bool} {leaves : List Leaf} {segments : List String}
      (hsegments : Segments leaves segments) :
      IsPath (.punct ':' true :: .punct ':' joint :: leaves) { rooted := true, segments }

namespace Reference

open EventDispatch.Source.Tree (Is)

theorem nameAhead_eq_ok {words : List String} {name : Ident} {line : Nat} (rest : List Tree)
    (hname : name.text ∈ words ∨ name.text ∉ Peek.reserved) :
    nameAhead words (.leaf (.ident name) line :: rest) = .ok (name.text, rest) := by
  have htest : (words.contains name.text || !Peek.reserved.contains name.text) = true := by
    simpa using hname
  rw [nameAhead, if_pos htest]

theorem exists_of_nameAhead {words : List String} {trees rest : List Tree} {found : String}
    (hahead : nameAhead words trees = .ok (found, rest)) :
    ∃ name line, trees = .leaf (.ident name) line :: rest ∧ found = name.text ∧
      (name.text ∈ words ∨ name.text ∉ Peek.reserved) := by
  unfold nameAhead at hahead
  split at hahead
  · cases hahead
  · rename_i name line others
    split at hahead
    · rename_i htest
      cases hahead
      exact ⟨name, line, rfl, rfl, by simpa using htest⟩
    · cases hahead
  · cases hahead

theorem group_eq_false {leaves : List Leaf} {trees : List Tree}
    (htrees : List.Forall₂ Is leaves trees) (delimiter : Delimiter) :
    Peek.group delimiter trees = false := by
  cases htrees with
  | nil => rfl
  | cons hfirst _ =>
      obtain ⟨line, rfl⟩ := hfirst
      rfl

theorem exists_of_forall₂_cons {token : Leaf} {leaves : List Leaf} {trees : List Tree}
    (htrees : List.Forall₂ Is (token :: leaves) trees) :
    ∃ line rest, trees = .leaf token line :: rest ∧ List.Forall₂ Is leaves rest := by
  cases htrees with
  | cons hfirst hrest =>
      obtain ⟨line, rfl⟩ := hfirst
      exact ⟨line, _, rfl, hrest⟩

theorem exists_of_marks_singleton {mark : Char} {trees : List Tree}
    (hmark : Peek.marks [mark] trees = true) :
    ∃ joint line rest, trees = .leaf (.punct mark joint) line :: rest := by
  unfold Peek.marks at hmark
  split at hmark
  · rename_i heq
    cases heq
  · rename_i heq
    cases heq
    rw [beq_iff_eq.mp hmark]
    exact ⟨_, _, _, rfl⟩
  · rename_i hmore heq
    cases heq
    exact absurd rfl hmore
  · cases hmark

/-- A double colon is two colons, the first of them joined to the second. -/
theorem exists_of_op_colons {trees : List Tree} (hcolons : Peek.op "::" trees = true) :
    ∃ joint first second rest, trees =
      .leaf (.punct ':' true) first :: .leaf (.punct ':' joint) second :: rest := by
  change Peek.marks [':', ':'] trees = true at hcolons
  unfold Peek.marks at hcolons
  split at hcolons
  · rename_i heq
    cases heq
  · rename_i heq
    cases heq
  · rename_i c joint line behind _ heq
    cases heq
    simp only [Bool.and_eq_true, beq_iff_eq] at hcolons
    obtain ⟨⟨rfl, rfl⟩, hsecond⟩ := hcolons
    obtain ⟨joint, second, rest, rfl⟩ := exists_of_marks_singleton hsecond
    exact ⟨joint, line, second, rest, rfl⟩
  · cases hcolons

/-- What is read as a segment is a name, alone or with angles behind it, which do not stand
behind the words for modules and blocks. -/
theorem cases_of_segmentAhead {rules : Rules} {trees rest : List Tree} {segment : Segment}
    (hahead : segmentAhead rules trees = .ok (segment, rest)) :
    ∃ name line behind, trees = .leaf (.ident name) line :: behind ∧ segment.name = name.text ∧
      name.IsSegment ∧ (segment.angles = none ∧ rest = behind ∨
        segment.angles ≠ none ∧ name.text ∉ moduleWords) := by
  obtain ⟨⟨found, behind⟩, hname, hahead⟩ := bind_eq_ok_iff.mp hahead
  obtain ⟨name, line, rfl, rfl, hsegment⟩ := exists_of_nameAhead hname
  refine ⟨name, line, behind, rfl, ?_⟩
  simp only at hahead
  split at hahead
  · rename_i hangles
    obtain ⟨⟨angles, after⟩, _, hahead⟩ := bind_eq_ok_iff.mp hahead
    cases hahead
    exact ⟨rfl, hsegment, .inr ⟨nofun, by simpa using (Bool.and_eq_true_iff.mp hangles).1⟩⟩
  · cases hahead
    exact ⟨rfl, hsegment, .inl ⟨rfl, rfl⟩⟩

/-- A name without angles behind it is a segment. -/
theorem segmentAhead_of_name (rules : Rules) {name : Ident} (hname : name.IsSegment) (line : Nat)
    {rest : List Tree} (hangles : Peek.argumentsFollow false rest = false) :
    segmentAhead rules (.leaf (.ident name) line :: rest) = .ok ({ name := name.text }, rest) := by
  rw [segmentAhead, nameAhead_eq_ok _ hname]
  change (if _ then _ else _) = _
  rw [if_neg (by simp [hangles])]
  rfl

/-- Segments are read up to their end. -/
theorem segmentsAhead_of_segments (rules : Rules) {leaves : List Leaf} {names : List String}
    (hsegments : Segments leaves names) :
    ∀ {trees bound}, List.Forall₂ Is leaves trees → leaves.length ≤ bound →
      segmentsAhead rules bound trees = .ok (names.map fun name => { name }, []) := by
  induction hsegments with
  | @last name hname =>
      intro trees bound htrees hbound
      obtain ⟨line, rest, rfl, hrest⟩ := exists_of_forall₂_cons htrees
      cases hrest
      obtain ⟨bound, rfl⟩ := Nat.exists_eq_add_of_le' hbound
      rw [List.length_singleton, segmentsAhead, segmentAhead_of_name rules hname line rfl]
      rfl
  | @more name joint leaves names hname hmore ih =>
      intro trees bound htrees hbound
      obtain ⟨line, behind, rfl, hbehind⟩ := exists_of_forall₂_cons htrees
      obtain ⟨first, marks, rfl, hmarks⟩ := exists_of_forall₂_cons hbehind
      obtain ⟨second, rest, rfl, hrest⟩ := exists_of_forall₂_cons hmarks
      simp only [List.length_cons] at hbound
      -- A segment and its colons are three leaves, and use up one of the bound.
      obtain ⟨bound, rfl⟩ : ∃ before, bound = before + 1 := ⟨bound - 1, by omega⟩
      have hothers := ih hrest (show leaves.length ≤ bound by omega)
      have hfollows : Peek.segmentFollows (.leaf (.punct ':' true) first ::
          .leaf (.punct ':' joint) second :: rest) = true := by
        have hgroup := group_eq_false hrest .paren
        change (true && !(decide (rest.length + 1 + 1 ≥ 2) && Peek.group .paren rest)) = true
        simp [hgroup]
      have hangles : Peek.argumentsFollow false (.leaf (.punct ':' true) first ::
          .leaf (.punct ':' joint) second :: rest) = false := by
        -- Behind the colons stands the name of the next segment.
        cases hmore with
        | last =>
            obtain ⟨third, others, rfl, _⟩ := exists_of_forall₂_cons hrest
            rfl
        | more =>
            obtain ⟨third, others, rfl, _⟩ := exists_of_forall₂_cons hrest
            rfl
      rw [segmentsAhead, segmentAhead_of_name rules hname line hangles]
      change (if _ then _ else _) = _
      rw [if_pos hfollows]
      change (segmentsAhead rules bound rest >>= _) = _
      rw [hothers]
      rfl

/-- What is read up to the end is segments, if no name has arguments. -/
theorem segments_of_segmentsAhead {rules : Rules} : ∀ {bound trees segments},
    segmentsAhead rules bound trees = .ok (segments, []) →
      (segments.all fun segment => segment.angles.isNone) = true →
      ∃ leaves, List.Forall₂ Is leaves trees ∧ Segments leaves (segments.map Segment.name) := by
  intro bound
  induction bound with
  | zero =>
      intro trees segments hahead
      cases hahead
  | succ bound ih =>
      intro trees segments hahead hplain
      obtain ⟨⟨segment, rest⟩, hfirst, hrest⟩ := bind_eq_ok_iff.mp hahead
      clear hahead
      obtain ⟨name, line, behind, rfl, hname, hsegment, hangles⟩ := cases_of_segmentAhead hfirst
      simp only at hrest
      split at hrest
      · rename_i hfollows
        obtain ⟨hcolons, _⟩ := Bool.and_eq_true_iff.mp hfollows
        obtain ⟨joint, first, second, others, rfl⟩ := exists_of_op_colons hcolons
        obtain ⟨⟨more, left⟩, hmore, hrest⟩ := bind_eq_ok_iff.mp hrest
        cases hrest
        obtain ⟨hnone, hplain⟩ := Bool.and_eq_true_iff.mp hplain
        obtain ⟨leaves, htrees, hsegments⟩ := ih hmore hplain
        obtain ⟨_, rfl⟩ := hangles.resolve_right fun hsome =>
          hsome.1 (Option.isNone_iff_eq_none.mp hnone)
        refine ⟨.ident name :: .punct ':' true :: .punct ':' joint :: leaves,
          .cons ⟨line, rfl⟩ (.cons ⟨first, rfl⟩ (.cons ⟨second, rfl⟩ htrees)), ?_⟩
        rw [List.map_cons, hname]
        exact .more hsegment hsegments
      · cases hrest
        obtain ⟨hnone, _⟩ := Bool.and_eq_true_iff.mp hplain
        obtain ⟨_, rfl⟩ := hangles.resolve_right fun hsome =>
          hsome.1 (Option.isNone_iff_eq_none.mp hnone)
        refine ⟨[.ident name], .cons ⟨line, rfl⟩ .nil, ?_⟩
        rw [List.map_cons, hname]
        exact .last hsegment

/-! ## Names in paths -/

theorem isCode_of_segmentsAhead {rules : Rules} : ∀ {bound trees segments rest},
    segmentsAhead rules bound trees = .ok (segments, rest) →
      segments ≠ [] ∧ ∀ segment ∈ segments, segment.IsCode := by
  intro bound
  induction bound with
  | zero =>
      intro trees segments rest hahead
      cases hahead
  | succ bound ih =>
      intro trees segments rest hahead
      obtain ⟨⟨segment, behind⟩, hsegment, hahead⟩ := bind_eq_ok_iff.mp hahead
      obtain ⟨name, _, _, _, hname, hsegment, hangles⟩ := cases_of_segmentAhead hsegment
      have hcode : segment.IsCode := by
        refine ⟨name, hname.symm, hsegment, fun hsome => ?_⟩
        exact (hangles.resolve_left fun hnone => hsome hnone.1).2
      simp only at hahead
      split at hahead
      · obtain ⟨⟨more, left⟩, hmore, hahead⟩ := bind_eq_ok_iff.mp hahead
        cases hahead
        exact ⟨List.cons_ne_nil _ _, List.forall_mem_cons.mpr ⟨hcode, (ih hmore).2⟩⟩
      · cases hahead
        exact ⟨List.cons_ne_nil _ _, List.forall_mem_singleton.mpr hcode⟩

/-- The names of a path may stand in code. -/
theorem isCode_of_ofText {text : String} {reference : Reference}
    (hread : ofText text = .ok reference) :
    reference.segments ≠ [] ∧ ∀ segment ∈ reference.segments, segment.IsCode := by
  obtain ⟨found, _, hread⟩ := bind_eq_ok_iff.mp hread
  obtain ⟨⟨segments, rest⟩, hahead, hread⟩ := bind_eq_ok_iff.mp hread
  simp only at hread
  split at hread
  · cases hread
    exact isCode_of_segmentsAhead hahead
  · cases hread

/-! ## Texts -/

theorem trees_of_spells {text : String} {leaves : List Leaf}
    (hspells : Spells (lexemes (Item.dropMark text.toList)) leaves) :
    ∃ found, trees text = .ok found ∧ List.Forall₂ Is leaves found := by
  obtain ⟨found, hbuild, hfound⟩ := Tree.build_of_spells hspells 1 []
  exact ⟨found, by simp [trees, Tree.ofText, hbuild], hfound⟩

theorem spells_of_trees {text : String} {found : List Tree} (htrees : trees text = .ok found)
    (hplain : ∀ tree ∈ found, ¬ tree.IsGroup) :
    ∃ leaves, Spells (lexemes (Item.dropMark text.toList)) leaves ∧
      List.Forall₂ Is leaves found := by
  unfold trees at htrees
  split at htrees
  · rename_i built hbuild
    cases htrees
    obtain ⟨leaves, later, hfound, hspells, hleaves⟩ :=
      Tree.spells_of_build 1 [] [] _ rfl hbuild hplain
    exact ⟨leaves, hspells, hfound ▸ hleaves⟩
  · cases htrees

theorem not_isGroup_of_forall₂ {leaves : List Leaf} {found : List Tree}
    (hfound : List.Forall₂ Is leaves found) : ∀ tree ∈ found, ¬ tree.IsGroup := by
  intro tree htree hgroup
  obtain ⟨token, _, line, rfl⟩ := exists_rel_of_mem hfound htree
  obtain ⟨_, _, _, _, heq⟩ := hgroup
  cases heq

theorem leaves_unique {leaves others : List Leaf} {found : List Tree}
    (hleaves : List.Forall₂ Is leaves found) (hothers : List.Forall₂ Is others found) :
    leaves = others := by
  induction hleaves generalizing others with
  | nil =>
      cases hothers
      rfl
  | cons hfirst _ ih =>
      cases hothers with
      | cons hother hrest =>
          obtain ⟨line, rfl⟩ := hfirst
          obtain ⟨_, heq⟩ := hother
          cases heq
          rw [ih hrest]

theorem exists_isPath_of_segmentsAhead {rules : Rules} {found : List Tree} {bound : Nat}
    {segments : List Segment}
    (hahead : segmentsAhead rules bound (if Peek.op "::" found then found.drop 2 else found) =
      .ok (segments, []))
    (hplain : (segments.all fun segment => segment.angles.isNone) = true) :
    ∃ leaves, List.Forall₂ Is leaves found ∧
      IsPath leaves { rooted := Peek.op "::" found, segments := segments.map Segment.name } := by
  cases hrooted : Peek.op "::" found with
  | false =>
      rw [if_neg (by simp [hrooted])] at hahead
      obtain ⟨leaves, hleaves, hsegments⟩ := segments_of_segmentsAhead hahead hplain
      exact ⟨leaves, hleaves, .free hsegments⟩
  | true =>
      rw [if_pos hrooted] at hahead
      obtain ⟨joint, first, second, rest, rfl⟩ := exists_of_op_colons hrooted
      obtain ⟨leaves, hleaves, hsegments⟩ := segments_of_segmentsAhead hahead hplain
      exact ⟨.punct ':' true :: .punct ':' joint :: leaves,
        .cons ⟨first, rfl⟩ (.cons ⟨second, rfl⟩ hleaves), .rooted hsegments⟩

theorem segmentsAhead_of_isPath (rules : Rules) {leaves : List Leaf} {names : Names}
    {found : List Tree} (hpath : IsPath leaves names) (hfound : List.Forall₂ Is leaves found) :
    Peek.op "::" found = names.rooted ∧
      segmentsAhead rules (found.length + 1)
          (if Peek.op "::" found then found.drop 2 else found) =
        .ok (names.path.segments, []) := by
  have hlength := hfound.length_eq
  cases hpath with
  | free hsegments =>
      -- A path that is not rooted has a name in front.
      have hrooted : Peek.op "::" found = false := by
        cases hsegments with
        | last =>
            obtain ⟨line, rest, rfl, _⟩ := exists_of_forall₂_cons hfound
            rfl
        | more =>
            obtain ⟨line, rest, rfl, _⟩ := exists_of_forall₂_cons hfound
            rfl
      rw [if_neg (by simp [hrooted])]
      exact ⟨hrooted, segmentsAhead_of_segments rules hsegments hfound (by omega)⟩
  | rooted hsegments =>
      obtain ⟨first, marks, rfl, hmarks⟩ := exists_of_forall₂_cons hfound
      obtain ⟨second, rest, rfl, hrest⟩ := exists_of_forall₂_cons hmarks
      simp only [List.length_cons] at hlength
      exact ⟨rfl, segmentsAhead_of_segments rules hsegments hrest
        (by simp only [List.length_cons]; omega)⟩

/-- A text is a path without arguments when its lexemes are one, blanks aside. -/
theorem ofText_eq_ok_iff {text : String} {names : Names} :
    ofText text = .ok names.path ↔
      ∃ leaves, Spells (lexemes (Item.dropMark text.toList)) leaves ∧ IsPath leaves names := by
  constructor
  · intro hread
    obtain ⟨found, htrees, hread⟩ := bind_eq_ok_iff.mp hread
    obtain ⟨⟨segments, rest⟩, hahead, hread⟩ := bind_eq_ok_iff.mp hread
    cases rest with
    | nil =>
        -- The leaves of the path and those of the lexemes are the same, being one text's.
        obtain ⟨hrooted, hsegments⟩ : Peek.op "::" found = names.rooted ∧
            segments = names.segments.map fun name => { name } := by
          simpa [pure, Except.pure, Names.path] using hread
        subst hsegments
        obtain ⟨leaves, hleaves, hpath⟩ := exists_isPath_of_segmentsAhead hahead (by simp)
        obtain ⟨others, hspells, hothers⟩ :=
          spells_of_trees htrees (not_isGroup_of_forall₂ hleaves)
        rw [leaves_unique hothers hleaves] at hspells
        refine ⟨leaves, hspells, ?_⟩
        simpa [hrooted, Function.comp_def] using hpath
    | cons tree rest => cases hread
  · rintro ⟨leaves, hspells, hpath⟩
    obtain ⟨found, htrees, hfound⟩ := trees_of_spells hspells
    obtain ⟨hrooted, hahead⟩ := segmentsAhead_of_isPath _ hpath hfound
    refine bind_eq_ok_iff.mpr ⟨found, htrees, bind_eq_ok_iff.mpr ⟨_, hahead, ?_⟩⟩
    rw [hrooted]
    rfl

/-- A text that is one identifier, and none that the language keeps, is a name. -/
theorem identOfText_eq_ok {name : Ident} {text : String}
    (hspells : Spells (lexemes (Item.dropMark text.toList)) [.ident name])
    (hname : name.text ∉ Peek.reserved) : identOfText text = .ok name.text := by
  obtain ⟨found, htrees, hfound⟩ := trees_of_spells hspells
  obtain ⟨line, rest, rfl, hrest⟩ := exists_of_forall₂_cons hfound
  cases hrest
  exact bind_eq_ok_iff.mpr ⟨_, htrees, bind_eq_ok_iff.mpr ⟨_, nameAhead_eq_ok [] (.inr hname), rfl⟩⟩

end Reference

/-! ## Longer paths -/

/-- The leaf may stand in a path. -/
def Leaf.InPath (token : Leaf) : Prop :=
  (∃ name, token = .ident name) ∨ ∃ joint, token = .punct ':' joint

theorem Segments.inPath {leaves : List Leaf} {segments : List String}
    (hsegments : Segments leaves segments) : ∀ token ∈ leaves, token.InPath := by
  induction hsegments with
  | last =>
      intro token htoken
      rw [List.mem_singleton] at htoken
      exact .inl ⟨_, htoken⟩
  | more _ _ ih =>
      intro token htoken
      simp only [List.mem_cons] at htoken
      rcases htoken with rfl | rfl | rfl | htoken
      · exact .inl ⟨_, rfl⟩
      · exact .inr ⟨_, rfl⟩
      · exact .inr ⟨_, rfl⟩
      · exact ih token htoken

theorem Segments.getLast?_eq {leaves : List Leaf} {segments : List String}
    (hsegments : Segments leaves segments) : ∃ name, leaves.getLast? = some (.ident name) := by
  induction hsegments with
  | @last name _ => exact ⟨name, rfl⟩
  | more _ _ ih =>
      obtain ⟨name, hname⟩ := ih
      exact ⟨name, by simp [List.getLast?_cons, hname]⟩

/-- The lexemes are the leaves, or the leaves with a double colon and the name behind them. -/
def GoesOn (name : Ident) (lexemes : List Lexeme) (leaves : List Leaf) : Prop :=
  Spells lexemes leaves ∨
    ∃ joint, Spells lexemes (leaves ++ [.punct ':' true, .punct ':' joint, .ident name])

theorem GoesOn.blank {name : Ident} {lexeme : Lexeme} {rest : List Lexeme} {leaves : List Leaf}
    (hkind : lexeme.kind = .blank) (hrest : GoesOn name rest leaves) :
    GoesOn name (lexeme :: rest) leaves := by
  rcases hrest with hspells | ⟨joint, hspells⟩
  · exact .inl (.blank hkind hspells)
  · exact .inr ⟨joint, .blank hkind hspells⟩

theorem GoesOn.leaf {name : Ident} {lexeme : Lexeme} {token : Leaf} {rest : List Lexeme}
    {leaves : List Leaf} (htoken : Tree.leafOf? lexeme = some token)
    (hrest : GoesOn name rest leaves) : GoesOn name (lexeme :: rest) (token :: leaves) := by
  rcases hrest with hspells | ⟨joint, hspells⟩
  · exact .inl (.leaf htoken hspells)
  · exact .inr ⟨joint, .leaf htoken hspells⟩

theorem spells_ident (name : Ident) : Spells (lexemes name.text.toList) [.ident name] := by
  rw [name.lexemes_eq]
  refine .leaf ?_ .nil
  simp [Tree.leafOf?, name.ofChars?_eq_some]

theorem spells_mark {text : List Char} {leaves : List Leaf}
    (hspells : Spells (lexemes text) leaves) :
    Spells (lexemes (':' :: text)) (.punct ':' (startsMark text) :: leaves) := by
  rw [lexemes_eq_cons (lexemeAt_colon text) (Nat.one_pos) (Nat.le_add_left 1 text.length)]
  exact .leaf rfl hspells

theorem kind_of_leafOf?_ident {lexeme : Lexeme} {name : Ident}
    (htoken : Tree.leafOf? lexeme = some (.ident name)) : lexeme.kind = .ident := by
  obtain ⟨kind, text⟩ := lexeme
  cases kind <;> simp [Tree.leafOf?] at htoken ⊢

theorem head?_of_leafOf?_punct {lexeme : Lexeme} {mark : Char} {joint : Bool}
    (htoken : Tree.leafOf? lexeme = some (.punct mark joint)) :
    lexeme.kind = .punct joint ∧ lexeme.text.head? = some mark := by
  obtain ⟨kind, text⟩ := lexeme
  cases kind <;> simp [Tree.leafOf?] at htoken ⊢
  exact ⟨htoken.2, htoken.1⟩

section Front

variable {name : Ident} {text : List Char} {leaves : List Leaf} {length : Nat}

theorem goesOn_blank (hblank : blankLength? text = some length)
    (hspells : Spells (lexemes (text.drop length)) leaves)
    (hrest : GoesOn name (lexemes (text.drop length ++ ':' :: ':' :: name.text.toList)) leaves) :
    GoesOn name (lexemes (text ++ ':' :: ':' :: name.text.toList)) leaves := by
  obtain ⟨hpos, hbound, hends | ⟨hwhole, hswallows⟩⟩ :=
    blankLength?_append_colon (':' :: name.text.toList) hblank
  · rw [lexemes_eq_cons (lexemeAt_of_blank hends) hpos (by rw [List.length_append]; omega),
      List.drop_append_of_le_length hbound]
    exact .blank rfl hrest
  · -- The comment goes on to the end of the line, which is the end of the text.
    have hline : '\n' ∉ ':' :: ':' :: name.text.toList := by
      simpa using name.newline_notMem
    rw [lineLength_eq_length hline, ← List.length_append] at hswallows
    rw [hwhole, List.drop_length, lexemes_nil] at hspells
    cases hspells
    rw [lexemes_eq_cons (lexemeAt_of_blank hswallows) (by rw [List.length_append]; omega)
      (Nat.le_refl _), List.drop_length, lexemes_nil]
    exact .inl (.blank rfl .nil)

theorem goesOn_ident {token : Leaf} (hident : lexemeAt text = (.ident, length))
    (htoken : Tree.leafOf? { kind := .ident, text := text.take length } = some token)
    (hrest : GoesOn name (lexemes (text.drop length ++ ':' :: ':' :: name.text.toList)) leaves) :
    GoesOn name (lexemes (text ++ ':' :: ':' :: name.text.toList)) (token :: leaves) := by
  obtain ⟨hpos, hbound, happend⟩ :=
    lexemeAt_ident_append ':' rfl (':' :: name.text.toList) hident
  rw [lexemes_eq_cons happend hpos (by rw [List.length_append]; omega),
    List.drop_append_of_le_length hbound, List.take_append_of_le_length hbound]
  exact .leaf htoken hrest

theorem goesOn_colon (htext : text ≠ [])
    (hrest : GoesOn name (lexemes (text ++ ':' :: ':' :: name.text.toList)) leaves) :
    GoesOn name (lexemes (':' :: text ++ ':' :: ':' :: name.text.toList))
      (.punct ':' (startsMark text) :: leaves) := by
  rw [List.cons_append, lexemes_eq_cons (lexemeAt_colon _) Nat.one_pos (Nat.le_add_left 1 _),
    startsMark_append_colon htext]
  exact .leaf rfl hrest

end Front

/-- A double colon and a name behind a text are read as such, unless the text ends in a
line comment, which swallows them. -/
theorem goesOn_append (name : Ident) (text : List Char) {leaves : List Leaf}
    (hspells : Spells (lexemes text) leaves) (hpath : ∀ token ∈ leaves, token.InPath)
    (hlast : ∀ joint, leaves.getLast? ≠ some (.punct ':' joint)) :
    GoesOn name (lexemes (text ++ ':' :: ':' :: name.text.toList)) leaves := by
  -- On the length of the text; what the first lexeme is says which step applies.
  induction hsize : text.length using Nat.strongRecOn generalizing text leaves with
  | ind size ih =>
  subst hsize
  cases text with
  | nil =>
      rw [lexemes_nil] at hspells
      cases hspells
      exact .inr ⟨_, spells_mark (spells_mark (spells_ident name))⟩
  | cons c rest =>
      cases hlexeme : lexemeAt (c :: rest) with
      | mk kind length =>
      rw [lexemes_cons c rest hlexeme] at hspells
      have hsmaller : (rest.drop (length - 1)).length < (c :: rest).length := by
        rw [List.length_drop, List.length_cons]
        omega
      cases hspells with
      | blank hkind hrest =>
          obtain rfl : kind = .blank := hkind
          rcases lexemeAt_cases hlexeme with ⟨_, hblank⟩ | ⟨hkind, _⟩ | ⟨hkind, _⟩
          · obtain ⟨hpos, hbound, _⟩ := blankLength?_append_colon [] hblank
            obtain ⟨before, rfl⟩ : ∃ before, length = before + 1 := ⟨length - 1, by omega⟩
            exact goesOn_blank hblank hrest (ih _ hsmaller _ hrest hpath hlast rfl)
          · cases hkind
          · exact absurd rfl hkind
      | @leaf _ _ token leaves htoken hrest =>
          have hothers : ∀ other ∈ leaves, other.InPath := fun other hother =>
            hpath other (List.mem_cons_of_mem token hother)
          have hend : ∀ joint, leaves.getLast? ≠ some (.punct ':' joint) := by
            intro joint hjoint
            exact hlast joint (by simp [List.getLast?_cons, hjoint])
          rcases hpath token List.mem_cons_self with ⟨found, rfl⟩ | ⟨joint, rfl⟩
          · obtain rfl : kind = .ident := kind_of_leafOf?_ident htoken
            obtain ⟨hpos, hbound, _⟩ := lexemeAt_ident_append ':' rfl [] hlexeme
            obtain ⟨before, rfl⟩ : ∃ before, length = before + 1 := ⟨length - 1, by omega⟩
            exact goesOn_ident hlexeme htoken (ih _ hsmaller _ hrest hothers hend rfl)
          · obtain ⟨hkind, hhead⟩ := head?_of_leafOf?_punct htoken
            obtain rfl : c = ':' := Option.some.inj hhead
            obtain ⟨rfl, rfl⟩ := Prod.mk.inj ((lexemeAt_colon rest).symm.trans hlexeme)
            obtain rfl : startsMark rest = joint := LexemeKind.punct.inj hkind
            have hrest' : Spells (lexemes rest) leaves := hrest
            have htext : rest ≠ [] := by
              rintro rfl
              rw [lexemes_nil] at hrest'
              cases hrest'
              exact hlast _ rfl
            exact goesOn_colon htext (ih _ hsmaller _ hrest' hothers hend rfl)

theorem Segments.append {leaves : List Leaf} {segments : List String} {name : Ident}
    {joint : Bool} (hsegments : Segments leaves segments) (hname : name.IsSegment) :
    Segments (leaves ++ [.punct ':' true, .punct ':' joint, .ident name])
      (segments ++ [name.text]) := by
  induction hsegments with
  | last hfirst => exact .more hfirst (.last hname)
  | more hfirst _ ih => exact .more hfirst ih

theorem IsPath.append {leaves : List Leaf} {names : Names} {name : Ident} {joint : Bool}
    (hpath : IsPath leaves names) (hname : name.IsSegment) :
    IsPath (leaves ++ [.punct ':' true, .punct ':' joint, .ident name])
      { names with segments := names.segments ++ [name.text] } := by
  cases hpath with
  | free hsegments => exact .free (hsegments.append hname)
  | rooted hsegments => exact .rooted (hsegments.append hname)

theorem IsPath.inPath {leaves : List Leaf} {names : Names}
    (hpath : IsPath leaves names) : ∀ token ∈ leaves, token.InPath := by
  cases hpath with
  | free hsegments => exact hsegments.inPath
  | rooted hsegments =>
      intro token htoken
      simp only [List.mem_cons] at htoken
      rcases htoken with rfl | rfl | htoken
      · exact .inr ⟨_, rfl⟩
      · exact .inr ⟨_, rfl⟩
      · exact hsegments.inPath token htoken

theorem IsPath.getLast?_eq {leaves : List Leaf} {names : Names}
    (hpath : IsPath leaves names) : ∃ name, leaves.getLast? = some (.ident name) := by
  cases hpath with
  | free hsegments => exact hsegments.getLast?_eq
  | rooted hsegments =>
      obtain ⟨name, hname⟩ := hsegments.getLast?_eq
      exact ⟨name, by simp [List.getLast?_cons, hname]⟩

namespace Reference

theorem dropMark_append (text rest : List Char) :
    Item.dropMark (text ++ ':' :: rest) = Item.dropMark text ++ ':' :: rest := by
  cases text with
  | nil => rfl
  | cons c text =>
      by_cases hmark : c = '\ufeff'
      · subst hmark
        rfl
      · simp [Item.dropMark, hmark]

/-- A path without arguments is one with a double colon and a name behind it, longer by that
name unless a line comment swallows it. -/
theorem ofText_append {text : String} {names : Names} {name : Ident}
    (hread : ofText text = .ok names.path) (hname : name.IsSegment) :
    ∃ longer : Names, ofText (text ++ "::" ++ name.text) = .ok longer.path ∧
      (longer = names ∨ longer = { names with segments := names.segments ++ [name.text] }) := by
  obtain ⟨leaves, hspells, hpath⟩ := ofText_eq_ok_iff.mp hread
  obtain ⟨last, hlast⟩ := hpath.getLast?_eq
  have hchars : Item.dropMark (text ++ "::" ++ name.text).toList =
      Item.dropMark text.toList ++ ':' :: ':' :: name.text.toList := by
    rw [← dropMark_append]
    simp
  rcases goesOn_append name _ hspells hpath.inPath (by simp [hlast]) with hsame | ⟨joint, hlonger⟩
  · exact ⟨names, ofText_eq_ok_iff.mpr ⟨leaves, hchars ▸ hsame, hpath⟩, .inl rfl⟩
  · exact ⟨_, ofText_eq_ok_iff.mpr ⟨_, hchars ▸ hlonger, hpath.append hname⟩, .inr rfl⟩

end Reference

end EventDispatch.Source
