import EventDispatch.Proofs.SnakeCase

/-!
# Slashes in derived names

Deriving a name adds underscores and small letters to the characters of an
identifier, never a slash.  A stem derived from a path joins derived names by
underscores.  So a slash in a derived name was in the identifier or in the path
before (`slash_notMem_snakeCase`, `slash_notMem_qualifiedStem`).
-/

namespace EventDispatch

namespace Name

/-! ## One identifier -/

theorem mem_of_mem_unrawChars {name : List Char} {c : Char} (hmem : c ∈ unrawChars name) :
    c ∈ name := by
  unfold unrawChars at hmem
  split at hmem
  · exact List.mem_cons_of_mem _ (List.mem_cons_of_mem _ hmem)
  · exact hmem

theorem slash_notMem_snakeCase {name : String} (hname : '/' ∉ name.toList) :
    '/' ∉ (snakeCase name).toList := by
  intro hmem
  rw [toList_snakeCase] at hmem
  exact hname (mem_of_mem_unrawChars (mem_of_mem_pieces (by decide) (by decide) hmem))

/-! ## Paths -/

theorem mem_of_mem_splitPath {path piece : List Char} {c : Char} (hpiece : piece ∈ splitPath path)
    (hmem : c ∈ piece) : c ∈ path := by
  fun_induction splitPath path generalizing piece with
  | case1 =>
      rw [List.mem_singleton.mp hpiece] at hmem
      exact hmem
  | case2 rest ih =>
      rcases List.mem_cons.mp hpiece with rfl | hrest
      · cases hmem
      · exact List.mem_cons_of_mem _ (List.mem_cons_of_mem _ (ih hrest hmem))
  | case3 first rest _ hsplit ih =>
      rw [List.mem_singleton.mp hpiece] at hmem
      rw [List.mem_singleton.mp hmem]
      exact List.mem_cons_self
  | case4 first rest _ head others hsplit ih =>
      rw [hsplit] at ih
      rcases List.mem_cons.mp hpiece with rfl | hothers
      · rcases List.mem_cons.mp hmem with rfl | hhead
        · exact List.mem_cons_self
        · exact List.mem_cons_of_mem first (ih List.mem_cons_self hhead)
      · exact List.mem_cons_of_mem first (ih (List.mem_cons_of_mem head hothers) hmem)

theorem notMem_intercalate {mark : String} {items : List String} {c : Char}
    (hmark : c ∉ mark.toList) (hitems : ∀ item ∈ items, c ∉ item.toList) :
    c ∉ (mark.intercalate items).toList := by
  induction items with
  | nil => simp
  | cons first rest ih =>
      have hfirst := hitems first List.mem_cons_self
      have hrest := ih fun item hitem => hitems item (List.mem_cons_of_mem first hitem)
      cases rest with
      | nil => simpa using hfirst
      | cons second others =>
          rw [String.intercalate_cons_cons, String.toList_append, String.toList_append]
          simp only [List.mem_append, not_or]
          exact ⟨⟨hfirst, hmark⟩, hrest⟩

theorem slash_notMem_qualifiedStem {path : String} (hpath : '/' ∉ path.toList) :
    '/' ∉ (qualifiedStem path).toList := by
  refine notMem_intercalate (by decide) fun item hitem => ?_
  obtain ⟨segment, hsegment, rfl⟩ := List.mem_map.mp hitem
  obtain ⟨piece, hpiece, rfl⟩ := List.mem_map.mp (List.mem_filter.mp hsegment).1
  refine slash_notMem_snakeCase fun hmem => ?_
  rw [String.toList_ofList] at hmem
  exact hpath (mem_of_mem_splitPath hpiece hmem)

end Name

end EventDispatch
