import Mathlib.Data.List.Forall2
import Mathlib.Data.List.Nodup

/-!
# Results that may fail, and lists with distinct keys

A chain of steps that may fail succeeds exactly when each of its steps does.
The lemmas here take such chains apart, for one step and for a step repeated
over a list.  The rest is about lists: items of related lists, and lists whose
items have distinct keys, where looking for a key finds the one item that has it.
-/

namespace EventDispatch

universe u

/-! ## Chains of steps -/

section Chains

variable {ε ε' α β : Type u}

theorem bind_eq_ok_iff {step : Except ε α} {next : α → Except ε β} {result : β} :
    (step >>= next) = .ok result ↔ ∃ value, step = .ok value ∧ next value = .ok result := by
  cases step with
  | error fault => simp [bind, Except.bind]
  | ok value => simp [bind, Except.bind]

theorem bind_eq_error_iff {step : Except ε α} {next : α → Except ε β} {fault : ε} :
    (step >>= next) = .error fault ↔
      step = .error fault ∨ ∃ value, step = .ok value ∧ next value = .error fault := by
  cases step with
  | error other => simp [bind, Except.bind]
  | ok value => simp [bind, Except.bind]

theorem mapError_eq_ok_iff {step : Except ε α} {wrap : ε → ε'} {result : α} :
    step.mapError wrap = .ok result ↔ step = .ok result := by
  cases step <;> simp [Except.mapError]

theorem mapError_eq_error_iff {step : Except ε α} {wrap : ε → ε'} {fault : ε'} :
    step.mapError wrap = .error fault ↔ ∃ inner, step = .error inner ∧ wrap inner = fault := by
  cases step <;> simp [Except.mapError]

theorem map_eq_ok_iff {step : Except ε α} {view : α → β} {result : β} :
    step.map view = .ok result ↔ ∃ value, step = .ok value ∧ view value = result := by
  cases step <;> simp [Except.map]

/-- A check in front of a step lets it go on or fails. -/
theorem ite_error_eq_ok_iff {check : Prop} [Decidable check] {step : Except ε α} {fault : ε}
    {result : α} : (if check then step else .error fault) = .ok result ↔
      check ∧ step = .ok result := by
  split
  · rename_i hcheck
    exact ⟨fun hstep => ⟨hcheck, hstep⟩, fun hboth => hboth.2⟩
  · rename_i hcheck
    exact ⟨nofun, fun hboth => absurd hboth.1 hcheck⟩

theorem toOption_eq_some_iff {step : Except ε α} {result : α} :
    step.toOption = some result ↔ step = .ok result := by
  cases step <;> simp [Except.toOption]

/-- A chain of steps that pass a state along runs through a state in between. -/
theorem run_bind_eq {σ : Type u} {step : StateM σ α} {next : α → StateM σ β} {state : σ}
    {result : β × σ} (hrun : (step >>= next).run state = result) :
    ∃ value middle, step.run state = (value, middle) ∧ (next value).run middle = result :=
  ⟨(step.run state).1, (step.run state).2, rfl, hrun⟩

/-- What a step gives over a list comes from its items. -/
theorem exists_of_mem_mapM {step : α → Except ε β} :
    ∀ {items : List α} {results : List β}, items.mapM step = .ok results →
      ∀ result ∈ results, ∃ item ∈ items, step item = .ok result := by
  intro items
  induction items with
  | nil =>
      intro results hresults
      cases hresults
      exact fun _ hmem => (List.not_mem_nil hmem).elim
  | cons item rest ih =>
      intro results hresults
      rw [List.mapM_cons] at hresults
      obtain ⟨first, hfirst, hresults⟩ := bind_eq_ok_iff.mp hresults
      obtain ⟨others, hothers, hresults⟩ := bind_eq_ok_iff.mp hresults
      cases hresults
      refine List.forall_mem_cons.mpr ⟨⟨item, List.mem_cons_self, hfirst⟩, fun result hresult => ?_⟩
      obtain ⟨other, hother, hstep⟩ := ih hothers result hresult
      exact ⟨other, List.mem_cons_of_mem item hother, hstep⟩

/-- A step can be repeated over a list if it can be done for each item. -/
theorem exists_mapM_iff {step : α → Except ε β} {items : List α} :
    (∃ results, items.mapM step = .ok results) ↔
      ∀ item ∈ items, ∃ result, step item = .ok result := by
  induction items with
  | nil => simp [pure, Except.pure]
  | cons item rest ih =>
      rw [List.forall_mem_cons, ← ih, List.mapM_cons]
      simp [bind_eq_ok_iff, pure, Except.pure]

/-- A step over a list gives the results of the step for its items. -/
theorem mapM_eq_ok_iff {step : α → Except ε β} {items : List α} {results : List β} :
    items.mapM step = .ok results ↔
      List.Forall₂ (fun item result => step item = .ok result) items results := by
  induction items generalizing results with
  | nil => simp [pure, Except.pure, eq_comm]
  | cons item rest ih =>
      rw [List.mapM_cons, bind_eq_ok_iff, List.forall₂_cons_left_iff]
      simp only [bind_eq_ok_iff, ih]
      simp [pure, Except.pure, eq_comm]

/-- A step over a list fails as it does at the first item where something is found that it
fails for. -/
theorem mapM_eq_error_of_findSome? {γ : Type*} {step : α → Except ε β} {look : α → Option γ}
    (fault : γ → ε) (hnone : ∀ item, look item = none → ∃ result, step item = .ok result)
    (hsome : ∀ item found, look item = some found → step item = .error (fault found))
    {items : List α} {found : γ} (hfind : items.findSome? look = some found) :
    items.mapM step = .error (fault found) := by
  induction items with
  | nil => cases hfind
  | cons item rest ih =>
      rw [List.findSome?_cons] at hfind
      rw [List.mapM_cons]
      cases hlook : look item with
      | some first =>
          rw [hlook] at hfind
          cases hfind
          rw [hsome item found hlook]
          rfl
      | none =>
          rw [hlook] at hfind
          obtain ⟨result, hresult⟩ := hnone item hlook
          rw [hresult, ih hfind]
          rfl

end Chains

/-! ## Lists side by side -/

/-- An item of the right one of two related lists is related to one of the left. -/
theorem exists_rel_of_mem {α β : Type*} {relation : α → β → Prop} {left : List α}
    {right : List β} (hrelated : List.Forall₂ relation left right) {item : β}
    (hitem : item ∈ right) : ∃ other ∈ left, relation other item := by
  induction hrelated with
  | nil => cases hitem
  | @cons first second _ _ hfirst _ ih =>
      rcases List.mem_cons.mp hitem with rfl | hmem
      · exact ⟨first, List.mem_cons_self, hfirst⟩
      · obtain ⟨other, hother, hrelation⟩ := ih hmem
        exact ⟨other, List.mem_cons_of_mem first hother, hrelation⟩

theorem map_eq_map_of_forall₂ {α β γ : Type*} {first : α → γ} {second : β → γ} {left : List α}
    {right : List β}
    (hrelated : List.Forall₂ (fun item other => first item = second other) left right) :
    left.map first = right.map second := by
  rw [← List.forall₂_eq_eq_eq, List.forall₂_map_left_iff, List.forall₂_map_right_iff]
  exact hrelated

theorem filterMap_eq_filterMap_of_forall₂ {α β γ : Type*} {first : α → Option γ}
    {second : β → Option γ} {left : List α} {right : List β}
    (hrelated : List.Forall₂ (fun item other => first item = second other) left right) :
    left.filterMap first = right.filterMap second := by
  have hmaps := congrArg (List.filterMap id) (map_eq_map_of_forall₂ hrelated)
  rwa [List.filterMap_map, List.filterMap_map, Function.id_comp, Function.id_comp] at hmaps

/-- If every item of the right one of two related lists can be taken, with a result that
goes with the item on the left, then so can the whole list. -/
theorem exists_mapM_eq_ok {ε α β γ : Type u} {step : β → Except ε γ} {given : α → β → Prop}
    {relation : α → γ → Prop} {left : List α} {right : List β}
    (hrelated : List.Forall₂ given left right)
    (hstep : ∀ item ∈ left, ∀ other, given item other →
      ∃ result, step other = .ok result ∧ relation item result) :
    ∃ results, right.mapM step = .ok results ∧ List.Forall₂ relation left results := by
  induction hrelated with
  | nil => exact ⟨[], rfl, .nil⟩
  | @cons first other rest _ hgiven _ ih =>
      obtain ⟨result, hresult, hrelation⟩ := hstep first List.mem_cons_self other hgiven
      obtain ⟨results, hresults, hrelations⟩ :=
        ih fun item hitem => hstep item (List.mem_cons_of_mem first hitem)
      refine ⟨result :: results, ?_, .cons hrelation hrelations⟩
      rw [List.mapM_cons, hresult, hresults]
      rfl

/-! ## Looking up keys -/

theorem lookup_cons_eq_ite {κ β : Type*} [BEq κ] [LawfulBEq κ] [DecidableEq κ] (entry : κ × β)
    (rest : List (κ × β)) (wanted : κ) :
    (entry :: rest).lookup wanted =
      if wanted = entry.1 then some entry.2 else rest.lookup wanted := by
  by_cases hwanted : wanted = entry.1
  · rw [if_pos hwanted, hwanted, List.lookup_cons_self]
  · rw [if_neg hwanted, List.lookup_cons, beq_false_of_ne hwanted]

/-! ## Lists with distinct keys -/

section Keys

variable {α κ : Type*} [BEq κ] [LawfulBEq κ] {key : α → κ}

/-- Exactly one item has the key of an item of the list. -/
theorem filter_key_eq_singleton {items : List α} (hnodup : (items.map key).Nodup) {item : α}
    (hitem : item ∈ items) : (items.filter fun other => key other == key item) = [item] := by
  induction items with
  | nil => cases hitem
  | cons first rest ih =>
      rw [List.map_cons, List.nodup_cons] at hnodup
      obtain ⟨hnew, hrest⟩ := hnodup
      rcases List.mem_cons.mp hitem with rfl | hmem
      · have hnone : (rest.filter fun other => key other == key item) = [] := by
          rw [List.filter_eq_nil_iff]
          intro other hother heq
          exact hnew (List.mem_map.mpr ⟨other, hother, beq_iff_eq.mp heq⟩)
        rw [List.filter_cons_of_pos (by simp), hnone]
      · have hne : key first ≠ key item := fun heq =>
          hnew (heq ▸ List.mem_map.mpr ⟨item, hmem, rfl⟩)
        rw [List.filter_cons_of_neg (by simpa using hne), ih hrest hmem]

theorem find?_key_eq_some {items : List α} (hnodup : (items.map key).Nodup) {item : α}
    (hitem : item ∈ items) : (items.find? fun other => key other == key item) = some item := by
  rw [← List.head?_filter, filter_key_eq_singleton hnodup hitem, List.head?_cons]

end Keys

end EventDispatch
