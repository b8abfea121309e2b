import Mathlib.Data.List.Induction
import Mathlib.Data.List.Nodup
import EventDispatch.Params
import EventDispatch.Proofs.Result

/-!
# Parameters as a map in order of first insertion

`Params.insert` changes the list of entries in place, so that two views say all
there is to say about a mapping: `keys`, the order of the entries, and `get?`,
what lies under each key.  Inserting keeps the order of known keys and appends
a new one (`keys_insert`), and changes what lies under one key only
(`get?_insert`).

For a mapping built from a list of entries this gives

* `keys_ofList`: the keys are those of the list, each at its first occurrence;
* `get?_ofList`: under each key lies the last value that the list has for it;
* `size_ofList_eq_length_iff`: no entry is lost exactly when no key occurs twice.
-/

namespace EventDispatch

/-! ## Lists without their later duplicates -/

section Duplicates

variable {α : Type*} [DecidableEq α]

theorem eraseDups_concat (items : List α) (item : α) :
    (items ++ [item]).eraseDups =
      if item ∈ items then items.eraseDups else items.eraseDups ++ [item] := by
  rw [List.eraseDups_append]
  by_cases hmem : item ∈ items <;> simp [List.removeAll, hmem, List.eraseDups_cons]

theorem nodup_eraseDups (items : List α) : items.eraseDups.Nodup := by
  induction items using List.reverseRecOn with
  | nil => simp
  | append_singleton items item ih =>
      rw [eraseDups_concat]
      split
      · exact ih
      · rename_i hnew
        rw [← List.concat_eq_append, List.nodup_concat, List.mem_eraseDups]
        exact ⟨hnew, ih⟩

theorem eraseDups_sublist (items : List α) : items.eraseDups.Sublist items := by
  induction items using List.reverseRecOn with
  | nil => simp
  | append_singleton items item ih =>
      rw [eraseDups_concat]
      split
      · exact ih.trans (List.sublist_append_left _ _)
      · exact ih.append_right [item]

theorem length_eraseDups_eq_iff (items : List α) :
    items.eraseDups.length = items.length ↔ items.Nodup := by
  constructor
  · intro hlength
    rw [← (eraseDups_sublist items).eq_of_length hlength]
    exact nodup_eraseDups items
  · intro hnodup
    induction items using List.reverseRecOn with
    | nil => rfl
    | append_singleton items item ih =>
        rw [← List.concat_eq_append, List.nodup_concat] at hnodup
        obtain ⟨hnew, hitems⟩ := hnodup
        rw [eraseDups_concat, if_neg hnew]
        simp [ih hitems]

end Duplicates

namespace Params

/-! ## One insertion -/

theorem map_fst_place (key : String) (value : ParamValue)
    (entries : List (String × ParamValue)) :
    (place key value entries).map Prod.fst =
      if key ∈ entries.map Prod.fst then entries.map Prod.fst
      else entries.map Prod.fst ++ [key] := by
  induction entries with
  | nil => rfl
  | cons entry rest ih =>
      by_cases hkey : entry.1 = key
      · simp [place, hkey]
      · have hne : key ≠ entry.1 := Ne.symm hkey
        simp only [place, if_neg hkey, List.map_cons, ih, List.mem_cons, hne, false_or]
        split <;> rfl

theorem lookup_place (key wanted : String) (value : ParamValue)
    (entries : List (String × ParamValue)) :
    (place key value entries).lookup wanted =
      if wanted = key then some value else entries.lookup wanted := by
  induction entries with
  | nil => exact lookup_cons_eq_ite (key, value) [] wanted
  | cons entry rest ih =>
      by_cases hkey : entry.1 = key
      · rw [place, if_pos hkey, lookup_cons_eq_ite, lookup_cons_eq_ite, hkey]
        split <;> rfl
      · rw [place, if_neg hkey, lookup_cons_eq_ite, ih, lookup_cons_eq_ite]
        by_cases hwanted : wanted = key
        · have hne : wanted ≠ entry.1 := fun heq => hkey (heq.symm.trans hwanted)
          rw [if_neg hne, if_pos hwanted, if_pos hwanted]
        · rw [if_neg hwanted, if_neg hwanted]

theorem keys_insert (params : Params) (key : String) (value : ParamValue) :
    (params.insert key value).keys =
      if key ∈ params.keys then params.keys else params.keys ++ [key] :=
  map_fst_place key value params.toList

theorem get?_insert (params : Params) (key wanted : String) (value : ParamValue) :
    (params.insert key value).get? wanted =
      if wanted = key then some value else params.get? wanted :=
  lookup_place key wanted value params.toList

/-- Under a new key the entry goes to the end and the others stay. -/
theorem toList_insert_of_notMem {params : Params} {key : String} (value : ParamValue)
    (hnew : key ∉ params.keys) :
    (params.insert key value).toList = params.toList ++ [(key, value)] := by
  have place_new : ∀ entries : List (String × ParamValue), key ∉ entries.map Prod.fst →
      place key value entries = entries ++ [(key, value)] := by
    intro entries
    induction entries with
    | nil => intro _; rfl
    | cons entry rest ih =>
        intro hnotMem
        rw [List.map_cons, List.mem_cons, not_or] at hnotMem
        rw [place, if_neg (Ne.symm hnotMem.1), ih hnotMem.2, List.cons_append]
  exact place_new params.toList hnew

/-! ## Mappings of lists -/

@[simp] theorem ofList_nil : ofList [] = empty := rfl

theorem ofList_concat (entries : List (String × ParamValue)) (entry : String × ParamValue) :
    ofList (entries ++ [entry]) = (ofList entries).insert entry.1 entry.2 := by
  simp [ofList]

/-- The keys are those of the list, each where it occurs first. -/
theorem keys_ofList (entries : List (String × ParamValue)) :
    (ofList entries).keys = (entries.map Prod.fst).eraseDups := by
  induction entries using List.reverseRecOn with
  | nil => rfl
  | append_singleton entries entry ih =>
      rw [ofList_concat, keys_insert, ih, List.map_append, List.map_singleton, eraseDups_concat]
      simp only [List.mem_eraseDups]

/-- Under each key lies the last value that the list has for it. -/
theorem get?_ofList (entries : List (String × ParamValue)) (key : String) :
    (ofList entries).get? key = entries.reverse.lookup key := by
  induction entries using List.reverseRecOn with
  | nil => rfl
  | append_singleton entries entry ih =>
      rw [ofList_concat, get?_insert, ih, List.reverse_append, List.reverse_singleton,
        List.singleton_append, lookup_cons_eq_ite]

theorem size_eq_length_keys (params : Params) : params.size = params.keys.length := by
  simp [size, keys]

/-- No entry of the list is lost exactly when no key occurs twice. -/
theorem size_ofList_eq_length_iff (entries : List (String × ParamValue)) :
    (ofList entries).size = entries.length ↔ (entries.map Prod.fst).Nodup := by
  rw [size_eq_length_keys, keys_ofList, ← length_eraseDups_eq_iff, List.length_map]

/-- A list without repeated keys is the list of entries of its mapping. -/
theorem toList_ofList_of_nodup {entries : List (String × ParamValue)}
    (hnodup : (entries.map Prod.fst).Nodup) : (ofList entries).toList = entries := by
  induction entries using List.reverseRecOn with
  | nil => rfl
  | append_singleton entries entry ih =>
      rw [List.map_append, List.map_singleton, ← List.concat_eq_append,
        List.nodup_concat] at hnodup
      obtain ⟨hnew, hentries⟩ := hnodup
      have hnotMem : entry.1 ∉ (ofList entries).keys := by
        rw [keys_ofList, List.mem_eraseDups]
        exact hnew
      rw [ofList_concat, toList_insert_of_notMem entry.2 hnotMem, ih hentries]

theorem ofList_eq_of_nodup {entries : List (String × ParamValue)}
    (hnodup : (entries.map Prod.fst).Nodup) : ofList entries = ⟨entries⟩ :=
  congrArg Params.mk (toList_ofList_of_nodup hnodup)

end Params

end EventDispatch
