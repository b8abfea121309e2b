import Mathlib.Data.Finset.Card
import EventDispatch.Proofs.Params

/-!
# One order in all views of a mapping

However a mapping is built, it is the mapping of the list of all entries inserted into
it (`Params.ofList_append`), so that the laws of `Params.ofList` are laws of every mapping:
the keys are different and stand in order of first insertion, and under each lies the
value inserted last (`Params.isMapOf_ofList`).

A mapping is read as a list of entries, as a list of keys, as text and as JSON.  All
of them go through the entries in order; since no key is there twice, the value that a
view has for a key is the one that is looked up under it (`Params.shows_of_nodup`).
-/

namespace EventDispatch

/-! ## Objects as text -/

namespace Text.Json

theorem ofList_separate (pieces : List (List Char)) :
    String.ofList (separate pieces) = ",".intercalate (pieces.map String.ofList) := by
  induction pieces with
  | nil => rfl
  | cons piece rest ih =>
      cases rest with
      | nil => simp [separate]
      | cons next others =>
          have hcomma : ∀ text, String.ofList (',' :: text) = "," ++ String.ofList text := fun text =>
            @String.ofList_append [','] text
          change String.ofList (piece ++ ',' :: separate (next :: others)) = _
          rw [String.ofList_append, hcomma, ih, List.map_cons, List.map_cons, List.map_cons,
            String.intercalate_cons_cons, String.append_assoc]

theorem map_ofList_compactEntries (entries : List (String × Value)) :
    (compactEntries entries).map String.ofList =
      entries.map fun entry => compact (.string entry.1) ++ ":" ++ compact entry.2 := by
  induction entries with
  | nil => rw [compactEntries, List.map_nil, List.map_nil]
  | cons entry rest ih =>
      have hkey : compact (.string entry.1) = String.ofList (quoteChars entry.1.toList) := by
        rw [compact, compactChars]
      have hcolon : ∀ value, String.ofList (':' :: value) = ":" ++ String.ofList value := fun value =>
        @String.ofList_append [':'] value
      rw [compactEntries, List.map_cons, List.map_cons, ih, String.ofList_append, hcolon, ← hkey,
        ← compact, String.append_assoc]

/-- An object is written entry by entry, each key in quotes before its value. -/
theorem compact_object (entries : List (String × Value)) :
    compact (.object entries) = "\x7b" ++ ",".intercalate
      (entries.map fun entry => compact (.string entry.1) ++ ":" ++ compact entry.2) ++ "\x7d" := by
  rw [compact, compactChars, ← List.singleton_append, String.ofList_append,
    String.ofList_append, ofList_separate, map_ofList_compactEntries]

end Text.Json

namespace Params

/-! ## All that was inserted -/

/-- The parameters with further entries, inserted one by one. -/
def extend (params : Params) (entries : List (String × ParamValue)) : Params :=
  entries.foldl (fun params entry => params.insert entry.1 entry.2) params

theorem ofList_append (first more : List (String × ParamValue)) :
    ofList (first ++ more) = (ofList first).extend more :=
  List.foldl_append

/-- The mapping holds the entries of a list that were inserted one by one: its keys are
different and in order of first insertion, and under each lies the value inserted last. -/
structure IsMapOf (params : Params) (inserted : List (String × ParamValue)) : Prop where
  nodup : params.keys.Nodup
  keys_eq : params.keys = (inserted.map Prod.fst).eraseDups
  get?_eq_some_iff : ∀ key value, params.get? key = some value ↔
    ∃ before after, inserted = before ++ (key, value) :: after ∧ key ∉ after.map Prod.fst
  get?_eq_none_iff : ∀ key, params.get? key = none ↔ key ∉ inserted.map Prod.fst
  size_eq : params.size = (inserted.map Prod.fst).toFinset.card

theorem forall_fst_ne_iff {entries : List (String × ParamValue)} {key : String} :
    (∀ entry ∈ entries, (key != entry.1) = true) ↔ key ∉ entries.map Prod.fst := by
  constructor
  · intro hne hmem
    obtain ⟨entry, hentry, heq⟩ := List.mem_map.mp hmem
    exact bne_iff_ne.mp (hne entry hentry) heq.symm
  · intro hnew entry hentry
    rw [bne_iff_ne]
    rintro rfl
    exact hnew (List.mem_map_of_mem hentry)

/-- A value lies under a key if no later entry of the list has the key. -/
theorem get?_ofList_eq_some_iff {entries : List (String × ParamValue)} {key : String}
    {value : ParamValue} : (ofList entries).get? key = some value ↔
      ∃ before after, entries = before ++ (key, value) :: after ∧
        key ∉ after.map Prod.fst := by
  rw [get?_ofList, List.lookup_eq_some_iff]
  constructor
  · rintro ⟨after, before, hentries, hnew⟩
    refine ⟨before.reverse, after.reverse, ?_, ?_⟩
    · rw [← List.reverse_reverse entries, hentries]
      simp
    · rw [List.map_reverse, List.mem_reverse]
      exact forall_fst_ne_iff.mp hnew
  · rintro ⟨before, after, rfl, hnew⟩
    refine ⟨after.reverse, before.reverse, by simp, ?_⟩
    rw [forall_fst_ne_iff, List.map_reverse, List.mem_reverse]
    exact hnew

theorem get?_ofList_eq_none_iff {entries : List (String × ParamValue)} {key : String} :
    (ofList entries).get? key = none ↔ key ∉ entries.map Prod.fst := by
  rw [get?_ofList, List.lookup_eq_none_iff, forall_fst_ne_iff, List.map_reverse, List.mem_reverse]

theorem nodup_keys_ofList (entries : List (String × ParamValue)) : (ofList entries).keys.Nodup := by
  rw [keys_ofList]
  exact nodup_eraseDups _

theorem isMapOf_ofList (entries : List (String × ParamValue)) :
    (ofList entries).IsMapOf entries where
  nodup := nodup_keys_ofList entries
  keys_eq := keys_ofList entries
  get?_eq_some_iff := fun _ _ => get?_ofList_eq_some_iff
  get?_eq_none_iff := fun _ => get?_ofList_eq_none_iff
  size_eq := by
    have hsame : (ofList entries).keys.toFinset = (entries.map Prod.fst).toFinset := by
      ext key
      rw [keys_ofList, List.mem_toFinset, List.mem_toFinset, List.mem_eraseDups]
    rw [size_eq_length_keys, ← List.toFinset_card_of_nodup (nodup_keys_ofList entries), hsame]

/-! ## Views -/

/-- The views of a mapping go through its keys in order, each with the value that is
looked up under it. -/
structure Shows (params : Params) (values : List ParamValue) : Prop where
  lookedUp : params.keys.map params.get? = values.map some
  entries : params.toList = params.keys.zip values
  text : params.describe = "\x7b" ++ ", ".intercalate
    (List.zipWith (fun key value => key ++ "=" ++ value.describe) params.keys values) ++ "\x7d"
  json : params.json =
    .object (List.zipWith (fun key value => (key, value.json)) params.keys values)
  jsonText : Text.Json.compact params.json = "\x7b" ++ ",".intercalate
    (List.zipWith (fun key value =>
      Text.Json.compact (.string key) ++ ":" ++ Text.Json.compact value.json)
      params.keys values) ++ "\x7d"

/-- Going through the entries is going through the keys and the values side by side. -/
theorem map_toList_eq_zipWith {γ : Type*} (params : Params) (view : String → ParamValue → γ) :
    params.toList.map (fun entry => view entry.1 entry.2) =
      List.zipWith view params.keys (params.toList.map Prod.snd) := by
  rw [keys, List.zipWith_map, List.zipWith_self]

theorem get?_of_mem_toList {params : Params} (hnodup : params.keys.Nodup)
    {entry : String × ParamValue} (hentry : entry ∈ params.toList) :
    params.get? entry.1 = some entry.2 := by
  obtain ⟨before, after, hentries⟩ := List.append_of_mem hentry
  have hnew : entry.1 ∉ after.map Prod.fst := by
    have hkeys : (params.toList.map Prod.fst).Nodup := hnodup
    rw [hentries, List.map_append, List.map_cons] at hkeys
    exact (List.nodup_cons.mp hkeys.of_append_right).1
  have hfound := get?_ofList_eq_some_iff.mpr ⟨before, after, hentries, hnew⟩
  rw [ofList_eq_of_nodup hnodup] at hfound
  exact hfound

theorem shows_of_nodup {params : Params} (hnodup : params.keys.Nodup) :
    params.Shows (params.toList.map Prod.snd) where
  lookedUp := by
    rw [keys, List.map_map, List.map_map]
    exact List.map_congr_left fun entry hentry => get?_of_mem_toList hnodup hentry
  entries := List.zip_of_prod rfl rfl
  text := by
    rw [describe, ← map_toList_eq_zipWith]
  json := by
    rw [Params.json, ← map_toList_eq_zipWith]
  jsonText := by
    rw [Params.json, Text.Json.compact_object, List.map_map,
      ← map_toList_eq_zipWith params fun key value =>
        Text.Json.compact (.string key) ++ ":" ++ Text.Json.compact value.json]
    rfl

/-- A mapping that begins with the entries of any list, from an array or from an iterator,
and goes on with any insertions is the mapping of all these entries, at whatever point the
list is split, and also where it begins empty.  It keeps one entry a key in order of first
insertion, all its views show these entries, and its own list of entries gives it again. -/
theorem extend_isMapOf (first more : List (String × ParamValue)) :
    let params := (ofList first).extend more
    let inserted := first ++ more
    params.IsMapOf inserted ∧ (∃ values, params.Shows values) ∧
      params = ofList inserted ∧ params = empty.extend inserted ∧
      ofList params.toList = params := by
  intro params inserted
  have hparams : params = ofList inserted := (ofList_append first more).symm
  have hnodup : params.keys.Nodup := by
    rw [hparams]
    exact nodup_keys_ofList inserted
  refine ⟨?_, ⟨_, shows_of_nodup hnodup⟩, hparams, ?_, ofList_eq_of_nodup hnodup⟩
  · rw [hparams]
    exact isMapOf_ofList inserted
  · rw [hparams, ofList, extend]

end Params

end EventDispatch
