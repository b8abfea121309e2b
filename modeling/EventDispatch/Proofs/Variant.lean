import EventDispatch.Proofs.EventSet
import EventDispatch.Proofs.Params

/-!
# What an event records

The arm of an event passes its fields on as entries, each value under the key
derived from the name of its field, and the entries are inserted one by one
into a mapping.  The conversion of names is not injective (`imageName` and
`image_name` have one key), and an insertion under a known key replaces the
value, so a mapping may be smaller than its event.

`params_of_enumerated` says how much smaller: there is one entry for each
derived key, with the value of the last field that has this key, and nothing is
lost exactly when the derived keys are different.
-/

namespace EventDispatch

namespace Variant

/-- The entries of an event: each field's key with the value of the field. -/
def entries (variant : Variant) (values : List ParamValue) : List (String × ParamValue) :=
  (variant.fields.map Field.key).zip values

/-- The parameters of an event. -/
def params (variant : Variant) (values : List ParamValue) : Params :=
  Params.ofList (variant.entries values)

/-- The keys derived from the names of the fields. -/
def derivedKeys (variant : Variant) : List String :=
  variant.fields.map fun field => Name.paramKey field.ident

variable {variant : Variant} {values : List ParamValue}

theorem map_fst_entries (hlength : values.length = variant.fields.length) :
    (variant.entries values).map Prod.fst = variant.fields.map Field.key :=
  List.map_fst_zip (by simp [hlength])

theorem length_entries (hlength : values.length = variant.fields.length) :
    (variant.entries values).length = variant.fields.length := by
  simp [entries, hlength]

/-- A value lies under its key when no later field has the same key. -/
theorem get?_params_of_last (pre post : List (String × ParamValue)) {key : String}
    {value : ParamValue} (hentries : variant.entries values = pre ++ (key, value) :: post)
    (hlast : key ∉ post.map Prod.fst) : (variant.params values).get? key = some value := by
  have hpost : post.reverse.lookup key = none := by
    rw [List.lookup_eq_none_iff]
    intro entry hentry
    rw [bne_iff_ne]
    rintro rfl
    exact hlast (List.mem_map.mpr ⟨entry, List.mem_reverse.mp hentry, rfl⟩)
  rw [params, Params.get?_ofList, hentries, List.reverse_append, List.reverse_cons,
    List.append_assoc, List.lookup_append, hpost]
  simp

theorem get?_params_of_mem (hlength : values.length = variant.fields.length)
    (hkeys : (variant.fields.map Field.key).Nodup) {key : String} {value : ParamValue}
    (hentry : (key, value) ∈ variant.entries values) :
    (variant.params values).get? key = some value := by
  obtain ⟨pre, post, hentries⟩ := List.append_of_mem hentry
  refine get?_params_of_last pre post hentries ?_
  have hnodup : ((variant.entries values).map Prod.fst).Nodup := by
    rwa [map_fst_entries hlength]
  rw [hentries, List.map_append, List.map_cons] at hnodup
  exact (List.nodup_cons.mp hnodup.of_append_right).1

/-- For the events of a declaration the keys are the derived ones. -/
theorem map_key_eq_derivedKeys {declaration : Declaration} {set : EventSet}
    (hset : declaration.eventSet? = some set) (hvariant : variant ∈ set.variants) :
    variant.fields.map Field.key = variant.derivedKeys := by
  rw [derivedKeys, Declaration.fields_eq_map_ofIdent hset hvariant]
  simp [Field.ofIdent]

end Variant

/-! ## Main result -/

/-- The parameters of an enumerated event, for any values of its fields: one
entry for each derived key, in order of the first field that has it, holding the
value of the last one; as many entries as fields exactly when the derived keys
are different, and then each field's value lies under its own key. -/
theorem params_of_enumerated {declaration : Declaration} {set : EventSet} {variant : Variant}
    {values : List ParamValue} (hset : declaration.eventSet? = some set)
    (hvariant : variant ∈ set.variants) (hlength : values.length = variant.fields.length) :
    (variant.params values).keys = variant.derivedKeys.eraseDups ∧
      (∀ key, (variant.params values).get? key =
        (variant.derivedKeys.zip values).reverse.lookup key) ∧
      ((variant.params values).size = variant.fields.length ↔ variant.derivedKeys.Nodup) ∧
      (variant.derivedKeys.Nodup → ∀ entry ∈ variant.fields.zip values,
        (variant.params values).get? (Name.paramKey entry.1.ident) = some entry.2) := by
  have hkeys := Variant.map_key_eq_derivedKeys hset hvariant
  have hentries : variant.entries values = variant.derivedKeys.zip values := by
    rw [Variant.entries, hkeys]
  refine ⟨?_, fun key => ?_, ?_, fun hnodup entry hentry => ?_⟩
  · rw [Variant.params, Params.keys_ofList, Variant.map_fst_entries hlength, hkeys]
  · rw [Variant.params, Params.get?_ofList, hentries]
  · rw [← hkeys, ← Variant.map_fst_entries hlength, ← Params.size_ofList_eq_length_iff,
      Variant.length_entries hlength, Variant.params]
  · refine Variant.get?_params_of_mem hlength (hkeys ▸ hnodup) ?_
    rw [hentries, Variant.derivedKeys, List.zip_map_left]
    exact List.mem_map.mpr ⟨entry, hentry, rfl⟩

/-- An event with a field in camel case beside the same words in snake case. -/
def sharedImage : Variant where
  name := "ShareImage"
  eventName := "share_image"
  fields := [⟨"imageName", "image_name"⟩, ⟨"count", "count"⟩, ⟨"image_name", "image_name"⟩]

/-- What the fields of one such event hold. -/
def sharedValues : List ParamValue := [.text "a.jpg", .unsigned 3, .text "b.jpg"]

/-- The declaration of that event. -/
def sharedImages : Declaration where
  name := "Shared"
  path := "crate::Shared"
  kind := .enum
  modality := .closed
  markers := ["analytics_event"]
  generic := false
  members := [{
    name := "ShareImage"
    parent := none
    fields := .named ["imageName", "count", "image_name"]
    origin := ⟨"shared.rs", some 1⟩ }]
  origin := ⟨"shared.rs", some 1⟩

/-- Three fields, two entries: the later spelling wins and stands in the first place. -/
theorem params_sharedImage :
    sharedImages.eventSet? = some ⟨"Shared", "crate::Shared", false, [sharedImage]⟩ ∧
      sharedValues.length = sharedImage.fields.length ∧
      (sharedImage.params sharedValues).keys = ["image_name", "count"] ∧
      (sharedImage.params sharedValues).get? "image_name" = some (.text "b.jpg") ∧
      (sharedImage.params sharedValues).size ≠ sharedImage.fields.length := by
  have hset : sharedImages.eventSet? = some ⟨"Shared", "crate::Shared", false, [sharedImage]⟩ := by
    decide +kernel
  have hlength : sharedValues.length = sharedImage.fields.length := rfl
  have hderived : sharedImage.derivedKeys = ["image_name", "count", "image_name"] := by
    decide +kernel
  obtain ⟨hkeys, hget, hsize, _⟩ :=
    params_of_enumerated hset (List.mem_singleton_self sharedImage) hlength
  rw [hderived] at hkeys hget hsize
  refine ⟨hset, hlength, hkeys, hget "image_name", fun hthree => ?_⟩
  exact absurd (hsize.mp hthree) (by decide)

/-- Different field names are not enough: an event of three fields with three
different names has a mapping of two entries, and the value of the first field is
nowhere in it. -/
theorem shared_key_loses_field :
    ∃ set, sharedImages.eventSet? = some set ∧ sharedImage ∈ set.variants ∧
      sharedValues.length = sharedImage.fields.length ∧
      (sharedImage.fields.map Field.ident).Nodup ∧
      (sharedImage.params sharedValues).size < sharedImage.fields.length ∧
      (sharedImage.params sharedValues).get? (Name.paramKey "imageName") ≠
        some (.text "a.jpg") := by
  refine ⟨⟨"Shared", "crate::Shared", false, [sharedImage]⟩, ?_, ?_, rfl, ?_, ?_, ?_⟩
  · decide +kernel
  · exact List.mem_singleton_self sharedImage
  · decide
  · decide +kernel
  · decide +kernel

end EventDispatch
