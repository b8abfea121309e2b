import EventDispatch.Proofs.Json
import EventDispatch.Proofs.Views

/-!
# Parameters are read back from their JSON

The compact text of a value stands for the value (`Text.Json.denotes_compact`), provided that
numbers which are not whole are written as numbers.  This is shown part by part, along the
recursion of the writer: an escape is a way to write its character, the digits of a whole number
have no zero in front, and what `separate` puts together are the elements of an array or the
members of an object.

Since a text stands for one value at most, nothing is lost on the way.  A mapping without
floating-point numbers is read back from its JSON up to one difference (`Params.json_readBack`):
signed and unsigned integers are both written as the number that they are.
-/

namespace EventDispatch

namespace Text.Json

/-! ## Strings -/

theorem hexValue?_hexDigit {value : Nat} (hvalue : value < 16) :
    hexValue? (hexDigit value) = some value := by
  decide +revert

theorem codeUnit_control {point : Nat} (hpoint : point < 32) :
    CodeUnit ['0', '0', hexDigit (point / 16), hexDigit (point % 16)] point := by
  have hunit : CodeUnit ['0', '0', hexDigit (point / 16), hexDigit (point % 16)]
      (16 * (16 * (16 * 0 + 0) + point / 16) + point % 16) :=
    .digits rfl rfl (hexValue?_hexDigit (by omega)) (hexValue?_hexDigit (by omega))
  have hvalue : 16 * (16 * (16 * 0 + 0) + point / 16) + point % 16 = point := by omega
  rwa [hvalue] at hunit

theorem written_escapeChar (c : Char) : Written (escapeChar c) c := by
  unfold escapeChar
  split_ifs with hquote hescape hnewline hreturn htab hbackspace hfeed hcontrol
  · subst hquote
    exact .short rfl
  · subst hescape
    exact .short rfl
  · subst hnewline
    exact .short rfl
  · subst hreturn
    exact .short rfl
  · subst htab
    exact .short rfl
  · subst hbackspace
    exact .short rfl
  · subst hfeed
    exact .short rfl
  · -- Control characters are far below the surrogates.
    have hhigh : isHighSurrogate c.toNat = false := by
      simp only [isHighSurrogate, Bool.and_eq_false_iff, decide_eq_false_iff_not]
      omega
    have hlow : isLowSurrogate c.toNat = false := by
      simp only [isLowSurrogate, Bool.and_eq_false_iff, decide_eq_false_iff_not]
      omega
    have hwritten := Written.point (codeUnit_control hcontrol) hhigh hlow
    rwa [Char.ofNat_toNat] at hwritten
  · exact .plain hquote hescape (Nat.not_lt.mp hcontrol)

theorem characters_escape (text : List Char) : Characters (text.flatMap escapeChar) text := by
  induction text with
  | nil => exact .nil
  | cons c rest ih => exact .cons (written_escapeChar c) ih

theorem spells_quote (text : String) : Spells (quoteChars text.toList) (.value (.string text)) :=
  .string (characters_escape text.toList)

/-! ## Whole numbers -/

theorem head?_toDigits_ne_zero {n : Nat} (hpos : 0 < n) :
    (Nat.toDigits 10 n).head? ≠ some '0' := by
  induction n using Nat.strongRecOn with
  | ind n ih =>
      by_cases hlt : n < 10
      · have hdigit : ∀ d < 10, 0 < d → d.digitChar ≠ '0' := by decide
        rw [Nat.toDigits_of_lt_base hlt, List.head?_cons]
        exact fun hzero => hdigit n hlt hpos (Option.some.inj hzero)
      · -- The first digit is that of the number without its last digit.
        rw [Nat.toDigits_of_base_le (by decide) (by omega), List.head?_append]
        obtain ⟨c, others, heq⟩ :=
          List.exists_cons_of_ne_nil (Nat.toDigits_ne_nil : Nat.toDigits 10 (n / 10) ≠ [])
        have hhead := ih (n / 10) (by omega) (by omega)
        rw [heq] at hhead ⊢
        exact hhead

theorem whole_toDigits (n : Nat) : Whole (Nat.toDigits 10 n) := by
  have hdigits : ∀ c ∈ Nat.toDigits 10 n, c.isDigit = true := fun c hc =>
    Nat.isDigit_of_mem_toDigits (by decide) (by decide) hc
  refine ⟨⟨Nat.toDigits_ne_nil, hdigits⟩, fun hzero => ?_⟩
  by_cases hpos : 0 < n
  · exact absurd hzero (head?_toDigits_ne_zero hpos)
  · rw [Nat.eq_zero_of_not_pos hpos]
    rfl

theorem number_toString (value : Int) : Number (toString value).toList (.whole value) := by
  cases value with
  | ofNat n =>
      have hnumber := Number.whole (whole_toDigits n)
      rw [Nat.ofDigitChars_ten_toDigits] at hnumber
      change Number n.repr.toList _
      rwa [Nat.toList_repr]
  | negSucc n =>
      have hnumber := Number.negative (whole_toDigits (n + 1))
      rw [Nat.ofDigitChars_ten_toDigits] at hnumber
      change Number ("-" ++ (n + 1).repr).toList _
      rw [String.toList_append, Nat.toList_repr]
      exact hnumber

/-! ## Values -/

theorem spells_truth (value : Bool) : Spells (truthChars value) (.value (.truth value)) := by
  cases value with
  | true => exact .yes
  | false => exact .no

theorem Spells.alone {text : List Char} {value : Value} (hvalue : Spells text (.value value)) :
    Spells text (.element value) := by
  have helement : Spells ([] ++ text ++ []) (.element value) := .element nofun hvalue nofun
  rwa [List.nil_append, List.append_nil] at helement

mutual

/-- Each number of the value that is not whole is written as one. -/
def WellWritten : Value → Prop
  | .null | .truth _ | .whole _ | .string _ => True
  | .number written => Number written.toList (.number written)
  | .list items => ItemsWellWritten items
  | .object entries => EntriesWellWritten entries

/-- All items are well written. -/
def ItemsWellWritten : List Value → Prop
  | [] => True
  | item :: rest => WellWritten item ∧ ItemsWellWritten rest

/-- The values of all entries are well written. -/
def EntriesWellWritten : List (String × Value) → Prop
  | [] => True
  | (_, value) :: rest => WellWritten value ∧ EntriesWellWritten rest

end

theorem Spells.entry {key : String} {text : List Char} {value : Value}
    (hvalue : Spells text (.value value)) :
    Spells (quoteChars key.toList ++ ':' :: text) (.member key value) := by
  have hmember : Spells ([] ++ '"' :: (key.toList.flatMap escapeChar ++ '"' :: ([] ++ ':' :: text)))
      (.member key value) := .member nofun (characters_escape key.toList) nofun hvalue.alone
  simpa [quoteChars] using hmember

mutual

/-- Without blanks, a well-written value is a way to write the value. -/
theorem spells_compactChars :
    ∀ value : Value, WellWritten value → Spells (compactChars value) (.value value)
  | .null, _ => .null
  | .truth value, _ => spells_truth value
  | .whole value, _ => .number (number_toString value)
  | .number _, hwritten => .number hwritten
  | .string value, _ => spells_quote value
  | .list [], _ => @Spells.emptyArray [] nofun
  | .list (item :: rest), hwritten =>
      .array (spells_compactItems (item :: rest) hwritten (List.cons_ne_nil _ _))
  | .object [], _ => @Spells.emptyObject [] nofun
  | .object (entry :: rest), hwritten =>
      .object (spells_compactEntries (entry :: rest) hwritten (List.cons_ne_nil _ _))

theorem spells_compactItems : ∀ items : List Value, ItemsWellWritten items → items ≠ [] →
    Spells (separate (compactItems items)) (.elements items)
  | [], _, hsome => absurd rfl hsome
  | [item], hwritten, _ => .lastElement (spells_compactChars item hwritten.1).alone
  | item :: next :: rest, hwritten, _ =>
      .nextElement (spells_compactChars item hwritten.1).alone
        (spells_compactItems (next :: rest) hwritten.2 (List.cons_ne_nil _ _))

theorem spells_compactEntries : ∀ entries : List (String × Value), EntriesWellWritten entries →
    entries ≠ [] → Spells (separate (compactEntries entries)) (.members entries)
  | [], _, hsome => absurd rfl hsome
  | [(_, value)], hwritten, _ => .lastMember (spells_compactChars value hwritten.1).entry
  | (_, value) :: next :: rest, hwritten, _ =>
      .nextMember (spells_compactChars value hwritten.1).entry
        (spells_compactEntries (next :: rest) hwritten.2 (List.cons_ne_nil _ _))

end

theorem entriesWellWritten_iff {entries : List (String × Value)} :
    EntriesWellWritten entries ↔ ∀ entry ∈ entries, WellWritten entry.2 := by
  induction entries with
  | nil => simp [EntriesWellWritten]
  | cons entry rest ih => rw [EntriesWellWritten, ih, List.forall_mem_cons]

/-- The compact text of a well-written value stands for the value. -/
theorem denotes_compact {value : Value} (hwritten : WellWritten value) :
    Denotes (compact value) value := by
  rw [Denotes, compact, String.toList_ofList]
  exact (spells_compactChars value hwritten).alone

end Text.Json

open Text.Json

/-! ## Values of parameters -/

namespace ParamValue

/-- The value is no floating-point number. -/
def isExact : ParamValue → Bool
  | floating _ => false
  | _ => true

/-- What a value is read back as: a string as itself, also where it looks like a number or a
truth value, and an integer of either sort as the whole number that it is. -/
inductive ReadBack : ParamValue → Value → Prop where
  | text (value : String) : ReadBack (.text value) (.string value)
  | signed (value : Int) : ReadBack (.signed value) (.whole value)
  | unsigned (value : Nat) : ReadBack (.unsigned value) (.whole value)
  | truth (value : Bool) : ReadBack (.truth value) (.truth value)

/-- The values are the same, or the same number as integers of both sorts. -/
inductive Matches : ParamValue → ParamValue → Prop where
  | same (value : ParamValue) : Matches value value
  | signedUnsigned (value : Nat) : Matches (.signed value) (.unsigned value)
  | unsignedSigned (value : Nat) : Matches (.unsigned value) (.signed value)

theorem wellWritten_json {value : ParamValue} (hexact : value.isExact = true) :
    WellWritten value.json := by
  cases value with
  | floating value => cases hexact
  | text _ | signed _ | unsigned _ | truth _ => trivial

theorem readBack_json {value : ParamValue} (hexact : value.isExact = true) :
    value.ReadBack value.json := by
  cases value with
  | text value => exact .text value
  | signed value => exact .signed value
  | unsigned value => exact .unsigned value
  | floating value => cases hexact
  | truth value => exact .truth value

/-- Values that are written alike match. -/
theorem json_eq_iff {value other : ParamValue} (hexact : value.isExact = true) :
    value.json = other.json ↔ value.Matches other := by
  constructor
  · intro heq
    cases value with
    | floating value => cases hexact
    | text value =>
        cases other with
        | text found =>
            rw [Value.string.inj heq]
            exact .same _
        | _ => cases heq
    | truth value =>
        cases other with
        | truth found =>
            rw [Value.truth.inj heq]
            exact .same _
        | _ => cases heq
    | signed value =>
        cases other with
        | signed found =>
            rw [Value.whole.inj heq]
            exact .same _
        | unsigned found =>
            rw [Value.whole.inj heq]
            exact .signedUnsigned found
        | _ => cases heq
    | unsigned value =>
        cases other with
        | signed found =>
            rw [← Value.whole.inj heq]
            exact .unsignedSigned value
        | unsigned found =>
            rw [Int.natCast_inj.mp (Value.whole.inj heq)]
            exact .same _
        | _ => cases heq
  · intro hmatches
    cases hmatches with
    | same | signedUnsigned | unsignedSigned => rfl

end ParamValue

/-! ## Mappings -/

namespace Params

/-- No value of the mapping is a floating-point number. -/
def IsExact (params : Params) : Prop :=
  ∀ entry ∈ params.toList, entry.2.isExact = true

/-- An object has the entries of the mapping in their order. -/
def ReadBack (params : Params) (read : List (String × Value)) : Prop :=
  List.Forall₂ (fun entry found => found.1 = entry.1 ∧ entry.2.ReadBack found.2) params.toList read

/-- The mappings have the same keys in the same order and matching values under them. -/
def Matches (params other : Params) : Prop :=
  List.Forall₂ (fun entry found => entry.1 = found.1 ∧ entry.2.Matches found.2)
    params.toList other.toList

/-- The entries of the object that the mapping is written as. -/
def jsonEntries (params : Params) : List (String × Value) :=
  params.toList.map fun entry => (entry.1, entry.2.json)

theorem IsExact.denotes {params : Params} (hexact : params.IsExact) :
    Denotes (compact params.json) (.object params.jsonEntries) := by
  refine denotes_compact (entriesWellWritten_iff.mpr ?_)
  intro found hfound
  obtain ⟨entry, hentry, rfl⟩ := List.mem_map.mp hfound
  exact ParamValue.wellWritten_json (hexact entry hentry)

theorem IsExact.readBack {params : Params} (hexact : params.IsExact) :
    params.ReadBack params.jsonEntries := by
  rw [ReadBack, jsonEntries, List.forall₂_map_right_iff, List.forall₂_same]
  exact fun entry hentry => ⟨rfl, ParamValue.readBack_json (hexact entry hentry)⟩

theorem map_fst_jsonEntries (params : Params) : params.jsonEntries.map Prod.fst = params.keys := by
  rw [jsonEntries, List.map_map]
  rfl

theorem jsonEntries_eq_iff {params other : Params} (hexact : params.IsExact) :
    params.jsonEntries = other.jsonEntries ↔ params.Matches other := by
  rw [jsonEntries, jsonEntries, ← List.forall₂_eq_eq_eq, List.forall₂_map_left_iff,
    List.forall₂_map_right_iff, Matches]
  constructor
  · intro hequal
    have hboth := (List.forall₂_and_left _ _).mpr ⟨hexact, hequal⟩
    refine hboth.imp ?_
    rintro entry found ⟨hentry, heq⟩
    obtain ⟨hkey, hvalue⟩ := Prod.mk.inj heq
    exact ⟨hkey, (ParamValue.json_eq_iff hentry).mp hvalue⟩
  · intro hmatches
    have hboth := (List.forall₂_and_left _ _).mpr ⟨hexact, hmatches⟩
    refine hboth.imp ?_
    rintro entry found ⟨hentry, hkey, hvalue⟩
    rw [hkey, (ParamValue.json_eq_iff hentry).mpr hvalue]

theorem IsExact.compact_eq_iff {params other : Params} (hexact : params.IsExact)
    (hother : other.IsExact) :
    compact params.json = compact other.json ↔ params.Matches other := by
  rw [← jsonEntries_eq_iff hexact]
  constructor
  · intro htext
    have hdenotes := hother.denotes
    rw [← htext] at hdenotes
    exact Value.object.inj (hexact.denotes.unique hdenotes)
  · intro hentries
    exact congrArg (compact ∘ Value.object) hentries

/-- The JSON of a mapping without floating-point numbers stands for one object and for nothing
else.  Its keys are those that were inserted, each once and in order of first insertion, and
under each is the string, the number or the truth value that the mapping has there.  Mappings
with the same text differ in the sort of some integers at most. -/
theorem json_readBack {entries : List (String × ParamValue)} (hexact : (ofList entries).IsExact) :
    let params := ofList entries
    ∃ read, (∀ value, Denotes (compact params.json) value ↔ value = .object read) ∧
      read? (compact params.json) = some (.object read) ∧
      read.map Prod.fst = (entries.map Prod.fst).eraseDups ∧ (read.map Prod.fst).Nodup ∧
      params.ReadBack read ∧
      ∀ others, (ofList others).IsExact →
        (compact params.json = compact (ofList others).json ↔ params.Matches (ofList others)) := by
  intro params
  have hdenotes : Denotes (compact params.json) (.object params.jsonEntries) := hexact.denotes
  have hkeys : params.jsonEntries.map Prod.fst = params.keys := map_fst_jsonEntries params
  refine ⟨params.jsonEntries, ?_, read?_eq_some_iff.mpr hdenotes, ?_, ?_, hexact.readBack, ?_⟩
  · intro value
    constructor
    · intro hvalue
      exact hvalue.unique hdenotes
    · rintro rfl
      exact hdenotes
  · rw [hkeys, keys_ofList]
  · rw [hkeys]
    exact nodup_keys_ofList entries
  · exact fun others hothers => hexact.compact_eq_iff hothers

end Params

/-- Keys and strings with characters that are escaped or look like JSON, the least and the
greatest integers, and a key that is inserted twice. -/
def trickyEntries : List (String × ParamValue) :=
  [("a\"b\\\x01\n", .text "true"), ("", .text "3"), ("least", .signed (-9223372036854775808)),
    ("greatest", .unsigned 18446744073709551615), ("", .text "\x7b\"é\x7f"), ("yes", .truth true)]

open Params in
theorem readBack_tricky : (ofList trickyEntries).IsExact ∧ ∃ read,
    Denotes ("\x7b\"a\\\"b\\\\\\u0001\\n\":\"true\",\"\":\"\x7b\\\"é\x7f\"," ++
      "\"least\":-9223372036854775808,\"greatest\":18446744073709551615,\"yes\":true\x7d")
        (.object read) ∧
      read.map Prod.fst = ["a\"b\\\x01\n", "", "least", "greatest", "yes"] ∧
      (ofList trickyEntries).ReadBack read := by
  have hexact : (ofList trickyEntries).IsExact := by
    unfold IsExact
    decide +kernel
  have htext : compact (ofList trickyEntries).json =
      "\x7b\"a\\\"b\\\\\\u0001\\n\":\"true\",\"\":\"\x7b\\\"é\x7f\"," ++
      "\"least\":-9223372036854775808,\"greatest\":18446744073709551615,\"yes\":true\x7d" := by
    decide +kernel
  have hkeys : (trickyEntries.map Prod.fst).eraseDups =
      ["a\"b\\\x01\n", "", "least", "greatest", "yes"] := by
    decide +kernel
  obtain ⟨read, hdenotes, -, hread, -, hback, -⟩ := Params.json_readBack hexact
  rw [hkeys] at hread
  exact ⟨hexact, read, htext ▸ (hdenotes _).mpr rfl, hread, hback⟩

end EventDispatch
