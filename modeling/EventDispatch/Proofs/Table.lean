import Mathlib.Data.List.Induction
import EventDispatch.Declaration.Index
import EventDispatch.Proofs.Params

/-!
# The table as a map in order of first insertion

Two views say all there is to say about a table: the order of the paths, and what
`get?` finds at each of them.  Adding a declaration keeps the order of known paths
and appends a new one (`paths_add`), and changes what lies at one path only
(`get?_add`).  So the paths of a table are those added, each where it occurs first
(`paths_extend`), and at each of them lies the declaration added last
(`get?_extend`).

In memory the same table is an array with an index beside it.  `Coherent` ties the
two together: the index gives the place of exactly the paths of the array, and each
place is that of a declaration with the path.  Every step keeps this
(`Coherent.exists_add`), so that no access is ever out of range and the array holds
what the table holds (`ofCalls_eq_ok`).
-/

namespace EventDispatch

/-- The declaration with a path that was added last. -/
def lastAdded? (added : List Declaration) (path : String) : Option Declaration :=
  added.reverse.find? fun declaration => declaration.path == path

namespace Table

/-- The paths of a table, in its order. -/
def paths (table : Table) : List String :=
  table.toList.map Declaration.path

/-! ## One declaration -/

theorem map_path_place (declaration : Declaration) (declarations : List Declaration) :
    (place declaration declarations).map Declaration.path =
      if declaration.path ∈ declarations.map Declaration.path
      then declarations.map Declaration.path
      else declarations.map Declaration.path ++ [declaration.path] := by
  induction declarations with
  | nil => rfl
  | cons first rest ih =>
      by_cases hpath : first.path = declaration.path
      · simp [place, hpath]
      · have hne : declaration.path ≠ first.path := Ne.symm hpath
        simp only [place, if_neg hpath, List.map_cons, ih, List.mem_cons, hne, false_or]
        split <;> rfl

theorem find?_path_cons (declaration : Declaration) (path : String)
    (declarations : List Declaration) :
    (declaration :: declarations).find? (fun other => other.path == path) =
      if declaration.path = path then some declaration
      else declarations.find? fun other => other.path == path := by
  by_cases hpath : declaration.path = path
  · rw [List.find?_cons_of_pos (by simpa using hpath), if_pos hpath]
  · rw [List.find?_cons_of_neg (by simpa using hpath), if_neg hpath]

theorem find?_place (declaration : Declaration) (path : String)
    (declarations : List Declaration) :
    (place declaration declarations).find? (fun other => other.path == path) =
      if declaration.path = path then some declaration
      else declarations.find? fun other => other.path == path := by
  induction declarations with
  | nil => exact find?_path_cons declaration path []
  | cons first rest ih =>
      by_cases hpath : first.path = declaration.path
      · rw [place, if_pos hpath, find?_path_cons, find?_path_cons, hpath]
        split <;> rfl
      · rw [place, if_neg hpath, find?_path_cons, ih, find?_path_cons]
        by_cases hwanted : declaration.path = path
        · have hne : first.path ≠ path := fun heq => hpath (heq.trans hwanted.symm)
          rw [if_neg hne, if_pos hwanted, if_pos hwanted]
        · rw [if_neg hwanted, if_neg hwanted]

theorem paths_add (table : Table) (declaration : Declaration) :
    (table.add declaration).paths =
      if declaration.path ∈ table.paths then table.paths
      else table.paths ++ [declaration.path] :=
  map_path_place declaration table.toList

theorem get?_add (table : Table) (declaration : Declaration) (path : String) :
    (table.add declaration).get? path =
      if declaration.path = path then some declaration else table.get? path :=
  find?_place declaration path table.toList

/-! ## Many declarations -/

theorem extend_concat (table : Table) (added : List Declaration) (declaration : Declaration) :
    table.extend (added ++ [declaration]) = (table.extend added).add declaration := by
  simp [extend]

theorem extend_append (table : Table) (added more : List Declaration) :
    table.extend (added ++ more) = (table.extend added).extend more :=
  List.foldl_append

/-- The paths are those added, each where it occurs first. -/
theorem paths_extend (added : List Declaration) :
    (empty.extend added).paths = (added.map Declaration.path).eraseDups := by
  induction added using List.reverseRecOn with
  | nil => rfl
  | append_singleton added declaration ih =>
      rw [extend_concat, paths_add, ih, List.map_append, List.map_singleton, eraseDups_concat]
      simp only [List.mem_eraseDups]

/-- At each path lies the declaration that was added last. -/
theorem get?_extend (added : List Declaration) (path : String) :
    (empty.extend added).get? path = lastAdded? added path := by
  induction added using List.reverseRecOn with
  | nil => rfl
  | append_singleton added declaration ih =>
      rw [extend_concat, get?_add, ih, lastAdded?, lastAdded?, List.reverse_append,
        List.reverse_singleton, List.singleton_append, find?_path_cons]

/-- Where the paths are distinct, looking for that of a declaration finds it. -/
theorem get?_path_of_mem {table : Table} (hnodup : table.paths.Nodup) {declaration : Declaration}
    (hmem : declaration ∈ table.toList) : table.get? declaration.path = some declaration := by
  have hkeys : (table.toList.map Declaration.path).Nodup := hnodup
  exact find?_key_eq_some hkeys hmem

theorem lastAdded?_eq_none_iff {added : List Declaration} {path : String} :
    lastAdded? added path = none ↔ path ∉ added.map Declaration.path := by
  simp only [lastAdded?, List.find?_eq_none, List.mem_reverse, beq_iff_eq, List.mem_map, not_exists,
    not_and]

end Table

/-! ## Places in the array -/

theorem place_append_of_notMem {declaration : Declaration} {front : List Declaration}
    (hnew : declaration.path ∉ front.map Declaration.path) (back : List Declaration) :
    Table.place declaration (front ++ back) = front ++ Table.place declaration back := by
  induction front with
  | nil => rfl
  | cons first rest ih =>
      rw [List.map_cons, List.mem_cons, not_or] at hnew
      rw [List.cons_append, Table.place, if_neg (Ne.symm hnew.1), ih hnew.2, List.cons_append]

theorem place_of_notMem {declaration : Declaration} {declarations : List Declaration}
    (hnew : declaration.path ∉ declarations.map Declaration.path) :
    Table.place declaration declarations = declarations ++ [declaration] := by
  simpa [Table.place] using place_append_of_notMem hnew []

/-- A list with one more element has it in the place behind the others. -/
theorem map_getElem?_concat_eq_some_iff {α β : Type} {f : α → β} {xs : List α} {x : α}
    {place : Nat} {y : β} :
    (xs ++ [x])[place]?.map f = some y ↔
      xs[place]?.map f = some y ∨ place = xs.length ∧ f x = y := by
  rcases Nat.lt_trichotomy place xs.length with hlt | rfl | hgt
  · rw [List.getElem?_append_left hlt]
    simp [Nat.ne_of_lt hlt]
  · rw [List.getElem?_concat_length, List.getElem?_eq_none (Nat.le_refl _)]
    simp
  · rw [List.getElem?_eq_none (by rw [List.length_append]; exact hgt),
      List.getElem?_eq_none (Nat.le_of_lt hgt)]
    simp [Nat.ne_of_gt hgt]

/-- A known path has one place, and the new declaration goes there. -/
theorem place_eq_set {declaration : Declaration} {declarations : List Declaration}
    (hnodup : (declarations.map Declaration.path).Nodup) {place : Nat}
    (hplace : declarations[place]?.map Declaration.path = some declaration.path) :
    Table.place declaration declarations = declarations.set place declaration := by
  induction declarations generalizing place with
  | nil => simp at hplace
  | cons first rest ih =>
      rw [List.map_cons, List.nodup_cons] at hnodup
      cases place with
      | zero =>
          have hfirst : first.path = declaration.path := by simpa using hplace
          rw [Table.place, if_pos hfirst, List.set_cons_zero]
      | succ place =>
          rw [List.getElem?_cons_succ] at hplace
          obtain ⟨found, hfound, hpath⟩ := Option.map_eq_some_iff.mp hplace
          have hne : first.path ≠ declaration.path := by
            rintro heq
            refine hnodup.1 ?_
            rw [heq, ← hpath]
            exact List.mem_map_of_mem (List.mem_of_getElem? hfound)
          rw [Table.place, if_neg hne, ih hnodup.2 hplace, List.set_cons_succ]

namespace IndexedTable

/-- No path stands twice in the array, and the index gives the place of exactly the
paths that stand there. -/
structure Coherent (table : IndexedTable) : Prop where
  nodup : table.toTable.paths.Nodup
  places : ∀ path place, table.places[path]? = some place ↔
    table.toTable.toList[place]?.map Declaration.path = some path

theorem coherent_empty : empty.Coherent where
  nodup := List.nodup_nil
  places := by simp [empty, toTable]

namespace Coherent

variable {table : IndexedTable}

/-- No place of the index is out of range. -/
theorem place_lt (hcoherent : table.Coherent) {path : String} {place : Nat}
    (hplace : table.places[path]? = some place) : place < table.declarations.size := by
  obtain ⟨found, hfound, _⟩ := Option.map_eq_some_iff.mp ((hcoherent.places path place).mp hplace)
  exact (List.getElem?_eq_some_iff.mp hfound).1

theorem mem_paths_iff (hcoherent : table.Coherent) (path : String) :
    path ∈ table.toTable.paths ↔ ∃ place, table.places[path]? = some place := by
  simp only [hcoherent.places]
  constructor
  · intro hmem
    obtain ⟨declaration, hdeclaration, rfl⟩ := List.mem_map.mp hmem
    obtain ⟨place, hplace⟩ := List.getElem?_of_mem hdeclaration
    exact ⟨place, by rw [hplace, Option.map_some]⟩
  · rintro ⟨place, hplace⟩
    obtain ⟨found, hfound, rfl⟩ := Option.map_eq_some_iff.mp hplace
    exact List.mem_map_of_mem (List.mem_of_getElem? hfound)

/-- Looking for a path never fails, and finds what the table has there. -/
theorem get?_eq (hcoherent : table.Coherent) (path : String) :
    table.get? path = .ok (table.toTable.get? path) := by
  unfold IndexedTable.get?
  cases hplace : table.places[path]? with
  | none =>
      have hnew : path ∉ table.toTable.paths := by
        rw [hcoherent.mem_paths_iff, hplace]
        simp
      have hnone : table.toTable.get? path = none := by
        simp only [Table.get?, List.find?_eq_none, beq_iff_eq]
        exact fun declaration hmem heq => hnew (heq ▸ List.mem_map_of_mem hmem)
      rw [hnone]
  | some place =>
      obtain ⟨found, hfound, rfl⟩ :=
        Option.map_eq_some_iff.mp ((hcoherent.places path place).mp hplace)
      have hmem : found ∈ table.toTable.toList := List.mem_of_getElem? hfound
      have harray : table.declarations[place]? = some found := by
        rw [← Array.getElem?_toList]
        exact hfound
      rw [Table.get?_path_of_mem hcoherent.nodup hmem]
      simp only [harray]

/-- A new path goes to the end of the array, and its place is the one behind the others. -/
theorem push (hcoherent : table.Coherent) {declaration : Declaration}
    (hnew : declaration.path ∉ table.toTable.paths) :
    Coherent {
      declarations := table.declarations.push declaration
      places := table.places.insert declaration.path table.declarations.size } where
  nodup := by
    have hpaths := Table.paths_add table.toTable declaration
    rw [if_neg hnew, Table.add, place_of_notMem hnew] at hpaths
    simp only [toTable, Array.toList_push] at hpaths ⊢
    rw [hpaths, ← List.concat_eq_append, List.nodup_concat]
    exact ⟨hnew, hcoherent.nodup⟩
  places := by
    intro path place
    have hfree : ∀ place, table.places[declaration.path]? ≠ some place := fun place hplace =>
      hnew ((hcoherent.mem_paths_iff _).mpr ⟨place, hplace⟩)
    simp only [toTable, Array.toList_push, map_getElem?_concat_eq_some_iff]
    rw [Std.HashMap.getElem?_insert, Array.length_toList]
    by_cases hpath : declaration.path = path
    · -- The new path stands behind the others and in no other place.
      subst hpath
      rw [if_pos (beq_self_eq_true _), Option.some.injEq]
      constructor
      · rintro rfl
        exact .inr ⟨rfl, rfl⟩
      · rintro (hother | ⟨hplace, -⟩)
        · exact absurd ((hcoherent.places _ _).mpr hother) (hfree place)
        · exact hplace.symm
    · rw [if_neg (by simpa using hpath), hcoherent.places]
      simp [hpath, toTable]

/-- A known path keeps its place, and only what lies there changes. -/
theorem set (hcoherent : table.Coherent) {declaration : Declaration} {place : Nat}
    (hplace : table.places[declaration.path]? = some place)
    (hinside : place < table.declarations.size) :
    Coherent { table with
      declarations := table.declarations.set place declaration hinside } where
  nodup := by
    have hmem : declaration.path ∈ table.toTable.paths :=
      (hcoherent.mem_paths_iff _).mpr ⟨place, hplace⟩
    have hpaths := Table.paths_add table.toTable declaration
    rw [if_pos hmem, Table.add,
      place_eq_set hcoherent.nodup ((hcoherent.places _ _).mp hplace)] at hpaths
    simp only [toTable, Array.toList_set] at hpaths ⊢
    rw [hpaths]
    exact hcoherent.nodup
  places := by
    intro path other
    simp only [hcoherent.places, toTable, Array.toList_set, List.getElem?_set]
    split
    · rename_i heq
      subst heq
      have hold := (hcoherent.places _ _).mp hplace
      rw [toTable] at hold
      rw [hold, if_pos (by simpa using hinside), Option.map_some]
    · rfl

/-- Adding a declaration never fails, and keeps the index in step with the array. -/
theorem exists_add (hcoherent : table.Coherent) (declaration : Declaration) :
    ∃ later, table.add declaration = .ok later ∧ later.Coherent ∧
      later.toTable = table.toTable.add declaration := by
  unfold IndexedTable.add
  cases hplace : table.places[declaration.path]? with
  | none =>
      have hnew : declaration.path ∉ table.toTable.paths := by
        rw [hcoherent.mem_paths_iff, hplace]
        simp
      refine ⟨_, rfl, hcoherent.push hnew, ?_⟩
      rw [Table.add, place_of_notMem hnew]
      simp [toTable]
  | some place =>
      have hinside := hcoherent.place_lt hplace
      simp only [hinside, ↓reduceDIte]
      refine ⟨_, rfl, hcoherent.set hplace hinside, ?_⟩
      rw [Table.add, place_eq_set hcoherent.nodup ((hcoherent.places _ _).mp hplace)]
      simp [toTable]

/-- Nor does adding declarations one by one. -/
theorem exists_extend (declarations : List Declaration) :
    ∀ {table : IndexedTable}, table.Coherent →
      ∃ later, table.extend declarations = .ok later ∧ later.Coherent ∧
        later.toTable = table.toTable.extend declarations := by
  induction declarations with
  | nil => exact fun {table} hcoherent => ⟨table, rfl, hcoherent, rfl⟩
  | cons declaration rest ih =>
      intro table hcoherent
      obtain ⟨middle, hadd, hmiddle, hview⟩ := hcoherent.exists_add declaration
      obtain ⟨later, hextend, hlater, hrest⟩ := ih hmiddle
      refine ⟨later, ?_, hlater, ?_⟩
      · rw [extend, List.foldlM_cons, hadd]
        exact hextend
      · rw [hrest, hview]
        rfl

theorem exists_run (hcoherent : table.Coherent) (call : TableCall) :
    ∃ later, call.run table = .ok later ∧ later.Coherent ∧
      later.toTable = table.toTable.extend call.added := by
  cases call with
  | add declaration => exact hcoherent.exists_add declaration
  | extend declarations => exact exists_extend declarations hcoherent

end Coherent

/-- However a table is called, no access fails, the index stays in step, and the array
holds what the table holds after the same declarations. -/
theorem exists_ofCalls (calls : List TableCall) :
    ∃ table, ofCalls calls = .ok table ∧ table.Coherent ∧
      table.toTable = Table.empty.extend (calls.flatMap TableCall.added) := by
  induction calls using List.reverseRecOn with
  | nil => exact ⟨empty, rfl, coherent_empty, rfl⟩
  | append_singleton calls call ih =>
      obtain ⟨middle, hcalls, hmiddle, hview⟩ := ih
      obtain ⟨later, hrun, hlater, hlast⟩ := hmiddle.exists_run call
      refine ⟨later, ?_, hlater, ?_⟩
      · rw [ofCalls, List.foldlM_append]
        change (ofCalls calls >>= _) = _
        rw [hcalls]
        change (call.run middle >>= pure) = _
        rw [hrun]
        rfl
      · rw [hlast, hview, List.flatMap_append, List.flatMap_singleton, Table.extend_append]

/-- A table is a map in order of first insertion.  After any calls its paths are those
added, each once and where it was added first; at each path lies the declaration added
last, and at any other nothing; the counts are those of the declarations that are
still there; and every place of the index is one of the array, so that no call fails. -/
theorem ofCalls_eq_ok (calls : List TableCall) :
    let added := calls.flatMap TableCall.added
    ∃ table, ofCalls calls = .ok table ∧
      table.toTable = Table.empty.extend added ∧
      table.toTable.paths.Nodup ∧
      table.toTable.paths = (added.map Declaration.path).eraseDups ∧
      (∀ declaration ∈ table.toTable.toList,
        lastAdded? added declaration.path = some declaration) ∧
      (∀ path, table.get? path = .ok (lastAdded? added path) ∧
        table.toTable.get? path = lastAdded? added path) ∧
      (∀ path, table.get? path = .ok none ↔ path ∉ added.map Declaration.path) ∧
      table.size = (added.map Declaration.path).eraseDups.length ∧
      (∀ marker, table.marked marker =
          table.toTable.toList.filter (fun declaration => marker ∈ declaration.markers) ∧
        table.stats marker = table.toTable.stats marker ∧
        table.stats marker = {
          declarations := table.toTable.toList.length
          marked := (table.marked marker).length
          members := (table.toTable.toList.flatMap Declaration.members).length }) ∧
      (∀ (path : String) (place : Nat), table.places[path]? = some place →
        place < table.declarations.size) ∧
      ∀ declaration, ∃ later, table.add declaration = .ok later := by
  intro added
  obtain ⟨table, hcalls, hcoherent, hview⟩ := exists_ofCalls calls
  have hpaths : table.toTable.paths = (added.map Declaration.path).eraseDups := by
    rw [hview, Table.paths_extend]
  have hget : ∀ path, table.toTable.get? path = lastAdded? added path := by
    intro path
    rw [hview, Table.get?_extend]
  have hmarked : ∀ marker, table.marked marker =
      table.toTable.toList.filter (fun declaration => marker ∈ declaration.markers) := by
    intro marker
    exact List.filter_congr fun declaration _ => by simp [Declaration.hasMarker]
  have hstats : ∀ marker, table.stats marker = table.toTable.stats marker := by
    intro marker
    simp [stats, Table.stats, Table.size, size, marked, Table.marked, toTable, List.length_flatMap]
  refine ⟨table, hcalls, hview, hcoherent.nodup, hpaths, ?_, ?_, ?_, ?_, ?_, ?_, ?_⟩
  · intro declaration hmem
    rw [← hget, Table.get?_path_of_mem hcoherent.nodup hmem]
  · intro path
    exact ⟨by rw [hcoherent.get?_eq, hget], hget path⟩
  · intro path
    rw [hcoherent.get?_eq, hget, Except.ok.injEq, Table.lastAdded?_eq_none_iff]
  · rw [← hpaths, Table.paths, List.length_map]
    rfl
  · intro marker
    exact ⟨hmarked marker, hstats marker, hstats marker⟩
  · exact fun path place hplace => hcoherent.place_lt hplace
  · intro declaration
    obtain ⟨later, hadd, _⟩ := hcoherent.exists_add declaration
    exact ⟨later, hadd⟩

end IndexedTable

end EventDispatch
