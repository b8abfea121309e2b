import EventDispatch.FileTree
import EventDispatch.Proofs.Path
import EventDispatch.Proofs.Result

/-!
# Where a path leads, and what a write changes

A path that can be followed leads to a place that its text and the working
directory tell by themselves: `FileTree.lexical` walks along the names of the
path without looking at the tree.  So the place stays the same while files are
written, and `Wrote` can say of a write which location it changes: the lexical
one of its path, and no other.

What a write keeps is a relation of its own (`Grows`): directories stay
directories, and whatever lay somewhere still has something there.  A path that
could be followed can therefore still be followed later.
-/

namespace EventDispatch

namespace FileTree

/-! ## Nodes -/

section Nodes

variable {tree : FileTree} {location other : Location} {node : FileNode}

theorem lookup_place (location other : Location) (node : FileNode)
    (nodes : List (Location × FileNode)) :
    (place location node nodes).lookup other =
      if other = location then some node else nodes.lookup other := by
  induction nodes with
  | nil => exact lookup_cons_eq_ite (location, node) [] other
  | cons entry rest ih =>
      by_cases hlocation : entry.1 = location
      · rw [place, if_pos hlocation, lookup_cons_eq_ite, lookup_cons_eq_ite, hlocation]
        split <;> rfl
      · rw [place, if_neg hlocation, lookup_cons_eq_ite, ih, lookup_cons_eq_ite]
        by_cases hother : other = location
        · have hne : other ≠ entry.1 := fun heq => hlocation (heq.symm.trans hother)
          rw [if_neg hne, if_pos hother, if_pos hother]
        · rw [if_neg hother, if_neg hother]

theorem get?_put_self (hlocation : location ≠ []) :
    (tree.put location node).get? location = some node := by
  simp [get?, put, lookup_place, hlocation]

theorem get?_put_of_ne (hne : other ≠ location) :
    (tree.put location node).get? other = tree.get? other := by
  simp [get?, put, lookup_place, hne]

theorem get?_eq_none (hlocation : location ≠ []) (hplaces : location ∉ tree.nodes.map Prod.fst) :
    tree.get? location = none := by
  have hnone : tree.nodes.lookup location = none := by
    rw [List.lookup_eq_none_iff]
    intro entry hentry
    have hne : location ≠ entry.1 := fun heq =>
      hplaces (heq ▸ List.mem_map_of_mem hentry)
    exact bne_iff_ne.mpr hne
  simp [get?, hlocation, hnone]

end Nodes

/-! ## Walking along names -/

/-- One name along, without a look at the tree. -/
def walkStep (here : Location) (name : String) : Location :=
  if name = "." then here else if name = ".." then here.dropLast else here ++ [name]

/-- Names along from a location, without a look at the tree. -/
def walk (start : Location) (names : List String) : Location :=
  names.foldl walkStep start

/-- Where a path starts. -/
def origin (tree : FileTree) (path : String) : Location :=
  if Path.isAbsolute path then [] else tree.here

/-- The location that the text of a path and the working directory tell. -/
def lexical (tree : FileTree) (path : String) : Location :=
  walk (tree.origin path) (Path.names path)

section Walking

variable {tree : FileTree} {start here location : Location} {name path : String}
  {names : List String}

theorem walk_append (start : Location) (names further : List String) :
    walk start (names ++ further) = walk (walk start names) further :=
  List.foldl_append

/-- Points lead nowhere else. -/
theorem walk_points (hpoints : ∀ name ∈ names, name = ".") : walk start names = start := by
  induction names with
  | nil => rfl
  | cons name rest ih =>
      rw [List.forall_mem_cons] at hpoints
      obtain ⟨rfl, hrest⟩ := hpoints
      exact ih hrest

theorem walk_concat (start : Location) (names : List String) (name : String) :
    walk start (names ++ [name]) = walkStep (walk start names) name := by
  simp [walk]

theorem step_eq_ok_iff : tree.step here name = .ok location ↔
    tree.get? here = some .directory ∧ location = walkStep here name ∧
      (name = "." ∨ name = ".." ∨
        name.utf8ByteSize ≤ nameLimit ∧ (tree.get? (here ++ [name])).isSome = true) := by
  unfold step walkStep
  cases hnode : tree.get? here with
  | none => simp
  | some node =>
      cases node with
      | file content => simp
      | directory => grind

theorem follow_cons_eq_ok_iff : tree.follow start (name :: names) = .ok location ↔
    ∃ next, tree.step start name = .ok next ∧ tree.follow next names = .ok location :=
  bind_eq_ok_iff

/-- Following names leads where walking along them does. -/
theorem walk_of_follow (hfollow : tree.follow start names = .ok location) :
    walk start names = location := by
  induction names generalizing start with
  | nil =>
      cases hfollow
      rfl
  | cons name rest ih =>
      obtain ⟨next, hstep, hrest⟩ := follow_cons_eq_ok_iff.mp hfollow
      obtain ⟨_, rfl, _⟩ := step_eq_ok_iff.mp hstep
      exact ih hrest

theorem follow_concat_eq_ok_iff : tree.follow start (names ++ [name]) = .ok location ↔
    ∃ next, tree.follow start names = .ok next ∧ tree.step next name = .ok location := by
  rw [follow, List.foldlM_append]
  simp only [List.foldlM_cons, List.foldlM_nil, bind_pure]
  exact bind_eq_ok_iff

theorem eq_of_route {start : Location} (hroute : tree.route path = .ok (start, names)) :
    start = tree.origin path ∧ names = Path.names path := by
  unfold route at hroute
  split at hroute
  · cases hroute
  split at hroute
  · cases hroute
  split at hroute
  · cases hroute
  · cases hroute
    exact ⟨rfl, rfl⟩

/-- A name without slashes, no step and no step back, lies right in the directory. -/
theorem lexical_join (tree : FileTree) (directory : String) {fileName : String}
    (hslash : '/' ∉ fileName.toList) (hfile : fileName ≠ "") (hdot : fileName ≠ ".")
    (hdots : fileName ≠ "..") :
    tree.lexical (Path.join directory fileName) = tree.lexical directory ++ [fileName] := by
  rw [lexical, Path.names_join hslash hfile, walk_concat, walkStep, if_neg hdot, if_neg hdots]
  simp only [lexical, origin, Path.isAbsolute_join hslash]

end Walking

/-! ## What is kept -/

/-- The later tree has a directory wherever the tree has one, and something wherever
the tree has something. -/
structure Grows (tree later : FileTree) : Prop where
  here : later.here = tree.here
  directory : ∀ location, tree.get? location = some .directory →
    later.get? location = some .directory
  isSome : ∀ location, (tree.get? location).isSome = true → (later.get? location).isSome = true

namespace Grows

variable {tree later last : FileTree} {start here location : Location} {name path : String}
  {names : List String}

theorem refl (tree : FileTree) : tree.Grows tree :=
  ⟨rfl, fun _ hdirectory => hdirectory, fun _ hsome => hsome⟩

theorem trans (hfirst : tree.Grows later) (hsecond : later.Grows last) : tree.Grows last where
  here := hsecond.here.trans hfirst.here
  directory := fun location hdirectory =>
    hsecond.directory location (hfirst.directory location hdirectory)
  isSome := fun location hsome => hsecond.isSome location (hfirst.isSome location hsome)

theorem step (hgrows : tree.Grows later) (hstep : tree.step here name = .ok location) :
    later.step here name = .ok location := by
  obtain ⟨hdirectory, hlocation, hname⟩ := step_eq_ok_iff.mp hstep
  exact step_eq_ok_iff.mpr ⟨hgrows.directory here hdirectory, hlocation,
    hname.imp_right (Or.imp_right (And.imp_right (hgrows.isSome (here ++ [name]))))⟩

theorem follow (hgrows : tree.Grows later) (hfollow : tree.follow start names = .ok location) :
    later.follow start names = .ok location := by
  induction names generalizing start with
  | nil => exact hfollow
  | cons name rest ih =>
      obtain ⟨next, hstep, hrest⟩ := follow_cons_eq_ok_iff.mp hfollow
      exact follow_cons_eq_ok_iff.mpr ⟨next, hgrows.step hstep, ih hrest⟩

theorem route (hgrows : tree.Grows later) (path : String) : later.route path = tree.route path := by
  simp [FileTree.route, hgrows.here]

theorem lexical (hgrows : tree.Grows later) (path : String) :
    later.lexical path = tree.lexical path := by
  simp [FileTree.lexical, origin, hgrows.here]

/-- A path that leads somewhere still leads there later. -/
theorem locate (hgrows : tree.Grows later) (hlocate : tree.locate path = .ok location) :
    later.locate path = .ok location := by
  obtain ⟨route, hroute, hfollow⟩ := bind_eq_ok_iff.mp hlocate
  rw [FileTree.locate, hgrows.route]
  exact bind_eq_ok_iff.mpr ⟨route, hroute, hgrows.follow hfollow⟩

end Grows

/-- Putting a node where no directory is keeps what there is. -/
theorem grows_put {tree : FileTree} {location : Location} (node : FileNode)
    (hlocation : location ≠ []) (hnode : tree.get? location ≠ some .directory) :
    tree.Grows (tree.put location node) where
  here := rfl
  directory := by
    intro other hother
    have hne : other ≠ location := fun heq => hnode (heq ▸ hother)
    rw [get?_put_of_ne hne, hother]
  isSome := by
    intro other hother
    by_cases heq : other = location
    · rw [heq, get?_put_self hlocation]
      rfl
    · rw [get?_put_of_ne heq, hother]

theorem eq_of_child {directory location : Location} {name : String}
    (hchild : child directory name = .ok location) :
    location = directory ++ [name] ∧ name.utf8ByteSize ≤ nameLimit := by
  unfold child at hchild
  split at hchild
  · cases hchild
  · rename_i hsize
    cases hchild
    exact ⟨rfl, Nat.le_of_not_lt hsize⟩

/-! ## Making directories -/

section Directories

variable {tree later : FileTree} {path : String}

theorem grows_makeDirectory (hmake : tree.makeDirectory path = .ok later) : tree.Grows later := by
  obtain ⟨⟨directory, last⟩, _, hmake⟩ := bind_eq_ok_iff.mp hmake
  cases last with
  | none => cases hmake
  | some name =>
      obtain ⟨location, hchild, hmake⟩ := bind_eq_ok_iff.mp hmake
      obtain ⟨rfl, _⟩ := eq_of_child hchild
      split at hmake
      · cases hmake
      · rename_i hnone
        cases hmake
        refine grows_put .directory (by simp) fun hdirectory => hnone ?_
        rw [hdirectory]
        rfl

theorem grows_ensureDirectory (tree : FileTree) (path : String) :
    tree.Grows (tree.ensureDirectory path).1 := by
  unfold ensureDirectory
  split
  · rename_i hmake
    exact grows_makeDirectory hmake
  · exact Grows.refl tree

/-- Making a directory and those above it keeps what there is.  The induction is on
the bound; the directories above are made first. -/
theorem grows_makeAll (bound : Nat) (tree : FileTree) (path : String) :
    tree.Grows (makeAll bound tree path).1 := by
  induction bound generalizing path with
  | zero => exact Grows.refl tree
  | succ bound ih =>
      unfold makeAll
      split
      · exact Grows.refl tree
      split
      · rename_i hmake
        exact grows_makeDirectory hmake
      · split
        · exact Grows.refl tree
        · rename_i parent _
          have hparent := ih parent
          split
          · rename_i hmade
            rw [hmade] at hparent
            exact hparent
          · rename_i hmade
            rw [hmade] at hparent
            exact hparent.trans (grows_ensureDirectory _ path)
      · exact Grows.refl tree

end Directories

/-! ## Writing -/

theorem locateLast_eq_ok {tree : FileTree} {path : String} {directory : Location} {name : String}
    (hlocate : tree.locateLast path = .ok (directory, some name)) :
    tree.get? directory = some .directory ∧ name ≠ "." ∧ name ≠ ".." ∧
      ∃ start names, tree.route path = .ok (start, names ++ [name]) ∧
        tree.follow start names = .ok directory := by
  obtain ⟨⟨start, names⟩, hroute, hlast⟩ := bind_eq_ok_iff.mp hlocate
  cases hnames : names.getLast? with
  | none =>
      simp only [hnames] at hlast
      cases hlast
  | some last =>
      simp only [hnames] at hlast
      obtain ⟨reached, hfollow, hlast⟩ := bind_eq_ok_iff.mp hlast
      obtain ⟨_, hstep, hlast⟩ := bind_eq_ok_iff.mp hlast
      obtain ⟨hdirectory, _, _⟩ := step_eq_ok_iff.mp hstep
      split at hlast
      · cases hlast
      · rename_i hdots
        cases hlast
        simp only [Bool.or_eq_true, decide_eq_true_eq, not_or] at hdots
        have hconcat : names.dropLast ++ [name] = names := List.dropLast_append_getLast? name hnames
        exact ⟨hdirectory, hdots.1, hdots.2, start, names.dropLast, by rw [hconcat, hroute],
          hfollow⟩

theorem lexical_of_locateLast {tree : FileTree} {path : String} {directory : Location}
    {name : String} (hlocate : tree.locateLast path = .ok (directory, some name)) :
    tree.lexical path = directory ++ [name] := by
  obtain ⟨_, hdot, hdots, start, names, hroute, hfollow⟩ := locateLast_eq_ok hlocate
  obtain ⟨rfl, hnames⟩ := eq_of_route hroute
  rw [lexical, ← hnames, walk_concat, walk_of_follow hfollow, walkStep, if_neg hdot, if_neg hdots]

/-- What a write changes: one location below a directory, the one its path tells, to
which the path leads now. -/
structure Wrote (tree later : FileTree) (path text : String) : Prop where
  lexical_ne_nil : tree.lexical path ≠ []
  later_eq : later = tree.put (tree.lexical path) (.file text.toUTF8)
  grows : tree.Grows later
  locate : later.locate path = .ok (tree.lexical path)
  above : later.get? (tree.lexical path).dropLast = some .directory

theorem wrote_of_write {tree later : FileTree} {path text : String}
    (hwrite : tree.write path text = .ok later) : tree.Wrote later path text := by
  obtain ⟨⟨directory, last⟩, hlocate, hwrite⟩ := bind_eq_ok_iff.mp hwrite
  cases last with
  | none => cases hwrite
  | some name =>
      obtain ⟨hdirectory, hdot, hdots, start, names, hroute, hfollow⟩ := locateLast_eq_ok hlocate
      obtain ⟨rfl, hnames⟩ := eq_of_route hroute
      have hstepped : walkStep directory name = directory ++ [name] := by
        rw [walkStep, if_neg hdot, if_neg hdots]
      have hlexical : tree.lexical path = directory ++ [name] := lexical_of_locateLast hlocate
      simp only at hwrite
      split at hwrite
      · cases hwrite
      rename_i hslash
      obtain ⟨location, hchild, hwrite⟩ := bind_eq_ok_iff.mp hwrite
      obtain ⟨rfl, hsize⟩ := eq_of_child hchild
      split at hwrite
      · cases hwrite
      rename_i hnode
      cases hwrite
      have hnonempty : directory ++ [name] ≠ [] := by simp
      have hgrows := grows_put (.file text.toUTF8) hnonempty hnode
      have hfile : (tree.put (directory ++ [name]) (.file text.toUTF8)).get? (directory ++ [name]) =
          some (.file text.toUTF8) := get?_put_self hnonempty
      -- The names before the last lead where they led before, and the last is there now.
      have hstep : (tree.put (directory ++ [name]) (.file text.toUTF8)).step directory name =
          .ok (directory ++ [name]) :=
        step_eq_ok_iff.mpr ⟨hgrows.directory directory hdirectory, hstepped.symm,
          .inr (.inr ⟨hsize, by rw [hfile]; rfl⟩)⟩
      refine ⟨by rw [hlexical]; exact hnonempty, by rw [hlexical], hgrows, ?_, ?_⟩
      · rw [locate, hgrows.route, hroute, hlexical]
        simp only [hslash]
        exact follow_concat_eq_ok_iff.mpr ⟨directory, hgrows.follow hfollow, hstep⟩
      · rw [hlexical, List.dropLast_concat]
        exact hgrows.directory directory hdirectory

namespace Wrote

variable {tree later : FileTree} {path text : String} {location : Location}

theorem get?_self (hwrote : tree.Wrote later path text) :
    later.get? (tree.lexical path) = some (.file text.toUTF8) := by
  rw [hwrote.later_eq, get?_put_self hwrote.lexical_ne_nil]

/-- A write leaves every other location as it was. -/
theorem get?_of_ne (hwrote : tree.Wrote later path text) (hne : location ≠ tree.lexical path) :
    later.get? location = tree.get? location := by
  rw [hwrote.later_eq, get?_put_of_ne hne]

end Wrote

end FileTree

end EventDispatch
