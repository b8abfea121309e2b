import EventDispatch.Proofs.FileTree

/-!
# What the operations of a file store change

A store is looked at as a file tree.  What its operations may do to the tree is said
without regard to why one of them fails: a text is written as a whole or not at all
(`Replaced`), and making directories, whether it succeeds or not, leaves new
directories only, each at the path or above it (`Opened`).

`FileStore.Shows` says this of a store.  A file tree is such a store itself
(`shows_fileTree`).
-/

namespace EventDispatch

/-- The path itself, the path without its last piece, and so on. -/
inductive Path.Above (path : String) : String → Prop
  | self : Path.Above path path
  | parent {above next : String} (habove : Path.Above path above)
      (hnext : Path.parent? above = some next) : Path.Above path next

theorem Path.Above.of_parent {path parent above : String}
    (hparent : Path.parent? path = some parent) (habove : Path.Above parent above) :
    Path.Above path above := by
  induction habove with
  | self => exact .parent .self hparent
  | parent _ hnext ih => exact .parent ih hnext

namespace FileTree

/-- The later tree has a text at the path, and is the same everywhere else. -/
structure Replaced (tree later : FileTree) (path text : String) : Prop where
  here : later.here = tree.here
  get?_self : later.get? (tree.lexical path) = some (.file text.toUTF8)
  get?_of_ne : ∀ location, location ≠ tree.lexical path →
    later.get? location = tree.get? location

/-- There is a new directory at a location, which is that of the path or of one above it. -/
def NewDirectory (tree later : FileTree) (path : String) (location : Location) : Prop :=
  tree.get? location = none ∧ later.get? location = some .directory ∧
    ∃ above, Path.Above path above ∧ location = tree.lexical above

/-- The later tree has new directories, at the path and above it, and is the same
everywhere else. -/
structure Opened (tree later : FileTree) (path : String) : Prop where
  here : later.here = tree.here
  get? : ∀ location, later.get? location = tree.get? location ∨
    tree.NewDirectory later path location

section

variable {tree middle later : FileTree} {path parent text : String}

theorem lexical_congr (hhere : later.here = tree.here) (path : String) :
    later.lexical path = tree.lexical path := by
  simp [lexical, origin, hhere]

/-! ## Writing -/

theorem replaced_of_write (hwrite : tree.write path text = .ok later) :
    tree.Replaced later path text := by
  have hwrote := wrote_of_write hwrite
  exact ⟨hwrote.grows.here, hwrote.get?_self, fun _ => hwrote.get?_of_ne⟩

/-! ## Making directories -/

theorem Opened.refl (tree : FileTree) (path : String) : tree.Opened tree path :=
  ⟨rfl, fun _ => .inl rfl⟩

/-- What lies above the parent lies above the path. -/
theorem Opened.of_parent (hparent : Path.parent? path = some parent)
    (hopened : tree.Opened later parent) : tree.Opened later path where
  here := hopened.here
  get? := fun location => (hopened.get? location).imp_right
    fun ⟨hnone, hnew, above, habove, hlocation⟩ =>
      ⟨hnone, hnew, above, habove.of_parent hparent, hlocation⟩

theorem Opened.trans (hfirst : tree.Opened middle path) (hsecond : middle.Opened later path) :
    tree.Opened later path where
  here := hsecond.here.trans hfirst.here
  get? := by
    intro location
    rcases hsecond.get? location with hsame | ⟨hnone, hnew, above, habove, hlocation⟩
    · rw [NewDirectory, hsame]
      exact hfirst.get? location
    · -- Where the second step finds nothing, the first one has made nothing.
      have hbefore : tree.get? location = none := by
        rcases hfirst.get? location with hsame | ⟨_, hmade, _⟩
        · rw [← hsame, hnone]
        · rw [hnone] at hmade
          cases hmade
      rw [lexical_congr hfirst.here] at hlocation
      exact .inr ⟨hbefore, hnew, above, habove, hlocation⟩

theorem opened_of_makeDirectory (hmake : tree.makeDirectory path = .ok later) :
    tree.Opened later path := by
  obtain ⟨⟨directory, last⟩, hlocate, hmake⟩ := bind_eq_ok_iff.mp hmake
  cases last with
  | none => cases hmake
  | some name =>
      have hlexical : tree.lexical path = directory ++ [name] := lexical_of_locateLast hlocate
      obtain ⟨location, hchild, hmake⟩ := bind_eq_ok_iff.mp hmake
      obtain ⟨rfl, _⟩ := eq_of_child hchild
      split at hmake
      · cases hmake
      rename_i hnone
      cases hmake
      refine ⟨rfl, fun location => ?_⟩
      by_cases hlocation : location = directory ++ [name]
      · subst hlocation
        exact .inr ⟨by simpa using hnone, get?_put_self (by simp), path, .self, hlexical.symm⟩
      · exact .inl (get?_put_of_ne hlocation)

theorem opened_ensureDirectory (tree : FileTree) (path : String) :
    tree.Opened (tree.ensureDirectory path).1 path := by
  unfold ensureDirectory
  split
  · rename_i hmake
    exact opened_of_makeDirectory hmake
  · exact Opened.refl tree path

/-- The induction is on the number of directories to look at; the ones above are made
first, and then the directory itself. -/
theorem opened_makeAll (bound : Nat) (tree : FileTree) (path : String) :
    tree.Opened (makeAll bound tree path).1 path := by
  induction bound generalizing path with
  | zero => exact Opened.refl tree path
  | succ bound ih =>
      unfold makeAll
      split
      · exact Opened.refl tree path
      split
      · rename_i hmake
        exact opened_of_makeDirectory hmake
      · split
        · exact Opened.refl tree path
        · rename_i parent hparent
          have habove := (ih parent).of_parent hparent
          split
          · rename_i hmade
            rw [hmade] at habove
            exact habove
          · rename_i hmade
            rw [hmade] at habove
            exact habove.trans (opened_ensureDirectory _ path)
      · exact Opened.refl tree path

end

end FileTree

/-! ## Stores -/

/-- Seen as a tree, the store changes by its operations as they say: a write that fails
changes nothing, one that succeeds replaces one text, and making directories opens
new ones at most. -/
structure FileStore.Shows {σ : Type} [FileStore (StateM σ)] (tree : σ → FileTree) : Prop where
  write_error : ∀ {state later path text fault},
    (FileStore.write path text : StateM σ _).run state = (.error fault, later) →
      tree later = tree state
  write_ok : ∀ {state later path text},
    (FileStore.write path text : StateM σ _).run state = (.ok (), later) →
      (tree state).Replaced (tree later) path text
  makeDirectories : ∀ {state later path result},
    (FileStore.makeDirectories path : StateM σ _).run state = (result, later) →
      (tree state).Opened (tree later) path

theorem shows_fileTree : FileStore.Shows (id : FileTree → FileTree) where
  write_error := by
    intro tree later path text fault hrun
    cases hwrite : tree.write path text with
    | error other =>
        simp only [StateT.run, FileStore.write, hwrite] at hrun
        cases hrun
        rfl
    | ok written =>
        simp only [StateT.run, FileStore.write, hwrite] at hrun
        cases hrun
  write_ok := by
    intro tree later path text hrun
    cases hwrite : tree.write path text with
    | error other =>
        simp only [StateT.run, FileStore.write, hwrite] at hrun
        cases hrun
    | ok written =>
        simp only [StateT.run, FileStore.write, hwrite] at hrun
        cases hrun
        exact FileTree.replaced_of_write hwrite
  makeDirectories := by
    intro tree later path result hrun
    have hmade : (tree.makeDirectories path).1 = later := congrArg Prod.snd hrun
    rw [← hmade]
    exact FileTree.opened_makeAll _ tree path

end EventDispatch
