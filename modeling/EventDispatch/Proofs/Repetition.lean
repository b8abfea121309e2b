import EventDispatch.Proofs.Generation

/-!
# A round once more

A round that has succeeded can be run again on the tree it leaves, and changes nothing
there.  Two things carry this.

* **Nothing fails the second time.**  Making directories ends with a directory at the
  path (`isDirectory_of_makeAll`), and a path with a directory is left as it is.  Whether
  a text can be written to a path does not depend on the text (`Writable`), and no write
  takes this away from any path, since it makes no directories.
* **Nothing is different afterwards.**  Several artifacts may have one location, so that
  the tree does change while the round goes on.  But each node that is put where there is
  one already is covered by the last one that is put there, and that one is there from
  the first round (`putAll_eq_self`).

What lies at the path of an artifact after a round is the text of the last artifact with
its location.  Which artifacts share a location is told by the output directory and the
file names, so that it is the same on every tree (`FileTree.lexical_join_congr`).
-/

namespace EventDispatch

namespace FileTree

/-! ## Putting nodes where there are some -/

section Places

variable {location other : Location} {node later : FileNode}

theorem place_eq_self {nodes : List (Location × FileNode)}
    (hnode : nodes.lookup location = some node) : place location node nodes = nodes := by
  induction nodes with
  | nil => cases hnode
  | cons entry rest ih =>
      rw [lookup_cons_eq_ite] at hnode
      by_cases hlocation : entry.1 = location
      · rw [if_pos hlocation.symm] at hnode
        rw [place, if_pos hlocation, ← hlocation, ← Option.some.inj hnode]
      · rw [if_neg (Ne.symm hlocation)] at hnode
        rw [place, if_neg hlocation, ih hnode]

theorem place_place_self (location : Location) (node later : FileNode)
    (nodes : List (Location × FileNode)) :
    place location later (place location node nodes) = place location later nodes := by
  induction nodes with
  | nil => simp [place]
  | cons entry rest ih =>
      by_cases hlocation : entry.1 = location
      · simp [place, hlocation]
      · simp [place, hlocation, ih]

/-- Nodes at different locations can be put in either order if one of the two has its
place already. -/
theorem place_comm (hne : other ≠ location) {nodes : List (Location × FileNode)}
    (hsome : (nodes.lookup location).isSome = true) :
    place other later (place location node nodes) =
      place location node (place other later nodes) := by
  induction nodes with
  | nil => cases hsome
  | cons entry rest ih =>
      rw [lookup_cons_eq_ite] at hsome
      by_cases hlocation : entry.1 = location
      · have hother : entry.1 ≠ other := fun heq => hne (heq.symm.trans hlocation)
        simp [place, hlocation, hne.symm]
      · rw [if_neg (Ne.symm hlocation)] at hsome
        by_cases hother : entry.1 = other
        · simp [place, hother, hne]
        · simp [place, hlocation, hother, ih hsome]

end Places

section Putting

variable {tree : FileTree} {location other : Location} {node later : FileNode}

theorem put_eq_self (hlocation : location ≠ []) (hnode : tree.get? location = some node) :
    tree.put location node = tree := by
  have hlookup : tree.nodes.lookup location = some node := by
    simpa [get?, hlocation] using hnode
  rw [put, place_eq_self hlookup]

theorem put_put_self (location : Location) (node later : FileNode) :
    (tree.put location node).put location later = tree.put location later := by
  simp [put, place_place_self]

theorem put_comm (hne : other ≠ location) (hlocation : location ≠ [])
    (hsome : (tree.get? location).isSome = true) :
    (tree.put location node).put other later = (tree.put other later).put location node := by
  have hlookup : (tree.nodes.lookup location).isSome = true := by
    simpa [get?, hlocation] using hsome
  simp [put, place_comm hne hlookup]

/-- The tree with nodes put at locations one after the other. -/
def putAll (tree : FileTree) (entries : List (Location × FileNode)) : FileTree :=
  entries.foldl (fun tree entry => tree.put entry.1 entry.2) tree

/-- A node that is covered later on need not be put. -/
theorem putAll_put_of_mem {entries : List (Location × FileNode)} (hlocation : location ≠ [])
    (hsome : (tree.get? location).isSome = true) (hmem : location ∈ entries.map Prod.fst) :
    (tree.put location node).putAll entries = tree.putAll entries := by
  induction entries generalizing tree with
  | nil => cases hmem
  | cons entry rest ih =>
      change ((tree.put location node).put entry.1 entry.2).putAll rest =
        (tree.put entry.1 entry.2).putAll rest
      by_cases hentry : entry.1 = location
      · rw [hentry, put_put_self]
      · have hrest : location ∈ rest.map Prod.fst :=
          (List.mem_cons.mp hmem).resolve_left (Ne.symm hentry)
        have hstill : ((tree.put entry.1 entry.2).get? location).isSome = true := by
          rw [get?_put_of_ne (Ne.symm hentry)]
          exact hsome
        rw [put_comm hentry hlocation hsome, ih hstill hrest]

/-- Putting nodes changes nothing if the last one for each location is there already. -/
theorem putAll_eq_self {entries : List (Location × FileNode)}
    (hthere : ∀ entry ∈ entries, entry.1 ≠ [] ∧ (tree.get? entry.1).isSome = true)
    (hlast : ∀ front entry back, entries = front ++ entry :: back →
      entry.1 ∉ back.map Prod.fst → tree.get? entry.1 = some entry.2) :
    tree.putAll entries = tree := by
  induction entries with
  | nil => rfl
  | cons entry rest ih =>
      obtain ⟨⟨hlocation, hsome⟩, hothers⟩ := List.forall_mem_cons.mp hthere
      have hrest : tree.putAll rest = tree := by
        refine ih hothers fun front other back hsplit hback => ?_
        exact hlast (entry :: front) other back (by rw [hsplit, List.cons_append]) hback
      change (tree.put entry.1 entry.2).putAll rest = tree
      by_cases hcovered : entry.1 ∈ rest.map Prod.fst
      · rw [putAll_put_of_mem hlocation hsome hcovered, hrest]
      · rw [put_eq_self hlocation (hlast [] entry rest rfl hcovered), hrest]

end Putting

/-! ## Directories that are there -/

section Directories

variable {tree later : FileTree} {start directory location : Location} {name path : String}
  {names : List String}

theorem locateLast_of_follow (hroute : tree.route path = .ok (start, names ++ [name]))
    (hfollow : tree.follow start names = .ok directory)
    (hdirectory : tree.get? directory = some .directory) :
    tree.locateLast path =
      .ok (directory, if name = "." || name = ".." then none else some name) := by
  have hstep : tree.step directory "." = .ok directory := by simp [step, hdirectory]
  refine bind_eq_ok_iff.mpr ⟨(start, names ++ [name]), hroute, ?_⟩
  simp only [List.getLast?_concat, List.dropLast_concat]
  exact bind_eq_ok_iff.mpr ⟨directory, hfollow, bind_eq_ok_iff.mpr ⟨directory, hstep, rfl⟩⟩

theorem isDirectory_iff : tree.isDirectory path = true ↔
    ∃ location, tree.locate path = .ok location ∧ tree.get? location = some .directory := by
  unfold isDirectory
  cases tree.locate path with
  | error fault => simp
  | ok location =>
      cases hnode : tree.get? location with
      | none => simp [hnode]
      | some node => cases node <;> simp [hnode]

theorem Grows.isDirectory (hgrows : tree.Grows later) (hdirectory : tree.isDirectory path = true) :
    later.isDirectory path = true := by
  obtain ⟨location, hlocate, hnode⟩ := isDirectory_iff.mp hdirectory
  exact isDirectory_iff.mpr ⟨location, hgrows.locate hlocate, hgrows.directory location hnode⟩

/-- Where a directory is, none is made. -/
theorem makeDirectory_of_isDirectory (hdirectory : tree.isDirectory path = true) :
    tree.makeDirectory path = .error .alreadyExists := by
  obtain ⟨location, hlocate, _⟩ := isDirectory_iff.mp hdirectory
  obtain ⟨⟨start, names⟩, hroute, hfollow⟩ := bind_eq_ok_iff.mp hlocate
  -- A slash at the end asks only for what is known: that a directory lies there.
  have hfollowed : tree.follow start names = .ok location := by
    simp only at hfollow
    split at hfollow
    · obtain ⟨next, hnames, hstep⟩ := follow_concat_eq_ok_iff.mp hfollow
      obtain ⟨_, hlocation, _⟩ := step_eq_ok_iff.mp hstep
      rw [walkStep, if_pos rfl] at hlocation
      rw [hnames, hlocation]
    · exact hfollow
  rcases List.eq_nil_or_concat names with rfl | ⟨front, name, rfl⟩
  · simp only [makeDirectory, locateLast, hroute]
    rfl
  · rw [List.concat_eq_append] at hroute hfollowed
    obtain ⟨directory, hfront, hstep⟩ := follow_concat_eq_ok_iff.mp hfollowed
    obtain ⟨habove, hlocation, hname⟩ := step_eq_ok_iff.mp hstep
    simp only [makeDirectory, locateLast_of_follow hroute hfront habove]
    by_cases hdots : name = "." ∨ name = ".."
    · have hboth : (name = "." || name = "..") = true := by simpa using hdots
      simp only [hboth]
      rfl
    · have hneither : (name = "." || name = "..") = false := by simpa using hdots
      obtain ⟨hsize, hsome⟩ : name.utf8ByteSize ≤ nameLimit ∧
          (tree.get? (directory ++ [name])).isSome = true := by
        rcases hname with hdot | hdot | hboth
        · exact absurd (.inl hdot) hdots
        · exact absurd (.inr hdot) hdots
        · exact hboth
      have hchild : child directory name = .ok (directory ++ [name]) := by
        rw [child, if_neg (Nat.not_lt.mpr hsize)]
      simp only [hneither]
      change (child directory name >>= _) = _
      rw [hchild]
      change (if (tree.get? (directory ++ [name])).isSome = true then _ else _) = _
      rw [if_pos hsome]

/-- Where a directory was made, there is one. -/
theorem isDirectory_of_makeDirectory (hmake : tree.makeDirectory path = .ok later) :
    later.isDirectory path = true := by
  have hgrows := grows_makeDirectory hmake
  obtain ⟨⟨directory, last⟩, hlocate, hmake⟩ := bind_eq_ok_iff.mp hmake
  cases last with
  | none => cases hmake
  | some name =>
      obtain ⟨hdirectory, hdot, hdots, start, names, hroute, hfollow⟩ := locateLast_eq_ok hlocate
      obtain ⟨location, hchild, hmake⟩ := bind_eq_ok_iff.mp hmake
      obtain ⟨rfl, hsize⟩ := eq_of_child hchild
      split at hmake
      · cases hmake
      cases hmake
      have hmade : (tree.put (directory ++ [name]) .directory).get? (directory ++ [name]) =
          some .directory := get?_put_self (by simp)
      have hstep : (tree.put (directory ++ [name]) .directory).step directory name =
          .ok (directory ++ [name]) :=
        step_eq_ok_iff.mpr ⟨hgrows.directory directory hdirectory,
          by rw [walkStep, if_neg hdot, if_neg hdots], .inr (.inr ⟨hsize, by rw [hmade]; rfl⟩)⟩
      have hnames : (tree.put (directory ++ [name]) .directory).follow start (names ++ [name]) =
          .ok (directory ++ [name]) :=
        follow_concat_eq_ok_iff.mpr ⟨directory, hgrows.follow hfollow, hstep⟩
      refine isDirectory_iff.mpr ⟨directory ++ [name], ?_, hmade⟩
      rw [locate, hgrows.route, hroute]
      change follow _ start (if Path.endsInSlash path then _ else _) = _
      split
      · exact follow_concat_eq_ok_iff.mpr ⟨_, hnames, step_eq_ok_iff.mpr ⟨hmade, rfl, .inl rfl⟩⟩
      · exact hnames

theorem isDirectory_of_ensureDirectory
    (hmade : tree.ensureDirectory path = (later, .ok ())) : later.isDirectory path = true := by
  unfold ensureDirectory at hmade
  split at hmade
  · rename_i hmake
    cases hmade
    exact isDirectory_of_makeDirectory hmake
  · by_cases hthere : tree.isDirectory path = true
    · rw [if_pos hthere] at hmade
      cases hmade
      exact hthere
    · rw [if_neg hthere] at hmade
      cases hmade

/-- Making a directory with all above it ends with a directory at the path. -/
theorem isDirectory_of_makeAll {bound : Nat} (hpath : path ≠ "")
    (hmade : makeAll bound tree path = (later, .ok ())) : later.isDirectory path = true := by
  cases bound with
  | zero => cases hmade
  | succ bound =>
      rw [makeAll, if_neg hpath] at hmade
      split at hmade
      · rename_i hmake
        cases hmade
        exact isDirectory_of_makeDirectory hmake
      · split at hmade
        · cases hmade
        · split at hmade
          · cases hmade
          · exact isDirectory_of_ensureDirectory hmade
      · by_cases hthere : tree.isDirectory path = true
        · rw [if_pos hthere] at hmade
          cases hmade
          exact hthere
        · rw [if_neg hthere] at hmade
          cases hmade

theorem makeDirectories_of_isDirectory
    (hpath : path = "" ∨ tree.isDirectory path = true) :
    tree.makeDirectories path = (tree, .ok ()) := by
  unfold makeDirectories makeAll
  split
  · rfl
  · rename_i hnonempty
    have hthere := hpath.resolve_left hnonempty
    rw [makeDirectory_of_isDirectory hthere]
    simp only [if_pos hthere]

end Directories

/-! ## Paths that can be written to -/

/-- The path leads to a place in a directory where a text can be put: nothing is there,
or a file. -/
def Writable (tree : FileTree) (path : String) : Prop :=
  ∃ directory name, tree.locateLast path = .ok (directory, some name) ∧
    Path.endsInSlash path = false ∧ name.utf8ByteSize ≤ nameLimit ∧
    tree.get? (directory ++ [name]) ≠ some .directory

section Writing

variable {tree later : FileTree} {location : Location} {path other text : String}

theorem Writable.lexical_ne_nil (hwritable : tree.Writable path) : tree.lexical path ≠ [] := by
  obtain ⟨directory, name, hlocate, _⟩ := hwritable
  rw [lexical_of_locateLast hlocate]
  simp

/-- Every text can be written to such a path. -/
theorem Writable.write (hwritable : tree.Writable path) (text : String) :
    tree.write path text = .ok (tree.put (tree.lexical path) (.file text.toUTF8)) := by
  obtain ⟨directory, name, hlocate, hslash, hsize, hnode⟩ := hwritable
  have hchild : child directory name = .ok (directory ++ [name]) := by
    rw [child, if_neg (Nat.not_lt.mpr hsize)]
  rw [lexical_of_locateLast hlocate]
  refine bind_eq_ok_iff.mpr ⟨(directory, some name), hlocate, ?_⟩
  simp only [hslash, Bool.false_eq_true, if_false]
  refine bind_eq_ok_iff.mpr ⟨directory ++ [name], hchild, ?_⟩
  split
  · rename_i hdirectory
    exact absurd hdirectory hnode
  · rfl

theorem writable_of_write (hwrite : tree.write path text = .ok later) : tree.Writable path := by
  obtain ⟨⟨directory, last⟩, hlocate, hwrite⟩ := bind_eq_ok_iff.mp hwrite
  cases last with
  | none => cases hwrite
  | some name =>
      simp only at hwrite
      split at hwrite
      · cases hwrite
      rename_i hslash
      obtain ⟨location, hchild, hwrite⟩ := bind_eq_ok_iff.mp hwrite
      obtain ⟨rfl, hsize⟩ := eq_of_child hchild
      split at hwrite
      · cases hwrite
      rename_i hnode
      exact ⟨directory, name, hlocate, by simpa using hslash, hsize, hnode⟩

/-- A write takes from no path that it can be written to. -/
theorem Writable.of_write (hwritable : tree.Writable path)
    (hwrite : tree.write other text = .ok later) : later.Writable path := by
  obtain ⟨directory, name, hlocate, hslash, hsize, hnode⟩ := hwritable
  have hwrote := wrote_of_write hwrite
  obtain ⟨hdirectory, hdot, hdots, start, names, hroute, hfollow⟩ := locateLast_eq_ok hlocate
  refine ⟨directory, name, ?_, hslash, hsize, ?_⟩
  · rw [locateLast_of_follow (by rw [hwrote.grows.route, hroute]) (hwrote.grows.follow hfollow)
      (hwrote.grows.directory directory hdirectory)]
    simp [hdot, hdots]
  · by_cases hsame : directory ++ [name] = tree.lexical other
    · rw [hsame, hwrote.get?_self]
      simp
    · rw [hwrote.get?_of_ne hsame]
      exact hnode

end Writing

/-! ## The place of a name in a directory -/

section Names

variable {tree other : FileTree} {directory fileName : String}

/-- Where the directory is in one place, so is what a path joined to it leads to. -/
theorem lexical_join_congr (hplace : other.lexical directory = tree.lexical directory)
    (fileName : String) :
    other.lexical (Path.join directory fileName) = tree.lexical (Path.join directory fileName) := by
  cases habsolute : Path.isAbsolute fileName with
  | true => simp [lexical, origin, Path.join, habsolute]
  | false =>
      have hwalk : ∀ tree : FileTree, tree.lexical (Path.join directory fileName) =
          walk (tree.lexical directory) (Path.names fileName) := fun tree => by
        simp [lexical, origin, Path.names_join_of_relative habsolute,
          Path.isAbsolute_join_of_relative habsolute, walk]
      rw [hwalk, hwalk, hplace]

end Names

end FileTree

/-! ## Artifacts once more -/

section Again

variable {tree other later otherLater : FileTree} {directory path : String}
  {artifact : Artifact} {artifacts rest : List Artifact} {summaries : List Summary}

theorem run_write_of_ok {text : String} (hwrite : tree.write path text = .ok later) :
    (FileStore.write path text : StateM FileTree _).run tree = (.ok (), later) := by
  simp only [StateT.run, FileStore.write, hwrite]

/-- Writing artifacts takes from no path that it can be written to. -/
theorem writable_of_writeArtifacts
    (hrun : (writeArtifacts directory artifacts : StateM FileTree _).run tree =
      ((summaries, .ok ()), later)) (hwritable : tree.Writable path) : later.Writable path := by
  induction artifacts generalizing tree summaries with
  | nil =>
      cases hrun
      exact hwritable
  | cons artifact rest ih =>
      obtain ⟨middle, others, hwrite, hrest, rfl⟩ := writeArtifacts_cons_eq_ok hrun
      exact ih hrest (hwritable.of_write hwrite)

/-- The files of written artifacts can be written again. -/
theorem forall_writable_of_writeArtifacts
    (hrun : (writeArtifacts directory artifacts : StateM FileTree _).run tree =
      ((summaries, .ok ()), later)) :
    ∀ artifact ∈ artifacts, later.Writable (Path.join directory artifact.fileName) := by
  induction artifacts generalizing tree summaries with
  | nil => simp
  | cons artifact rest ih =>
      obtain ⟨middle, others, hwrite, hrest, rfl⟩ := writeArtifacts_cons_eq_ok hrun
      have hfirst : middle.Writable (Path.join directory artifact.fileName) :=
        (FileTree.writable_of_write hwrite).of_write hwrite
      exact List.forall_mem_cons.mpr ⟨writable_of_writeArtifacts hrest hfirst, ih hrest⟩

/-- The location of an artifact and what is put there. -/
def Artifact.entry (tree : FileTree) (directory : String) (artifact : Artifact) :
    Location × FileNode :=
  (artifact.location tree directory, .file artifact.source.toUTF8)

/-- Where all artifacts can be written, they are. -/
theorem run_writeArtifacts_of_writable
    (hwritable : ∀ artifact ∈ artifacts, tree.Writable (Path.join directory artifact.fileName)) :
    (writeArtifacts directory artifacts : StateM FileTree _).run tree =
      ((artifacts.map (Artifact.summary directory), .ok ()),
        tree.putAll (artifacts.map (Artifact.entry tree directory))) := by
  induction artifacts generalizing tree with
  | nil => rfl
  | cons artifact rest ih =>
      obtain ⟨hfirst, hothers⟩ := List.forall_mem_cons.mp hwritable
      have hwrite : tree.write (Path.join directory artifact.fileName) artifact.source =
          .ok (tree.put (artifact.location tree directory) (.file artifact.source.toUTF8)) :=
        hfirst.write artifact.source
      -- The working directory stays, and with it the locations of the others.
      have hentry : Artifact.entry
          (tree.put (artifact.location tree directory) (.file artifact.source.toUTF8)) directory =
            Artifact.entry tree directory := rfl
      have hrest := ih fun other hother => (hothers other hother).of_write hwrite
      have hrun : (FileStore.write (artifact.summary directory).path artifact.source :
          StateM FileTree _).run tree =
            (.ok (), tree.put (artifact.location tree directory) (.file artifact.source.toUTF8)) :=
        run_write_of_ok hwrite
      rw [writeArtifacts, StateT.run_bind, hrun]
      change (writeArtifacts directory rest >>= _ : StateM FileTree _).run
        (tree.put (artifact.location tree directory) (.file artifact.source.toUTF8)) = _
      rw [StateT.run_bind, hrest, hentry]
      rfl

/-- What lies at the location of a written artifact: the text of the last artifact that
has this location. -/
theorem Written.exists_last (hwritten : Written tree later directory artifacts)
    (hartifact : artifact ∈ artifacts) :
    ∃ last, (artifacts.filter fun other =>
        other.location tree directory == artifact.location tree directory).getLast? = some last ∧
      later.get? (artifact.location tree directory) = some (.file last.source.toUTF8) := by
  have hmem : artifact ∈ artifacts.filter fun other =>
      other.location tree directory == artifact.location tree directory :=
    List.mem_filter.mpr ⟨hartifact, beq_self_eq_true _⟩
  obtain ⟨last, hlast⟩ := Option.isSome_iff_exists.mp
    (List.getLast?_isSome.mpr (List.ne_nil_of_mem hmem))
  exact ⟨last, hlast, by rw [hwritten.content, hlast]; rfl⟩

/-- Writing the artifacts again into the tree in which they were written changes nothing. -/
theorem Written.putAll_eq_self (hwritten : Written tree later directory artifacts)
    (hwritable : ∀ artifact ∈ artifacts,
      later.Writable (Path.join directory artifact.fileName)) :
    later.putAll (artifacts.map (Artifact.entry later directory)) = later := by
  have hlocation : Artifact.location later directory = Artifact.location tree directory :=
    funext fun artifact => hwritten.grows.lexical (Path.join directory artifact.fileName)
  apply FileTree.putAll_eq_self
  · intro entry hentry
    obtain ⟨artifact, hartifact, rfl⟩ := List.mem_map.mp hentry
    obtain ⟨last, _, hnode⟩ := hwritten.exists_last hartifact
    refine ⟨(hwritable artifact hartifact).lexical_ne_nil, ?_⟩
    rw [Artifact.entry, hlocation, hnode]
    rfl
  · intro front entry back hsplit hback
    obtain ⟨first, others, rfl, rfl, hothers⟩ := List.map_eq_append_iff.mp hsplit
    obtain ⟨artifact, rest, rfl, rfl, rfl⟩ := List.map_eq_cons_iff.mp hothers
    -- None of the later artifacts has the location, so that the last one is this one.
    have hnone : (rest.filter fun other =>
        other.location tree directory == artifact.location tree directory) = [] := by
      rw [List.filter_eq_nil_iff]
      intro other hother hsame
      refine hback (List.mem_map.mpr ⟨other.entry later directory,
        List.mem_map_of_mem hother, ?_⟩)
      rw [Artifact.entry, Artifact.entry, hlocation]
      exact beq_iff_eq.mp hsame
    rw [Artifact.entry, hlocation, hwritten.content, List.filter_append, List.filter_cons,
      hnone]
    simp

theorem fromUTF8?_toUTF8 (text : String) : String.fromUTF8? text.toUTF8 = some text :=
  dif_pos text.isValidUTF8

/-- The path of a written artifact can be read, and gives the text of the last artifact
with its location. -/
theorem Written.read (hwritten : Written tree later directory artifacts) {last : Artifact}
    (hartifact : artifact ∈ artifacts)
    (hlast : later.get? (artifact.location tree directory) = some (.file last.source.toUTF8)) :
    later.read (Path.join directory artifact.fileName) = .ok last.source := by
  refine bind_eq_ok_iff.mpr ⟨_, hwritten.locate artifact hartifact, ?_⟩
  simp only [hlast, fromUTF8?_toUTF8]

end Again

/-! ## A whole round once more -/

section Round

variable {tree ready later : FileTree} {directory : String}

theorem run_makeReady_again {artifacts : List Artifact}
    (hready : (makeReady directory artifacts : StateM FileTree _).run tree = (.ok (), ready))
    (hgrows : ready.Grows later) :
    (makeReady directory artifacts : StateM FileTree _).run later = (.ok (), later) := by
  unfold makeReady at hready ⊢
  split
  · rfl
  · rename_i hartifacts
    rw [if_neg hartifacts] at hready
    have hmade : tree.makeDirectories directory = (ready, .ok ()) :=
      Prod.ext (congrArg Prod.snd hready) (congrArg Prod.fst hready)
    have hthere : directory = "" ∨ later.isDirectory directory = true :=
      or_iff_not_imp_left.mpr fun hdirectory =>
        hgrows.isDirectory (FileTree.isDirectory_of_makeAll hdirectory hmade)
    have hagain := FileTree.makeDirectories_of_isDirectory hthere
    exact Prod.ext (congrArg Prod.snd hagain) (congrArg Prod.fst hagain)

end Round

/-! ## Main result -/

/-- A round that has succeeded gives the same outcome when it is run again, and leaves
the tree as it is.  On any other tree, whatever is there, where the output directory is
the same place, a round of the generator that succeeds reports the same, and leaves the
same text at every reported path. -/
theorem generate_repeats {generator : Generator} {explicit environment : Option String}
    {tree later : FileTree} {outcome : Outcome Report} {report : Report}
    (hrun : (generator.generate explicit environment : StateM FileTree _).run tree =
      (outcome, later)) (hreport : outcome.result = .ok report) :
    (generator.generate explicit environment : StateM FileTree _).run later =
        (outcome, later) ∧
      ∃ directory, outputDirectory? explicit environment = some directory ∧
        ∀ other otherLater otherOutcome otherReport,
          (generator.generate explicit environment : StateM FileTree _).run other =
            (otherOutcome, otherLater) →
          otherOutcome.result = .ok otherReport →
          other.lexical directory = tree.lexical directory →
          otherReport = report ∧
            ∀ summary ∈ report.artifacts, ∃ text,
              later.read summary.path = .ok text ∧ otherLater.read summary.path = .ok text := by
  obtain ⟨directory, preparation, ready, hdirectory, hprepare, hready, hwrite, rfl⟩ :=
    exists_steps_of_generate hrun hreport
  cases hreport
  obtain ⟨hwritten, _⟩ := written_of_writeArtifacts hwrite
  have hgrows := grows_of_makeReady hready
  refine ⟨?_, directory, hdirectory, ?_⟩
  · have hwritable := forall_writable_of_writeArtifacts hwrite
    have hagain := run_writeArtifacts_of_writable hwritable
    rw [hwritten.putAll_eq_self hwritable] at hagain
    exact run_generate_of_steps hdirectory hprepare (run_makeReady_again hready hwritten.grows)
      hagain
  · intro other otherLater otherOutcome otherReport hother hotherReport hplace
    obtain ⟨_, _, otherReady, hsame, hprepared, hotherReady, hotherWrite, rfl⟩ :=
      exists_steps_of_generate hother hotherReport
    cases hdirectory.symm.trans hsame
    cases hprepare.symm.trans hprepared
    cases hotherReport
    obtain ⟨hotherWritten, _⟩ := written_of_writeArtifacts hotherWrite
    have hotherGrows := grows_of_makeReady hotherReady
    refine ⟨rfl, fun summary hsummary => ?_⟩
    obtain ⟨artifact, hartifact, rfl⟩ := List.mem_map.mp hsummary
    -- The artifacts have the same locations on both trees, so that the same one is the last.
    have hlocation : Artifact.location otherReady directory = Artifact.location ready directory :=
      funext fun artifact => FileTree.lexical_join_congr
        (by rw [hotherGrows.lexical, hgrows.lexical, hplace]) artifact.fileName
    obtain ⟨last, hlast, hnode⟩ := hwritten.exists_last hartifact
    obtain ⟨otherLast, hotherLast, hotherNode⟩ := hotherWritten.exists_last hartifact
    rw [hlocation, hlast] at hotherLast
    cases hotherLast
    exact ⟨last.source, hwritten.read hartifact hnode,
      hotherWritten.read hartifact hotherNode⟩

/-- A marked enumeration with one event, under a name that may be any text. -/
def ping (name path : String) : Declaration where
  name
  path
  kind := .enum
  modality := .closed
  markers := ["analytics_event"]
  generic := false
  members := [
    { name := "Ping", parent := none, fields := .unit, origin := ⟨"net.toml", none⟩ }]
  origin := ⟨"net.toml", none⟩

/-- A generator whose two file names differ and lead to one place. -/
def sharing : Generator where
  settings := { trackerCrate := "t", trackerType := "T" }
  table := ⟨[ping "a" "net::A", ping "./a" "net::B"]⟩
  inputs := []

/-- A file tree with an older file where the artifacts go, and another one beside it. -/
def littered : FileTree where
  nodes := [
    (["work"], .directory), (["work", "out"], .directory),
    (["work", "out", "a.rs"], .file "an older and much longer text".toUTF8),
    (["work", "out", "b.rs"], .file "another text".toUTF8)]
  here := ["work"]

/-- Both artifacts go to one file.  A second round changes nothing, and a round on the tree
with older files leaves the same text. -/
theorem repeats_sharing :
    ∃ outcome later report otherOutcome otherLater,
      (sharing.generate (some "out") none : StateM FileTree _).run workshop =
          (outcome, later) ∧
        outcome.result = .ok report ∧
        report.artifacts.map Summary.path = ["out/a.rs", "out/./a.rs"] ∧
        (sharing.generate (some "out") none : StateM FileTree _).run later = (outcome, later) ∧
        (sharing.generate (some "out") none : StateM FileTree _).run littered =
          (otherOutcome, otherLater) ∧
        otherOutcome.result = .ok report ∧
        littered.lexical "out" = workshop.lexical "out" ∧
        ∀ summary ∈ report.artifacts, ∃ text,
          later.read summary.path = .ok text ∧ otherLater.read summary.path = .ok text := by
  obtain ⟨outcome, later, hrun⟩ : ∃ outcome later,
      (sharing.generate (some "out") none : StateM FileTree _).run workshop = (outcome, later) :=
    ⟨_, _, rfl⟩
  obtain ⟨otherOutcome, otherLater, hother⟩ : ∃ otherOutcome otherLater,
      (sharing.generate (some "out") none : StateM FileTree _).run littered =
        (otherOutcome, otherLater) :=
    ⟨_, _, rfl⟩
  have hok : (((sharing.generate (some "out") none : StateM FileTree _).run
      workshop).1.result.toOption.map fun report => report.artifacts.map Summary.path) =
        some ["out/a.rs", "out/./a.rs"] := by
    decide +kernel
  have hotherOk : (((sharing.generate (some "out") none : StateM FileTree _).run
      littered).1.result.toOption).isSome = true := by
    decide +kernel
  rw [hrun] at hok
  rw [hother] at hotherOk
  obtain ⟨report, hsome, hpaths⟩ := Option.map_eq_some_iff.mp hok
  obtain ⟨otherReport, hotherSome⟩ := Option.isSome_iff_exists.mp hotherOk
  have hreport : outcome.result = .ok report := toOption_eq_some_iff.mp hsome
  have hotherReport : otherOutcome.result = .ok otherReport :=
    toOption_eq_some_iff.mp hotherSome
  obtain ⟨hagain, directory, hdirectory, hcompare⟩ := generate_repeats hrun hreport
  cases hdirectory
  have hplace : littered.lexical "out" = workshop.lexical "out" := by decide +kernel
  obtain ⟨rfl, htexts⟩ := hcompare littered otherLater otherOutcome otherReport hother
    hotherReport hplace
  exact ⟨outcome, later, otherReport, otherOutcome, otherLater, hrun, hreport, hpaths, hagain,
    hother, hotherReport, hplace, htexts⟩

end EventDispatch
