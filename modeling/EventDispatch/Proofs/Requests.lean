import EventDispatch.CommandLine.Run
import EventDispatch.FileTree
import EventDispatch.Proofs.Round

/-!
# What a store is asked to change

`Noted` stands before another store.  It passes on all that it is asked for, and keeps a
list of the requests to change something, each with its answer; a request to read is not
listed.  So what a program does to its files can be told on any store.

A program that loads inputs only reads (`ReadsOnly`).  A round asks for the directory, and
then for one text after the other to be written, up to the first request that is refused
(`Asked`).
-/

namespace EventDispatch

/-- A request to change something. -/
inductive FileRequest where
  | makeDirectories (path : String)
  | write (path text : String)
  deriving DecidableEq

/-- A store, and the requests to change it that were made so far, with their answers. -/
structure Noted (σ : Type) where
  store : σ
  requests : List (FileRequest × Except FileFault Unit)

/-- Reading leaves the store as it is. -/
def FileStore.Still (σ : Type) [FileStore (StateM σ)] : Prop :=
  ∀ path (store : σ), ((FileStore.read path : StateM σ _).run store).2 = store

theorem still_fileTree : FileStore.Still FileTree :=
  fun _ _ => rfl

namespace Noted

variable {σ : Type} {requests further : List FileRequest} {answer : Except FileFault Unit}
  {fault : FileFault} {state middle later : Noted σ}

/-- Makes a request and notes it with its answer. -/
def ask (request : FileRequest) (operation : StateM σ (Except FileFault Unit)) :
    StateM (Noted σ) (Except FileFault Unit) := fun noted =>
  let (answer, store) := operation.run noted.store
  (answer, { store, requests := noted.requests ++ [(request, answer)] })

instance [FileStore (StateM σ)] : FileStore (StateM (Noted σ)) where
  read path := fun noted =>
    let (result, store) := (FileStore.read path : StateM σ _).run noted.store
    (result, { noted with store })
  makeDirectories path := ask (.makeDirectories path) (FileStore.makeDirectories path)
  write path text := ask (.write path text) (FileStore.write path text)

/-! ## Requests in order -/

/-- Requests that were answered without a fault. -/
def granted (requests : List FileRequest) : List (FileRequest × Except FileFault Unit) :=
  requests.map fun request => (request, .ok ())

/-- What is noted of requests that are made up to the first one that is refused. -/
def Asked (requests : List FileRequest) (answer : Except FileFault Unit)
    (state later : Noted σ) : Prop :=
  match answer with
  | .ok () => later.requests = state.requests ++ granted requests
  | .error fault => ∃ front request back, requests = front ++ request :: back ∧
      later.requests = state.requests ++ granted front ++ [(request, .error fault)]

theorem Asked.nil (state : Noted σ) : Asked [] (.ok ()) state state :=
  (List.append_nil _).symm

theorem asked_of_ask {request : FileRequest} {operation : StateM σ (Except FileFault Unit)}
    (hrun : (ask request operation).run state = (answer, later)) :
    Asked [request] answer state later := by
  have hlater : later.requests = state.requests ++ [(request, answer)] := by
    cases hrun
    rfl
  cases answer with
  | ok => exact hlater
  | error fault => exact ⟨[], request, [], rfl, by simpa [granted] using hlater⟩

/-- Behind a request that is refused none is made. -/
theorem Asked.stop (hasked : Asked requests (.error fault) state later)
    (further : List FileRequest) : Asked (requests ++ further) (.error fault) state later := by
  obtain ⟨front, request, back, rfl, hlater⟩ := hasked
  exact ⟨front, request, back ++ further, by simp, hlater⟩

theorem Asked.next (hasked : Asked requests (.ok ()) state middle)
    (hnext : Asked further answer middle later) : Asked (requests ++ further) answer state later := by
  have hmiddle : middle.requests = state.requests ++ granted requests := hasked
  cases answer with
  | ok =>
      have hlater : later.requests = middle.requests ++ granted further := hnext
      simp [Asked, hlater, hmiddle, granted]
  | error fault =>
      obtain ⟨front, request, back, rfl, hlater⟩ := hnext
      exact ⟨requests ++ front, request, back, by simp, by simp [hlater, hmiddle, granted]⟩

/-- What counts is what was noted before. -/
theorem Asked.of_requests_eq (hsame : middle.requests = state.requests)
    (hasked : Asked requests answer middle later) : Asked requests answer state later := by
  unfold Asked at hasked ⊢
  rwa [hsame] at hasked

section Programs

variable [FileStore (StateM σ)]

/-! ## Reading -/

/-- No request was made in between. -/
structure Untouched (state later : Noted σ) : Prop where
  requests : later.requests = state.requests
  store : FileStore.Still σ → later.store = state.store

theorem Untouched.trans (hfirst : Untouched state middle) (hsecond : Untouched middle later) :
    Untouched state later :=
  ⟨hsecond.requests.trans hfirst.requests,
    fun hstill => (hsecond.store hstill).trans (hfirst.store hstill)⟩

/-- The program makes no request. -/
def ReadsOnly {α : Type} (program : StateM (Noted σ) α) : Prop :=
  ∀ state : Noted σ, Untouched state (program.run state).2

theorem readsOnly_pure {α : Type} (value : α) : ReadsOnly (pure value : StateM (Noted σ) α) :=
  fun _ => ⟨rfl, fun _ => rfl⟩

theorem ReadsOnly.bind {α β : Type} {program : StateM (Noted σ) α} {next : α → StateM (Noted σ) β}
    (hprogram : ReadsOnly program) (hnext : ∀ value, ReadsOnly (next value)) :
    ReadsOnly (program >>= next) := by
  intro state
  exact (hprogram state).trans (hnext (program.run state).1 (program.run state).2)

theorem readsOnly_read (path : String) :
    ReadsOnly (FileStore.read path : StateM (Noted σ) _) :=
  fun state => ⟨rfl, fun hstill => hstill path state.store⟩

open CommandLine

theorem readsOnly_loadConfiguration (path : String) :
    ReadsOnly (loadConfiguration path : StateM (Noted σ) _) := by
  refine (readsOnly_read path).bind fun result => ?_
  cases result with
  | error fault => exact readsOnly_pure _
  | ok source =>
      simp only
      split <;> exact readsOnly_pure _

theorem readsOnly_addFile (opening done path : String) (add : String → Outcome Generator) :
    ReadsOnly (Generator.addFile opening done path add : StateM (Noted σ) _) := by
  refine (readsOnly_read path).bind fun result => ?_
  cases result with
  | error fault => exact readsOnly_pure _
  | ok text =>
      simp only
      split <;> exact readsOnly_pure _

theorem readsOnly_loadAll {α : Type} {load : Generator → α → StateM (Noted σ) (Outcome Generator)}
    {fault : α → LoadFault} (hload : ∀ generator input, ReadsOnly (load generator input))
    (generator : Generator) (inputs : List α) :
    ReadsOnly (loadAll load fault generator inputs) := by
  induction inputs generalizing generator with
  | nil => exact readsOnly_pure _
  | cons input rest ih =>
      refine (hload generator input).bind fun outcome => ?_
      simp only
      split
      · exact readsOnly_pure _
      · exact (ih _).bind fun result => readsOnly_pure _

theorem readsOnly_loadInputs (configuration : Configuration) :
    ReadsOnly (loadInputs configuration : StateM (Noted σ) _) := by
  refine (readsOnly_loadAll (fun generator source => readsOnly_addFile _ _ _ _) _ _).bind
    fun (records, result) => ?_
  cases result with
  | error fault => exact readsOnly_pure _
  | ok generator =>
      exact (readsOnly_loadAll (fun generator path => readsOnly_addFile _ _ _ _) _ _).bind
        fun result => readsOnly_pure _

/-! ## Writing -/

variable {directory : String} {artifacts : List Artifact}

/-- The request for the directory, if there is something to write. -/
def directoryRequests (directory : String) (artifacts : List Artifact) : List FileRequest :=
  if artifacts.isEmpty then [] else [.makeDirectories directory]

/-- The requests that write artifacts. -/
def writeRequests (directory : String) (artifacts : List Artifact) : List FileRequest :=
  artifacts.map fun artifact => .write (Path.join directory artifact.fileName) artifact.source

theorem asked_of_makeReady
    (hrun : (makeReady directory artifacts : StateM (Noted σ) _).run state = (answer, later)) :
    Asked (directoryRequests directory artifacts) answer state later := by
  unfold makeReady at hrun
  unfold directoryRequests
  split at hrun
  · rename_i hnone
    cases hrun
    rw [if_pos hnone]
    exact Asked.nil _
  · rename_i hsome
    rw [if_neg hsome]
    exact asked_of_ask hrun

/-- Writing stops at the first request that is refused. -/
theorem asked_of_writeArtifacts {summaries : List Summary}
    (hrun : (writeArtifacts directory artifacts : StateM (Noted σ) _).run state =
      ((summaries, answer), later)) :
    Asked (writeRequests directory artifacts) answer state later := by
  induction artifacts generalizing state summaries with
  | nil =>
      cases hrun
      exact Asked.nil _
  | cons first rest ih =>
      obtain ⟨attempt, middle, hwrite, hrun⟩ := run_bind_eq hrun
      have hfirst := asked_of_ask hwrite
      cases attempt with
      | error fault =>
          cases hrun
          exact hfirst.stop (writeRequests directory rest)
      | ok =>
          obtain ⟨⟨others, last⟩, final, hrest, hrun⟩ := run_bind_eq hrun
          cases hrun
          exact hfirst.next (ih hrest)

/-! ## A round -/

/-- The requests of a round that writes artifacts. -/
def roundRequests (directory : String) (artifacts : List Artifact) : List FileRequest :=
  directoryRequests directory artifacts ++ writeRequests directory artifacts

variable {generator : Generator} {explicit environment : Option String}
  {outcome : Outcome Report}

/-- A round that succeeds makes all of its requests. -/
theorem asked_of_generate {report : Report}
    (hrun : (generator.generate explicit environment : StateM (Noted σ) _).run state =
      (outcome, later))
    (hreport : outcome.result = .ok report) :
    ∃ directory preparation, outputDirectory? explicit environment = some directory ∧
      generator.prepare.result = .ok preparation ∧
      report = {
        artifacts := preparation.artifacts.map (Artifact.summary directory)
        diagnostics := preparation.diagnostics } ∧
      Asked (roundRequests directory preparation.artifacts) (.ok ()) state later := by
  obtain ⟨directory, preparation, ready, hdirectory, hprepare, hready, hwrite, rfl⟩ :=
    exists_steps_of_generate hrun hreport
  cases hreport
  exact ⟨directory, preparation, hdirectory, hprepare, rfl,
    (asked_of_makeReady hready).next (asked_of_writeArtifacts hwrite)⟩

/-- A round that finds a directory and prepares makes its requests up to the first one
that is refused, and fails if there is one. -/
theorem asked_of_preparation {preparation : Preparation}
    (hrun : (generator.generate explicit environment : StateM (Noted σ) _).run state =
      (outcome, later))
    (hprepare : generator.prepare.result = .ok preparation) :
    (outputDirectory? explicit environment = none ∧
        outcome.result = .error .noOutputDirectory ∧ later = state) ∨
      ∃ directory, outputDirectory? explicit environment = some directory ∧
        ((∃ report, outcome.result = .ok report) ∨
          ∃ fault, outcome.result = .error (.files fault) ∧
            Asked (roundRequests directory preparation.artifacts) (.error fault) state later) := by
  cases ends_of_generate hrun with
  | homeless hdirectory => exact .inl ⟨hdirectory, rfl, rfl⟩
  | unprepared _ hfailure =>
      rw [hprepare] at hfailure
      cases hfailure
  | unready hdirectory hother hready =>
      cases hprepare.symm.trans hother
      exact .inr ⟨_, hdirectory, .inr ⟨_, rfl, (asked_of_makeReady hready).stop _⟩⟩
  | unwritten hdirectory hother hready hwrite =>
      cases hprepare.symm.trans hother
      exact .inr ⟨_, hdirectory, .inr ⟨_, rfl,
        (asked_of_makeReady hready).next (asked_of_writeArtifacts hwrite)⟩⟩
  | written hdirectory => exact .inr ⟨_, hdirectory, .inl ⟨_, rfl⟩⟩

end Programs

end Noted

end EventDispatch
