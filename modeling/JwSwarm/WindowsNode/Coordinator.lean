import JwSwarm.WindowsNode.Backend

namespace JwSwarm.WindowsNode

open Data Proto Transition Machine

/-! The downloads of the Windows coordinator. `HandleCatalog` runs on the
receive pump, one catalog after the other, and each download in a task of its
own; they meet in the backend's table of ready models and in the two tables
behind the download lock. -/

structure Fingerprint where
  url : String
  sha256 : String
  deriving DecidableEq

def fingerprint (model : CatalogModel) : Fingerprint where
  url := model.downloadUrl
  sha256 := model.sha256

/-- Where `DownloadModelAsync` is: in the downloader, back from it, past
`Register`, past an exception, and past the lock. -/
inductive DownloadPhase where
  | fetching
  | fetched
  | registered
  | caught
  | ended
  deriving DecidableEq

structure DownloadTask where
  model : CatalogModel
  phase : DownloadPhase := .fetching

/-- What `HandleCatalog` does next with the first of the models left. -/
inductive PassPhase where
  | examining
  | claiming
  | starting
  deriving DecidableEq

structure NodeCoordinator where
  selectedModels : List ModelId
  manager : BackendManager
  downloading : KeySet ModelId := ∅
  failedFingerprints : AList fun _ : ModelId => Fingerprint := ∅
  downloads : List DownloadTask := []
  pass : List CatalogModel := []
  passPhase : PassPhase := .examining

/-- `select` is the owner's, `fetch` how the downloader ends, `file` what is
then found in the model's directory. -/
inductive CoordinatorEvent where
  | select (models : List ModelId)
  | catalog (models : List CatalogModel)
  | examine
  | claim
  | start
  | fetch (index : ℕ) (succeeds : Bool)
  | register (index : ℕ) (file : Artifact)
  | conclude (index : ℕ)

namespace NodeCoordinator

def selected (state : NodeCoordinator) (model : CatalogModel) : Bool :=
  state.selectedModels.isEmpty || state.selectedModels.contains model.id

def skip (state : NodeCoordinator) (rest : List CatalogModel) :
    NodeCoordinator :=
  { state with pass := rest, passPhase := .examining }

/-- Only artifacts for llama.cpp can run on this node. -/
def examine (state : NodeCoordinator) (model : CatalogModel)
    (rest : List CatalogModel) : NodeCoordinator :=
  if !state.selected model then state.skip rest
  else if model.backend ≠ .llamaCpp then state.skip rest
  else if model.id ∈ state.manager.ready then state.skip rest
  else { state with passPhase := .claiming }

def claim (state : NodeCoordinator) (model : CatalogModel)
    (rest : List CatalogModel) : NodeCoordinator :=
  if model.id ∈ state.downloading then state.skip rest
  else if
      state.failedFingerprints.lookup model.id = some (fingerprint model) then
    state.skip rest
  else { state with
    downloading := state.downloading.insert model.id
    passPhase := .starting }

def start (state : NodeCoordinator) (model : CatalogModel)
    (rest : List CatalogModel) : NodeCoordinator :=
  { state.skip rest with downloads := state.downloads ++ [{ model }] }

def setPhase (state : NodeCoordinator) (index : ℕ) (task : DownloadTask)
    (phase : DownloadPhase) : NodeCoordinator :=
  { state with downloads := state.downloads.set index { task with phase } }

/-- The part of `DownloadModelAsync` behind the download lock. -/
def succeed (state : NodeCoordinator) (id : ModelId) : NodeCoordinator :=
  { state with
    downloading := state.downloading.erase id
    failedFingerprints := state.failedFingerprints.erase id }

def fail (state : NodeCoordinator) (model : CatalogModel) : NodeCoordinator :=
  { state with
    downloading := state.downloading.erase model.id
    failedFingerprints :=
      state.failedFingerprints.insert model.id (fingerprint model) }

section Pass

variable {state : NodeCoordinator} {model : CatalogModel}
variable {rest : List CatalogModel}

theorem examine_cases :
    state.examine model rest = state.skip rest ∨
      state.examine model rest = { state with passPhase := .claiming } := by
  unfold examine
  split
  · exact .inl rfl
  · split
    · exact .inl rfl
    · split
      · exact .inl rfl
      · exact .inr rfl

theorem claim_cases :
    state.claim model rest = state.skip rest ∨
      model.id ∉ state.downloading ∧
      state.failedFingerprints.lookup model.id ≠ some (fingerprint model) ∧
      state.claim model rest = { state with
        downloading := state.downloading.insert model.id
        passPhase := .starting } := by
  unfold claim
  split
  case isTrue => exact .inl rfl
  case isFalse absent =>
    split
    case isTrue => exact .inl rfl
    case isFalse untried => exact .inr ⟨absent, untried, rfl⟩

end Pass

def fetch (state : NodeCoordinator) (index : ℕ) (succeeds : Bool)
    (task : DownloadTask) : Option NodeCoordinator :=
  match task.phase with
  | .fetching =>
      some (state.setPhase index task (if succeeds then .fetched else .caught))
  | _ => none

def register (state : NodeCoordinator) (index : ℕ) (file : Artifact)
    (task : DownloadTask) : Option NodeCoordinator :=
  match task.phase with
  | .fetched =>
      some { state.setPhase index task .registered with
        manager := state.manager.register task.model.id file }
  | _ => none

def conclude (state : NodeCoordinator) (index : ℕ) (task : DownloadTask) :
    Option NodeCoordinator :=
  match task.phase with
  | .registered =>
      some ((state.setPhase index task .ended).succeed task.model.id)
  | .caught => some ((state.setPhase index task .ended).fail task.model)
  | _ => none

end NodeCoordinator

def stepCoordinator (state : NodeCoordinator) :
    CoordinatorEvent → Option NodeCoordinator
  | .select models => some { state with selectedModels := models }
  | .catalog models =>
      match state.pass with
      | [] => some (state.skip models)
      | _ :: _ => none
  | .examine =>
      match state.pass, state.passPhase with
      | model :: rest, .examining => some (state.examine model rest)
      | _, _ => none
  | .claim =>
      match state.pass, state.passPhase with
      | model :: rest, .claiming => some (state.claim model rest)
      | _, _ => none
  | .start =>
      match state.pass, state.passPhase with
      | model :: rest, .starting => some (state.start model rest)
      | _, _ => none
  | .fetch index succeeds =>
      state.downloads[index]?.bind (state.fetch index succeeds)
  | .register index file =>
      state.downloads[index]?.bind (state.register index file)
  | .conclude index => state.downloads[index]?.bind (state.conclude index)

def coordinator (memoryLimitMb : ℕ) (selectedModels : List ModelId) :
    Machine NodeCoordinator CoordinatorEvent where
  init := { selectedModels, manager := .new memoryLimitMb }
  step := stepCoordinator

variable {limitMb : ℕ} {selected : List ModelId}
variable {state after : NodeCoordinator} {event : CoordinatorEvent}
variable {history : History NodeCoordinator CoordinatorEvent}

inductive CoordinatorMove (state : NodeCoordinator) :
    CoordinatorEvent → NodeCoordinator → Prop
  | select (models : List ModelId) :
      CoordinatorMove state (.select models)
        { state with selectedModels := models }
  | catalog (models : List CatalogModel) (idle : state.pass = []) :
      CoordinatorMove state (.catalog models) (state.skip models)
  | examine {model : CatalogModel} {rest : List CatalogModel}
      (head : state.pass = model :: rest)
      (phase : state.passPhase = .examining) :
      CoordinatorMove state .examine (state.examine model rest)
  | claim {model : CatalogModel} {rest : List CatalogModel}
      (head : state.pass = model :: rest)
      (phase : state.passPhase = .claiming) :
      CoordinatorMove state .claim (state.claim model rest)
  | start {model : CatalogModel} {rest : List CatalogModel}
      (head : state.pass = model :: rest)
      (phase : state.passPhase = .starting) :
      CoordinatorMove state .start (state.start model rest)
  | fetch {index : ℕ} {task : DownloadTask} (succeeds : Bool)
      (found : state.downloads[index]? = some task)
      (phase : task.phase = .fetching) :
      CoordinatorMove state (.fetch index succeeds)
        (state.setPhase index task (if succeeds then .fetched else .caught))
  | register {index : ℕ} {task : DownloadTask} (file : Artifact)
      (found : state.downloads[index]? = some task)
      (phase : task.phase = .fetched) :
      CoordinatorMove state (.register index file)
        { state.setPhase index task .registered with
          manager := state.manager.register task.model.id file }
  | succeed {index : ℕ} {task : DownloadTask}
      (found : state.downloads[index]? = some task)
      (phase : task.phase = .registered) :
      CoordinatorMove state (.conclude index)
        ((state.setPhase index task .ended).succeed task.model.id)
  | fail {index : ℕ} {task : DownloadTask}
      (found : state.downloads[index]? = some task)
      (phase : task.phase = .caught) :
      CoordinatorMove state (.conclude index)
        ((state.setPhase index task .ended).fail task.model)

theorem coordinator_move (taken : stepCoordinator state event = some after) :
    CoordinatorMove state event after := by
  cases event with
  | select models =>
      cases taken
      exact .select models
  | catalog models =>
      simp only [stepCoordinator] at taken
      split at taken
      · next idle =>
          cases taken
          exact .catalog models idle
      · cases taken
  | examine =>
      simp only [stepCoordinator] at taken
      split at taken
      · next head phase =>
          cases taken
          exact .examine head phase
      · cases taken
  | claim =>
      simp only [stepCoordinator] at taken
      split at taken
      · next head phase =>
          cases taken
          exact .claim head phase
      · cases taken
  | start =>
      simp only [stepCoordinator] at taken
      split at taken
      · next head phase =>
          cases taken
          exact .start head phase
      · cases taken
  | fetch index succeeds =>
      obtain ⟨task, found, taken⟩ := Option.bind_eq_some_iff.mp taken
      unfold NodeCoordinator.fetch at taken
      split at taken
      · next phase =>
          cases taken
          exact .fetch succeeds found phase
      · cases taken
  | register index file =>
      obtain ⟨task, found, taken⟩ := Option.bind_eq_some_iff.mp taken
      unfold NodeCoordinator.register at taken
      split at taken
      · next phase =>
          cases taken
          exact .register file found phase
      · cases taken
  | conclude index =>
      obtain ⟨task, found, taken⟩ := Option.bind_eq_some_iff.mp taken
      unfold NodeCoordinator.conclude at taken
      split at taken
      · next phase =>
          cases taken
          exact .succeed found phase
      · next phase =>
          cases taken
          exact .fail found phase
      · cases taken

end JwSwarm.WindowsNode
