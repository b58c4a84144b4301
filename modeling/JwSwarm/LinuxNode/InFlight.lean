import JwSwarm.FleetManager.Selection
import JwSwarm.LinuxNode.Metrics
import JwSwarm.LinuxNode.Node
import JwSwarm.LinuxNode.TerminalFrames

namespace JwSwarm.LinuxNode

open FleetManager.Router (Weights latencyTerm loadTerm scoreMetrics)
open FleetManager.Router (scoreMetrics_terms tpsTerm vramTerm)
open Proto Transition Machine

/-! The load that heartbeats report, beside the prompts that the job queue has
taken and that nobody has answered yet. -/

structure Readings where
  awake : Bool
  output : Option (List Char)
  avgTps : ℚ
  latencyMs : Option ℚ

def Readings.metrics (readings : Readings) : Proto.Metrics :=
  { Metrics.collect readings.output with
    tps := readings.avgTps
    latencyMs := readings.latencyMs.getD 0 }

def sendHb (config : Config) (state : BackendState) (readings : Readings) :
    BackendState :=
  state.send (heartbeat config readings.awake readings.metrics)

inductive LoadEvent where
  | backend (event : BackendEvent)
  | heartbeat (readings : Readings)

def stepLoad (config : Config) (state : BackendState) :
    LoadEvent → Option BackendState
  | .backend event => stepBackend state event
  | .heartbeat readings => some (sendHb config state readings)

/-- The run loop and the worker thread share the tunnel's outbound channel. -/
def loadMachine (config : Config) : Machine BackendState LoadEvent where
  init := {}
  step := stepLoad config

def WorkerPhase.running : WorkerPhase → Bool
  | .exited => false
  | _ => true

def accepts (state : BackendState) : LoadEvent → Bool
  | .backend (.dispatch _ ready _) => ready && state.phase.running
  | _ => false

def concludes : LoadEvent → Bool
  | .backend (.finish (.ok _)) => true
  | .backend (.report serialises) => serialises
  | _ => false

/-- How many jobs the worker leaves unanswered when the step ends it. -/
def abandons (state : BackendState) : LoadEvent → ℕ
  | .backend (.init false) => (pending state).length
  | .backend (.report false) => (pending state).length
  | _ => 0

variable {config : Config} {history : History BackendState LoadEvent}
variable {before after final state : BackendState} {event : LoadEvent}

def accepted (history : History BackendState LoadEvent) : ℕ :=
  history.countP fun taken => accepts taken.1 taken.2

def concluded (history : History BackendState LoadEvent) : ℕ :=
  history.countP fun taken => concludes taken.2

def abandoned (history : History BackendState LoadEvent) : ℕ :=
  (history.map fun taken => abandons taken.1 taken.2).sum

/-- The accepted dispatches for which no `Done` or `Error` has been sent. -/
def unanswered (history : History BackendState LoadEvent) : ℕ :=
  accepted history - concluded history

/-- If the step sends a heartbeat, its load is the number of unanswered
dispatches. -/
def ReportsLoad (config : Config) (history : History BackendState LoadEvent)
    (state : BackendState) (event : LoadEvent) : Prop :=
  ∀ after sent, stepLoad config state event = some after →
    after.frames = state.frames ++ [.heartbeat sent] →
    sent.metrics.inFlight.toNat = unanswered history

/-- A heartbeat finds the worker without a job, queued, current or abandoned. -/
def idle (history : History BackendState LoadEvent) (state : BackendState) :
    LoadEvent → Bool
  | .backend _ => true
  | .heartbeat _ => (pending state).isEmpty && abandoned history == 0

private theorem inFlight_collect (output : Option (List Char)) :
    (Metrics.collect output).inFlight = 0 := by
  unfold Metrics.collect
  cases read : Metrics.nvidia output with
  | none => rfl
  | some metrics =>
      obtain ⟨text, -, parts⟩ := Option.bind_eq_some_iff.mp read
      unfold Metrics.readParts at parts
      split at parts
      · simp only [Option.bind_eq_bind, Option.bind_eq_some_iff,
          Option.pure_def, Option.some.injEq] at parts
        obtain ⟨_, _, _, _, _, _, rfl⟩ := parts
        rfl
      · cases parts

theorem inFlight_metrics (readings : Readings) :
    readings.metrics.inFlight = 0 :=
  inFlight_collect readings.output

/-- The router's penalty for load is the same for every heartbeat. -/
theorem scoreMetrics_metrics (readings : Readings) (weights : Weights) :
    scoreMetrics readings.metrics weights =
      weights.vram * vramTerm readings.metrics +
        weights.tps * tpsTerm readings.metrics -
        weights.latency * latencyTerm readings.metrics := by
  have unloaded : loadTerm readings.metrics = 0 := by
    rw [loadTerm, inFlight_metrics]
    norm_num
  rw [scoreMetrics_terms, unloaded, mul_zero, sub_zero]

private theorem running_iff {phase : WorkerPhase} :
    phase.running = true ↔ phase ≠ .exited := by
  cases phase <;> simp [WorkerPhase.running]

private theorem pending_send {frame : Message} :
    pending (state.send frame) = pending state := rfl

theorem pending_reportError {requestId : RequestId} {message : String}
    {serialises : Bool} :
    pending (reportError state requestId message serialises) =
      pending state := by
  cases serialises <;> rfl

private theorem pending_sendPiece {job : PromptDispatch} {index : ℕ}
    {piece : Option String} {next : WorkerPhase} :
    pending { sendPiece state job index piece with phase := next } =
      pending { state with phase := next } := by
  unfold sendPiece
  split
  · split <;> rfl
  · rfl

private theorem pending_dispatch {prompt : PromptDispatch}
    {ready serialises : Bool} :
    (pending (stepDispatch before prompt ready serialises)).length =
      (pending before).length +
        (accepts before
          (.backend (.dispatch prompt ready serialises))).toNat := by
  cases ready with
  | false => simp [stepDispatch, accepts, pending_reportError]
  | true =>
      unfold stepDispatch
      simp only [if_true]
      split
      · next exited =>
          simp [accepts, pending_reportError, exited, WorkerPhase.running]
      · next alive =>
          simp [accepts, pending, running_iff.mpr alive, Nat.add_assoc]

private theorem pending_turn {job : PromptDispatch} {promptTokens index : ℕ}
    {outcome : Turn}
    (phase : before.phase = .generating job promptTokens index) :
    pending (stepTurn before job promptTokens index outcome) =
      pending before := by
  have same {next : WorkerPhase} (own : next.job = some job) :
      pending { before with phase := next } = pending before := by
    rw [pending_generating phase, pending, own]
    rfl
  unfold stepTurn
  split
  · cases outcome with
    | endOfGeneration => exact same rfl
    | unserialised cause => exact same rfl
    | token piece failure =>
        rw [pending_sendPiece]
        cases failure with
        | none => exact same rfl
        | some error => exact same rfl
  · exact same rfl

theorem pending_step {event : BackendEvent}
    (taken : stepBackend before event = some after) :
    (pending before).length + (accepts before (.backend event)).toNat =
      (pending after).length + (concludes (.backend event)).toNat +
        abandons before (.backend event) := by
  cases event with
  | dispatch prompt ready serialises =>
      obtain rfl := Option.some.inj taken
      exact pending_dispatch.symm
  | init succeeds =>
      simp only [stepBackend] at taken
      split at taken
      · next phase =>
          obtain rfl := Option.some.inj taken
          cases succeeds with
          | true => simp [accepts, concludes, abandons, pending, phase,
              WorkerPhase.job]
          | false => simp [accepts, concludes, abandons, pending, phase,
              WorkerPhase.job, BackendState.exit]
      · cases taken
  | recv =>
      simp only [stepBackend] at taken
      split at taken
      · next job jobs phase queue =>
          obtain rfl := Option.some.inj taken
          simp [accepts, concludes, abandons, pending, phase, queue,
            WorkerPhase.job]
      · cases taken
  | prepare outcome =>
      simp only [stepBackend] at taken
      split at taken
      · next job phase =>
          obtain rfl := Option.some.inj taken
          cases outcome <;> simp [accepts, concludes, abandons, pending, phase,
            WorkerPhase.job]
      · cases taken
  | turn outcome =>
      simp only [stepBackend] at taken
      split at taken
      · next job promptTokens index phase =>
          obtain rfl := Option.some.inj taken
          rw [pending_turn phase]
          rfl
      · cases taken
  | finish outcome =>
      simp only [stepBackend] at taken
      split at taken
      · next job promptTokens completionTokens _ phase =>
          obtain rfl := Option.some.inj taken
          simp [accepts, concludes, abandons, pending, phase, WorkerPhase.job,
            BackendState.send]
      · next job promptTokens completionTokens cause phase =>
          obtain rfl := Option.some.inj taken
          simp [accepts, concludes, abandons, pending, phase, WorkerPhase.job]
      · cases taken
  | report serialises =>
      simp only [stepBackend] at taken
      split at taken
      · next job error phase =>
          cases serialises with
          | true =>
              obtain rfl := Option.some.inj taken
              rw [pending_reportError]
              simp [accepts, concludes, abandons, pending, phase,
                WorkerPhase.job]
          | false =>
              obtain rfl := Option.some.inj taken
              simp [accepts, concludes, abandons, pending, phase,
                WorkerPhase.job, BackendState.exit]
      · cases taken

private theorem accepted_concat : accepted (history ++ [(before, event)]) =
    accepted history + (accepts before event).toNat := by
  cases taking : accepts before event <;> simp [accepted, taking]

private theorem concluded_concat : concluded (history ++ [(before, event)]) =
    concluded history + (concludes event).toNat := by
  cases ending : concludes event <;> simp [concluded, ending]

private theorem abandoned_concat : abandoned (history ++ [(before, event)]) =
    abandoned history + abandons before event := by
  simp [abandoned]

/-- Every accepted dispatch is concluded, abandoned or pending. -/
theorem accepted_run (run : (loadMachine config).Run history final) :
    accepted history =
      concluded history + abandoned history + (pending final).length := by
  induction run with
  | start => rfl
  | @next history before after event run taken ih =>
      rw [accepted_concat, concluded_concat, abandoned_concat, ih]
      cases event with
      | backend event =>
          have books := pending_step taken
          omega
      | heartbeat readings =>
          obtain rfl := Option.some.inj taken
          rw [sendHb, pending_send]
          simp [accepts, concludes, abandons]

private theorem unanswered_run (run : (loadMachine config).Run history final) :
    unanswered history = abandoned history + (pending final).length := by
  rw [unanswered, accepted_run run]
  omega

private theorem step_heartbeat_free {event : BackendEvent} {sent : Heartbeat}
    (taken : stepBackend before event = some after) :
    after.frames ≠ before.frames ++ [.heartbeat sent] := by
  intro whole
  have unchanged : after.frames ≠ before.frames := by
    rw [whole]
    simp
  have other {frame : Message}
      (framesNow : after.frames = before.frames ++ [frame]) :
      frame = .heartbeat sent := by
    rw [whole] at framesNow
    exact (List.cons.inj (List.append_cancel_left framesNow)).1.symm
  cases step_effect taken with
  | quiet undispatched kept pendingSame framesSame passed alive =>
      exact unchanged framesSame
  | queued id dispatched kept pendingNow framesSame phase alive =>
      exact unchanged framesSame
  | refused id message dispatched kept pendingSame framesNow phase =>
      cases other framesNow
  | dropped id dispatched lost same =>
      exact unchanged (congrArg BackendState.frames same)
  | streamed chunk rest undispatched kept current pendingSame framesNow fresh
      passed alive =>
      cases other framesNow
  | answered id rest last undispatched kept current pendingNow framesNow own
      terminal alive =>
      rw [other framesNow] at terminal
      cases terminal
  | ended undispatched kept pendingNow framesSame =>
      exact unchanged framesSame

private theorem reportsLoad_backend {event : BackendEvent} :
    ReportsLoad config history before (.backend event) :=
  fun _ _ taken whole => absurd whole (step_heartbeat_free taken)

theorem reportsLoad_heartbeat {readings : Readings} :
    ReportsLoad config history before (.heartbeat readings) ↔
      unanswered history = 0 := by
  constructor
  · intro reports
    have load := reports _ _ rfl rfl
    rw [inFlight_metrics] at load
    exact load.symm
  · intro none after sent taken whole
    obtain rfl := Option.some.inj taken
    have same := List.append_cancel_left whole
    obtain rfl : _ = sent := Message.heartbeat.inj (List.cons.inj same).1
    rw [inFlight_metrics, none]
    rfl

theorem reportsLoad_iff (run : (loadMachine config).Run history before) :
    ReportsLoad config history before event ↔
      idle history before event = true := by
  cases event with
  | backend event => exact iff_of_true reportsLoad_backend rfl
  | heartbeat readings =>
      rw [reportsLoad_heartbeat, unanswered_run run]
      simp [idle, and_comm]

/-- Every heartbeat of a run reports the unanswered dispatches exactly when
each one finds no job queued, current or abandoned. -/
theorem heartbeats_report_load_iff
    (run : (loadMachine config).Run history final) :
    Guarded (ReportsLoad config) history ↔
      Guarded (fun earlier state event => idle earlier state event = true)
        history := by
  constructor
  · intro reports earlier state event inside
    exact (reportsLoad_iff (run.of_prefix inside)).mp
      (reports earlier state event inside)
  · intro idles earlier state event inside
    exact (reportsLoad_iff (run.of_prefix inside)).mpr
      (idles earlier state event inside)

def smallConfig : Config where
  nodeId := "node"
  hostname := "host"
  limits := { gpuPowerPct := 100, memoryLimitMb := 8192 }
  selectedModels := []

def unread : Readings where
  awake := true
  output := none
  avgTps := 0
  latencyMs := none

/-- Heartbeats before the only prompt and after its answer. -/
theorem heartbeats_report_load_around :
    ∃ history final, (loadMachine smallConfig).Run history final ∧
      accepted history = 1 ∧ Guarded (ReportsLoad smallConfig) history := by
  obtain ⟨history, final, run, observed⟩ :=
    (loadMachine smallConfig).exists_run_of_trace
      [.heartbeat unread, .backend (.init true),
        .backend (.dispatch (smallPrompt "r") true true), .backend .recv,
        .backend (.prepare (.ok 2)), .backend (.turn .endOfGeneration),
        .backend (.finish (.ok ())), .heartbeat unread]
      (fun outcome => accepted outcome.1 = 1 ∧
        admits idle [] outcome.1 = true)
      (by decide +kernel)
  obtain ⟨once, admitted⟩ := of_decide_eq_true observed
  exact ⟨history, final, run, once,
    (heartbeats_report_load_iff run).mpr (guarded_of_admits admitted)⟩

/-- The heartbeat finds one prompt in the queue and reports no load. -/
theorem queued_prompt_not_reported :
    ∃ history final, (loadMachine smallConfig).Run history final ∧
      unanswered history = 1 ∧
      ¬ Guarded (ReportsLoad smallConfig) history := by
  let queued : LoadEvent := .backend (.dispatch (smallPrompt "r") true true)
  let loaded : BackendState := { jobs := [smallPrompt "r"] }
  have run : (loadMachine smallConfig).Run
      ([] ++ [((loadMachine smallConfig).init, queued)] ++
        [(loaded, .heartbeat unread)])
      (sendHb smallConfig loaded unread) :=
    .next (.next .start rfl) rfl
  refine ⟨_, _, run, rfl, fun reports => ?_⟩
  have last := (guarded_concat.mp reports).2
  exact absurd (reportsLoad_heartbeat.mp last) Nat.one_ne_zero

end JwSwarm.LinuxNode
