import JwSwarm.LinuxNode.ScheduleAgreement
import JwSwarm.WindowsNode.Sessions

namespace JwSwarm.Swarm

open Data Proto Transition Machine FleetManager
open LinuxNode (processAll)
open WindowsNode (NodeConfig TunnelClient TunnelEvent hearRegister introduced
  introduced_concat introduced_mem tunnelClient greeted_run delivered_run
  missed_of_attached)

/-! What the Fleet Manager knows of a Windows node from the frames of its
connection. -/

/-- The node as it introduced itself, behind the tunnel, and the tunnel's
session is the node's. -/
structure Knows (peer : Peer) (tunnel : TunnelId) (register : Register) :
    Prop where
  entry : (peer.registry.nodes.lookup register.nodeId).map
    (fun node => (node.register, node.tx)) = some (register, tunnel)
  session : peer.session.map Session.nodeId = some register.nodeId

variable {app : AppState} {tunnel : TunnelId} {peer : Peer} {now : ℕ}
variable {register : Register} {msg : Message}

private theorem knows_register :
    Knows (peer.process app tunnel now (.register register)) tunnel
      register := by
  constructor
  · simp only [Peer.process, handleMessage, handleRegister,
      Registry.lookup_upsertNode, if_true]
    rfl
  · rfl

theorem entry_modifyNode (registry : Registry) (other nodeId : NodeId)
    (change : NodeState → NodeState)
    (same : ∀ node, ((change node).register, (change node).tx) =
      (node.register, node.tx)) :
    ((registry.modifyNode other change).nodes.lookup nodeId).map
        (fun node => (node.register, node.tx)) =
      (registry.nodes.lookup nodeId).map
        fun node => (node.register, node.tx) := by
  rw [Registry.lookup_modifyNode]
  split
  · rw [Option.map_map]
    exact congrArg (Option.map · _) (funext same)
  · rfl

private theorem session_handleHeartbeat {registry : Registry}
    {session : Option Session} {heartbeat : Heartbeat} :
    (handleHeartbeat app registry session now heartbeat).session.map
      Session.nodeId = session.map Session.nodeId := by
  cases session with
  | none => rfl
  | some own =>
      simp only [handleHeartbeat]
      split
      · rfl
      · rfl

theorem Knows.process (knows : Knows peer tunnel register)
    (other : msg.isRegister = false) :
    Knows (peer.process app tunnel now msg) tunnel register := by
  obtain ⟨entry, session⟩ := knows
  cases msg with
  | register register => cases other
  | heartbeat heartbeat =>
      constructor
      · simp only [Peer.process, handleMessage, registry_handleHeartbeat]
        exact (entry_modifyNode _ _ _ (fun node => { node with
          metrics := some heartbeat.metrics
          scheduleState := heartbeat.scheduleState }) fun _ => rfl).trans entry
      · exact session_handleHeartbeat.trans session
  | modelStatus status =>
      refine ⟨?_, session⟩
      exact (entry_modifyNode _ _ _
        (fun node => { node with readyModels := status.readyModels })
        fun _ => rfl).trans entry
  | scheduleState schedule =>
      refine ⟨?_, session⟩
      exact (entry_modifyNode _ _ _
        (fun node => { node with scheduleState := schedule.state })
        fun _ => rfl).trans entry
  | _ => exact ⟨entry, session⟩

private theorem processAll_concat {timed : List (ℕ × Message)} :
    processAll app tunnel peer (timed ++ [(now, msg)]) =
      (processAll app tunnel peer timed).process app tunnel now msg := by
  rw [processAll, List.foldl_append]
  rfl

theorem knows_processAll {timed : List (ℕ × Message)}
    (known : introduced (timed.map Prod.snd) = some register) :
    Knows (processAll app tunnel peer timed) tunnel register := by
  induction timed using List.reverseRecOn with
  | nil => cases known
  | append_singleton timed last ih =>
      obtain ⟨now, msg⟩ := last
      rw [List.map_append, List.map_singleton, introduced_concat] at known
      rw [processAll_concat]
      cases msg with
      | register latest =>
          obtain rfl := Option.some.inj known
          exact knows_register
      | _ => exact (ih known).process rfl

theorem Knows.catalog (knows : Knows peer tunnel register) :
    (handleMessage app peer.registry tunnel peer.session now
      .catalogRequest).sent =
      [.catalogResponse {
        models := app.catalog.resolveFor register.gpu.vendor }] := by
  obtain ⟨node, found, same⟩ := Option.map_eq_some_iff.mp knows.entry
  obtain ⟨own, present, named⟩ := Option.map_eq_some_iff.mp knows.session
  obtain ⟨rfl, -⟩ := Prod.mk.inj same
  have vendor : (peer.session.bind fun own =>
      peer.registry.nodeVendor own.nodeId) = some node.register.gpu.vendor := by
    rw [present, Option.bind_some, Registry.nodeVendor, named, found]
    rfl
  simp only [handleMessage, handleCatalogRequest, vendor]

variable {config : NodeConfig}
variable {history : History TunnelClient TunnelEvent} {final : TunnelClient}

/-- Once the send pump of a connection has found nothing more to send, the Fleet
Manager, from the frames of that connection alone, has the node in its registry
as the node introduced itself last, behind the connection's tunnel, and it
answered the node's request with the catalog for its GPU; unless `StopAsync`
came in the midst of the greetings, which `missed_of_attached` excludes while
it has not been called. -/
theorem known_when_idle {session : WindowsNode.Session}
    (run : (tunnelClient config).Run history final)
    (phase : final.phase = .pumping session) (idle : session.sender = .waiting)
    (drained : final.outbound = []) (greeting : final.missed = [])
    {reader : TunnelId} {fleet : Peer} {timed : List (ℕ × Message)}
    (read : timed.map Prod.snd = final.written.head?.getD []) :
    ∃ register, introduced final.posted = some register ∧
      Knows (processAll app reader fleet timed) reader register ∧
      ∃ earlier now later, timed = earlier ++ (now, .catalogRequest) :: later ∧
        (handleMessage app (processAll app reader fleet earlier).registry reader
          (processAll app reader fleet earlier).session now
          .catalogRequest).sent =
          [.catalogResponse {
            models := app.catalog.resolveFor config.vendor }] := by
  have greeted := greeted_run run
  have up : final.deliveries.left = some [] := by
    simp only [TunnelClient.deliveries, WindowsNode.RunPhase.left, phase, idle]
    rfl
  have current : final.deliveries.current = timed.map Prod.snd := by
    rw [read]
    simp only [WindowsNode.Deliveries.current, TunnelClient.deliveries,
      WindowsNode.RunPhase.inflight, phase, idle, drained]
    exact List.append_nil _
  have told := greeted.told greeting [] up
  obtain ⟨register, known, posted⟩ := told.registered List.not_mem_nil
  obtain ⟨before, after, whole, introduces⟩ := told.asked List.not_mem_nil
  have vendor : ∀ other, introduced before = some other →
      other.gpu.vendor = config.vendor := by
    intro other introduced
    have carried : .register other ∈ final.deliveries.current := by
      rw [whole]
      exact List.mem_append_left _ (introduced_mem introduced)
    obtain ⟨models, rfl⟩ := greeted.own other
      ((delivered_run run).current_posted carried)
    rfl
  rw [current] at known whole
  refine ⟨register, posted, knows_processAll known, ?_⟩
  obtain ⟨earlier, rest, rfl, past, tail⟩ := List.map_eq_append_iff.mp whole
  obtain ⟨asked, later, rfl, request, -⟩ := List.map_eq_cons_iff.mp tail
  obtain ⟨now, msg⟩ := asked
  obtain rfl : msg = .catalogRequest := request
  obtain ⟨other, introduces⟩ := Option.isSome_iff_exists.mp introduces
  refine ⟨earlier, now, later, rfl, ?_⟩
  rw [← vendor other introduces]
  exact (knows_processAll (past ▸ introduces)).catalog

private def settledEvents : List TunnelEvent :=
  WindowsNode.brokenEvents ++ WindowsNode.writes 4 ++ [.take]

private def atRest (state : TunnelClient) : Bool :=
  state.outbound.isEmpty && state.attached &&
    match state.phase with
    | .pumping { sender := .waiting, .. } => true
    | _ => false

theorem known_when_idle_reconnected :
    ∃ history final,
      (tunnelClient WindowsNode.exampleConfig).Run history final ∧
      final.written.length = 2 ∧
      ∃ register, introduced final.posted = some register ∧
        Knows (processAll bareApp 1 {}
          ((final.written.head?.getD []).map fun msg => (0, msg))) 1
          register := by
  obtain ⟨history, final, run, observed⟩ :=
    (tunnelClient WindowsNode.exampleConfig).exists_run_of_trace settledEvents
      (fun outcome => decide (outcome.2.written.length = 2) && atRest outcome.2)
      (by decide +kernel)
  obtain ⟨two, rests⟩ := (Bool.and_eq_true _ _).mp observed
  obtain ⟨both, still⟩ := (Bool.and_eq_true _ _).mp rests
  obtain ⟨empty, attached⟩ := (Bool.and_eq_true _ _).mp both
  refine ⟨history, final, run, of_decide_eq_true two, ?_⟩
  split at still
  · next receiver cancelled completed phase =>
      have read : ((final.written.head?.getD []).map
          fun msg => (0, msg)).map Prod.snd = final.written.head?.getD [] := by
        rw [List.map_map]
        exact List.map_id _
      obtain ⟨register, known, knows, -⟩ := known_when_idle run phase rfl
        (List.isEmpty_iff.mp empty) (missed_of_attached run attached) read
      exact ⟨register, known, knows⟩
  · cases still

end JwSwarm.Swarm
