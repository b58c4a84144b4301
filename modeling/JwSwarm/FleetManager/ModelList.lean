import JwSwarm.FleetManager.DispatchTarget

namespace JwSwarm.FleetManager

open Proto Transition Machine

/-! The model list against the router: two filters over the names that nodes
report. -/

variable {app : AppState} {history : History FleetState Event}
variable {final : FleetState} {nodes : List NodeState} {body : Json}
variable {model : ModelId} {created : ℕ}

/-- A chat request evaluated in one state: the node it selects and the tunnel
whose sender it finds. `none` is one of its 503 answers, or a 400. -/
def chatTarget (app : AppState) (state : FleetState) (nodes : List NodeState)
    (body : Json) : Option (NodeId × TunnelId) :=
  match (startCall app nodes body).phase with
  | .picked nodeId =>
      (state.registry.nodeSender nodeId).map fun tunnel => (nodeId, tunnel)
  | _ => none

private theorem mem_listModels_iff :
    (∃ object ∈ listModels app final.registry created, object.id = model) ↔
      model ∈ app.catalog.aliases ∧
        model ∈ final.registry.availableModels := by
  simp [listModels]

private theorem phase_startCall
    (requested : (body.get "model").bind Json.asStr = some model) :
    (startCall app nodes body).phase =
      match Router.pickNode nodes model app.weights with
      | some nodeId => .picked nodeId
      | none => .returned
          (.error 503 ("no node available for model '" ++ model ++ "'")) := by
  cases picked : Router.pickNode nodes model app.weights with
  | none => simp only [startCall, requested, picked]
  | some nodeId => simp only [startCall, requested, picked]

private theorem isSome_chatTarget (run : (fleetManager app).Run history final)
    (listed : nodes.Perm final.registry.snapshot)
    (requested : (body.get "model").bind Json.asStr = some model) :
    (chatTarget app final nodes body).isSome = true ↔
      ∃ node ∈ final.registry.snapshot, node.canServe model = true := by
  have picks : (Router.pickNode nodes model app.weights).isSome = true ↔
      ∃ node ∈ nodes, node.canServe model = true := Router.isSome_pickNode
  simp only [listed.mem_iff] at picks
  rw [← picks, chatTarget, phase_startCall requested]
  cases picked : Router.pickNode nodes model app.weights with
  | none => rfl
  | some nodeId =>
      obtain ⟨node, inside, same, -⟩ := Router.pickNode_cases picked
      obtain ⟨key, found⟩ :=
        Registry.mem_snapshot_iff.mp (listed.mem_iff.mp inside)
      obtain rfl : nodeId = key :=
        same.symm.trans (keyed_run run key node found)
      simp [Registry.nodeSender, found]

/-- A model is listed exactly when it is an alias of the catalog and a chat
request for it, evaluated in the same state, selects a node. -/
theorem listed_iff_alias_and_routed
    (run : (fleetManager app).Run history final)
    (listed : nodes.Perm final.registry.snapshot)
    (requested : (body.get "model").bind Json.asStr = some model) :
    (∃ object ∈ listModels app final.registry created, object.id = model) ↔
      model ∈ app.catalog.aliases ∧
        (chatTarget app final nodes body).isSome = true := by
  rw [mem_listModels_iff, isSome_chatTarget run listed requested,
    Registry.mem_availableModels_iff]

def oneModelApp : AppState where
  catalog := ⟨[{ modelAlias := "m", displayName := "M", variants := [] }]⟩

theorem listed_iff_alias_and_routed_ready :
    ∃ history final, (fleetManager oneModelApp).Run history final ∧
      chatTarget oneModelApp final [readyNode "node" 0]
        (.object [("model", .string "m")]) = some ("node", 0) ∧
      ∃ object ∈ listModels oneModelApp final.registry 7, object.id = "m" := by
  obtain ⟨history, final, run, observed⟩ :=
    (fleetManager oneModelApp).exists_run_of_trace
      [.connect, .receive 0 (.text (.register (plainRegister "node"))),
        .receive 0 (.text (.modelStatus ⟨"node", ["m"]⟩)),
        .receive 0 (.text (.heartbeat ⟨"node", idleMetrics, .awake⟩))]
      (fun outcome =>
        chatTarget oneModelApp outcome.2 [readyNode "node" 0]
          (.object [("model", .string "m")]) = some ("node", 0) ∧
        outcome.2.registry.snapshot = [readyNode "node" 0])
      (by decide +kernel)
  obtain ⟨target, snapshot⟩ := of_decide_eq_true observed
  have requested : ((Json.object [("model", .string "m")]).get "model").bind
      Json.asStr = some "m" := rfl
  have listed : [readyNode "node" 0].Perm final.registry.snapshot :=
    .of_eq (Eq.symm snapshot)
  exact ⟨history, final, run, target,
    (listed_iff_alias_and_routed run listed requested).mpr
      ⟨List.mem_singleton.mpr rfl, Option.isSome_iff_exists.mpr ⟨_, target⟩⟩⟩

/-- A node reports a name that is not in the catalog: it is routed to and not
listed. -/
theorem unlisted_model_is_routed :
    ∃ history final, (fleetManager bareApp).Run history final ∧
      [readyNode "node" 0].Perm final.registry.snapshot ∧
      chatTarget bareApp final [readyNode "node" 0]
        (.object [("model", .string "m")]) = some ("node", 0) ∧
      ∀ created, ¬ ∃ object ∈ listModels bareApp final.registry created,
        object.id = "m" := by
  obtain ⟨history, final, run, observed⟩ :=
    (fleetManager bareApp).exists_run_of_trace
      [.connect, .receive 0 (.text (.register (plainRegister "node"))),
        .receive 0 (.text (.modelStatus ⟨"node", ["m"]⟩)),
        .receive 0 (.text (.heartbeat ⟨"node", idleMetrics, .awake⟩))]
      (fun outcome =>
        chatTarget bareApp outcome.2 [readyNode "node" 0]
          (.object [("model", .string "m")]) = some ("node", 0) ∧
        outcome.2.registry.snapshot = [readyNode "node" 0])
      (by decide +kernel)
  obtain ⟨target, snapshot⟩ := of_decide_eq_true observed
  refine ⟨history, final, run, .of_eq (Eq.symm snapshot), target,
    fun created => ?_⟩
  rintro ⟨object, inside, -⟩
  cases inside

end JwSwarm.FleetManager
