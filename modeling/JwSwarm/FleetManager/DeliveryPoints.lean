import JwSwarm.FleetManager.Requests
import JwSwarm.FleetManager.Tasks

namespace JwSwarm.FleetManager

open Data Proto Transition Machine FleetState

/-! The points of a delivery: the size of the model as it was dispatched against
the size that the tunnel of the `Done` knows. -/

variable {app : AppState} {history : History FleetState Event}
variable {before after final : FleetState} {event : Event}
variable {id : RequestId} {tunnel : TunnelId}

/-- The size of the variant of a model that is resolved for a vendor. -/
def resolvedParams (app : AppState) (vendor : GpuVendor) (model : ModelId) :
    Option ℚ :=
  (paramsByModel (app.catalog.resolveFor vendor)).lookup model

/-- A prompt goes out: its node, the model, and the vendor that the node is
registered with. -/
structure Dispatched where
  nodeId : NodeId
  model : ModelId
  vendor : Option GpuVendor

def FleetState.dispatchesAs (state : FleetState) (id : RequestId)
    (event : Event) : Option Dispatched := do
  let (nodeId, _) ← state.dispatches id event
  let call ← state.calls.lookup id
  some {
    nodeId
    model := call.model
    vendor := state.registry.nodeVendor nodeId }

def dispatchedAs (history : History FleetState Event) (id : RequestId) :
    Option Dispatched :=
  history.findSome? fun taken => taken.1.dispatchesAs id taken.2

def Dispatched.params (app : AppState) (dispatched : Dispatched) : Option ℚ :=
  dispatched.vendor.bind fun vendor =>
    resolvedParams app vendor dispatched.model

/-- The tunnel is not registered as another node. -/
def FleetState.maySpeakFor (state : FleetState) (tunnel : TunnelId)
    (nodeId : NodeId) : Bool :=
  (state.sessionNode tunnel).all fun other => other == nodeId

def DbCall.deliveryPoints : DbCall → Option ℚ
  | .creditPoints _ "delivery" points _ => some points
  | _ => none

/-- The node's `Done` is credited by the size of the dispatched variant. -/
def CreditsDispatched (app : AppState) (history : History FleetState Event)
    (state : FleetState) (event : Event) : Prop :=
  ∀ tunnel done after dispatched params,
    event = .receive tunnel (.text (.done done)) →
    step app state event = some after →
    dispatchedAs history done.requestId = some dispatched →
    dispatched.params app = some params →
    state.maySpeakFor tunnel dispatched.nodeId = true →
    ∀ call ∈ (after.tasks.drop state.tasks.length).flatten, ∀ points,
      call.deliveryPoints = some points →
      points = app.accounting.deliveryPoints done.usage params

def Event.registersVendor (tunnel : TunnelId) : Event → Option GpuVendor
  | .receive source (.text (.register register)) =>
      if source = tunnel then some register.gpu.vendor else none
  | _ => none

/-- The vendor of the last `Register` on the tunnel. -/
def registeredVendor (history : History FleetState Event)
    (tunnel : TunnelId) : Option GpuVendor :=
  history.reverse.findSome? fun taken => taken.2.registersVendor tunnel

def Accounting.sizeFactor (params : ℚ) : ℚ :=
  if 0 < params then params / 7 else 1

/-- Either no tokens count, or the tunnel has registered with a vendor whose
variant is of the dispatched size; without a `Register` or a variant, 7B stands
for the model. -/
def sizedAsDispatched (app : AppState) (history : History FleetState Event)
    (tunnel : TunnelId) (usage : Usage) (model : ModelId) (params : ℚ) :
    Bool :=
  usage.completionTokens.toNat = 0 ∨ app.accounting.weights.tokens = 0 ∨
    Accounting.sizeFactor (((registeredVendor history tunnel).bind
        fun vendor => resolvedParams app vendor model).getD 7) =
      Accounting.sizeFactor params

def pricesDispatched (app : AppState) (history : History FleetState Event)
    (state : FleetState) : Event → Bool
  | .receive tunnel (.text (.done done)) =>
      match dispatchedAs history done.requestId with
      | some dispatched =>
          (dispatched.params app).all fun params =>
            !(state.registry.pending.lookup done.requestId).isSome ||
            !state.maySpeakFor tunnel dispatched.nodeId ||
            sizedAsDispatched app history tunnel done.usage dispatched.model
              params
      | none => true
  | _ => true

private theorem dispatchedAs_concat :
    dispatchedAs (history ++ [(before, event)]) id =
      (dispatchedAs history id).or (before.dispatchesAs id event) := by
  simp [dispatchedAs, List.findSome?_append]

private theorem registeredVendor_concat :
    registeredVendor (history ++ [(before, event)]) tunnel =
      (event.registersVendor tunnel).or (registeredVendor history tunnel) := by
  simp only [registeredVendor, List.reverse_append, List.reverse_cons,
    List.reverse_nil, List.nil_append, List.cons_append, List.findSome?_cons]
  cases event.registersVendor tunnel with
  | none => rfl
  | some vendor => rfl

private theorem deliveryPoints_eq_iff {accounting : Accounting} {usage : Usage}
    {own params : ℚ} :
    accounting.deliveryPoints usage own =
        accounting.deliveryPoints usage params ↔
      usage.completionTokens.toNat = 0 ∨ accounting.weights.tokens = 0 ∨
        Accounting.sizeFactor own = Accounting.sizeFactor params := by
  simp only [Accounting.deliveryPoints, Accounting.sizeFactor,
    mul_eq_mul_right_iff, mul_eq_mul_left_iff, Nat.cast_eq_zero]
  tauto

def FleetState.knownSizes (state : FleetState) (tunnel : TunnelId) :
    Option (AList fun _ : ModelId => ℚ) :=
  (state.tunnels[tunnel]?.bind Tunnel.session).map Session.paramsByModel

def Tunnel.sizes (task : Tunnel) : Option (AList fun _ : ModelId => ℚ) :=
  task.session.map Session.paramsByModel

theorem knownSizes_eq (state : FleetState) (tunnel : TunnelId) :
    state.knownSizes tunnel =
      ((state.tunnels.map Tunnel.sizes)[tunnel]?).join := by
  rw [knownSizes, List.getElem?_map]
  cases state.tunnels[tunnel]? with
  | none => rfl
  | some task => rfl

private theorem sizes_handleMessage {registry : Registry}
    {session : Option Session}
    {now : ℕ} {msg : Message} (other : msg.isRegister = false) :
    (handleMessage app registry tunnel session now msg).session.map
      Session.paramsByModel = session.map Session.paramsByModel := by
  cases msg with
  | register register => cases other
  | heartbeat heartbeat =>
      simp only [handleMessage, handleHeartbeat]
      cases session with
      | none => rfl
      | some own =>
          simp only
          split <;> rfl
  | _ => rfl

private theorem knownSizes_stepMessage {task : Tunnel} {msg : Message}
    (found : before.tunnels[tunnel]? = some task) (other : TunnelId) :
    (stepMessage app before tunnel task msg).knownSizes other =
      if other = tunnel then
        (handleMessage app before.registry tunnel task.session before.clock
          msg).session.map Session.paramsByModel
      else before.knownSizes other := by
  obtain ⟨inside, -⟩ := List.getElem?_eq_some_iff.mp found
  simp only [knownSizes, stepMessage, tunnels_deliver, List.getElem?_set]
  by_cases same : other = tunnel
  · subst same
    simp [inside]
  · simp [same, Ne.symm same]

private theorem knownSizes_stepClose {task : Tunnel}
    (found : before.tunnels[tunnel]? = some task) (other : TunnelId) :
    (stepClose before tunnel task).knownSizes other =
      before.knownSizes other := by
  have closed : (stepClose before tunnel task).tunnels =
      before.tunnels.set tunnel { task with phase := .closing } := by
    unfold stepClose
    cases task.session with
    | none => rfl
    | some session => rfl
  rw [knownSizes_eq, knownSizes_eq, closed,
    map_set_of_eq Tunnel.sizes found (by rfl)]

private theorem knownSizes_step
    (taken : step app before event = some after) (other : TunnelId) :
    after.knownSizes other =
      ((event.registersVendor other).map fun vendor =>
        paramsByModel (app.catalog.resolveFor vendor)).or
        (before.knownSizes other) := by
  cases receives : event.isReceive with
  | false =>
      obtain ⟨joined, grown, blank⟩ := tunnels_quiet_map Tunnel.sizes taken
        receives (fun _ _ _ => rfl) (fun _ _ => rfl) (fun _ _ _ _ _ => rfl)
      have silent : event.registersVendor other = none := by
        cases event with
        | receive source frame => cases receives
        | _ => rfl
      rw [silent, knownSizes_eq, knownSizes_eq, grown]
      rcases blank with rfl | rfl
      · rw [List.append_nil]
        rfl
      · rw [List.getElem?_append]
        split
        · rfl
        · next outside =>
            rw [List.getElem?_eq_none (not_lt.mp outside)]
            cases other - (before.tunnels.map Tunnel.sizes).length with
            | zero => rfl
            | succ beyond => rfl
  | true =>
      cases event with
      | receive source frame =>
          obtain ⟨task, found, -, -,
            ⟨msg, rfl, rfl⟩ | ⟨ends, rfl⟩ | ⟨skipped, rfl⟩⟩ :=
            stepReceive_cases taken
          · rw [knownSizes_stepMessage found]
            by_cases same : other = source
            · subst same
              rw [if_pos rfl]
              cases msg with
              | register register => simp [Event.registersVendor, handleMessage,
                  handleRegister]
              | _ =>
                  rw [sizes_handleMessage (by rfl)]
                  simp [Event.registersVendor, knownSizes, found]
            · rw [if_neg same]
              cases msg with
              | register register =>
                  simp [Event.registersVendor, Ne.symm same]
              | _ => rfl
          · rw [knownSizes_stepClose found]
            cases frame with
            | text msg => cases ends
            | _ => rfl
          · rcases skipped with rfl | rfl
            · rfl
            · rfl
      | _ => cases receives

private theorem knownSizes_run (run : (fleetManager app).Run history final)
    (tunnel : TunnelId) :
    final.knownSizes tunnel = (registeredVendor history tunnel).map
      fun vendor => paramsByModel (app.catalog.resolveFor vendor) := by
  induction run with
  | start => rfl
  | @next history before after event run taken ih =>
      rw [knownSizes_step taken, registeredVendor_concat, ih]
      cases event.registersVendor tunnel with
      | none => rfl
      | some vendor => rfl

def FleetState.requestModel (state : FleetState) (id : RequestId) :
    Option ModelId :=
  (state.calls.lookup id).map ChatCall.model

private theorem requestModel_insert {other : RequestId} {call : ChatCall}
    (changed : after.calls = before.calls.insert other call) :
    after.requestModel id =
      if id = other then some call.model else before.requestModel id := by
  rw [requestModel, changed, lookup_insert_apply]
  split
  · rfl
  · rfl

theorem requestModel_kept {call grown : ChatCall} {other : RequestId}
    {model : ModelId} (known : before.requestModel id = some model)
    (found : before.calls.lookup other = some call)
    (changed : after.calls = before.calls.insert other grown)
    (same : grown.model = call.model) :
    after.requestModel id = some model := by
  rw [← known, requestModel_insert changed]
  split
  · next own =>
      rw [own, requestModel, found, same]
      rfl
  · rfl

theorem requestModel_step {model : ModelId}
    (taken : step app before event = some after)
    (known : before.requestModel id = some model) :
    after.requestModel id = some model := by
  by_cases own : event.caller = some id
  · cases event with
    | request other body nodes =>
        obtain rfl := Option.some.inj own
        obtain ⟨fresh, -, -⟩ := stepRequest_cases taken
        rw [requestModel, fresh] at known
        cases known
    | lookupSender other =>
        obtain ⟨call, _, _, found, -, rfl, -⟩ := stepLookupSender_cases taken
        exact requestModel_kept known found rfl rfl
    | registerRequest other =>
        obtain ⟨call, _, _, found, -, rfl⟩ := stepRegisterRequest_cases taken
        exact requestModel_kept known found rfl rfl
    | send other =>
        obtain ⟨call, _, _, _, found, -, -, ⟨-, rfl⟩ | ⟨-, rfl⟩⟩ :=
          stepSend_cases taken
        all_goals exact requestModel_kept known found rfl rfl
    | recv other =>
        obtain ⟨call, _, _, found, -,
          ⟨_, _, -, -, rfl⟩ | ⟨_, _, _, -, -, -, rfl⟩ | ⟨-, -, _, rfl⟩⟩ :=
          stepRecv_cases taken
        all_goals exact requestModel_kept known found rfl rfl
    | disconnect other =>
        obtain ⟨call, _, _, found, -, ⟨-, rfl⟩ | ⟨-, rfl⟩⟩ :=
          stepDisconnect_cases taken
        all_goals exact requestModel_kept known found rfl rfl
    | _ => cases own
  · rcases lookup_calls_foreign taken own with same | ⟨delivered, offered⟩
    · rwa [requestModel, same]
    · obtain ⟨call, found, rfl⟩ := Option.map_eq_some_iff.mp known
      have same : (call.offer delivered).model = call.model := by
        unfold ChatCall.offer
        split
        · rfl
        · rfl
      rw [requestModel, offered, found, ← same]
      rfl

private theorem requestModel_of_pending
    (run : (fleetManager app).Run history final) {entry : PendingMeta}
    (found : final.registry.pending.lookup id = some entry) :
    final.requestModel id = some entry.model := by
  induction run with
  | start => simp [fleetManager] at found
  | @next history before after event run taken ih =>
      have moved : step app before event = some after := taken
      apply requestModel_step moved
      rcases pending_step moved found with earlier |
        ⟨call, nodeId, sender, -, known, -, rfl⟩
      · exact ih earlier
      · rw [requestModel, known]
        rfl

private theorem requestModel_of_dispatchedAs
    (run : (fleetManager app).Run history final) {dispatched : Dispatched}
    (sent : dispatchedAs history id = some dispatched) :
    final.requestModel id = some dispatched.model := by
  induction run with
  | start => cases sent
  | @next history before after event run taken ih =>
      have moved : step app before event = some after := taken
      apply requestModel_step moved
      rw [dispatchedAs_concat] at sent
      rcases Option.or_eq_some_iff.mp sent with earlier | ⟨-, now⟩
      · exact ih earlier
      · simp only [dispatchesAs, Option.bind_eq_bind,
          Option.bind_eq_some_iff] at now
        obtain ⟨target, -, call, known, same⟩ := now
        obtain rfl := Option.some.inj same
        rw [requestModel, known]
        rfl

private theorem sessionParams_eq (run : (fleetManager app).Run history before)
    {task : Tunnel} (found : before.tunnels[tunnel]? = some task)
    (model : ModelId) :
    (task.session.bind fun own => own.paramsByModel.lookup model) =
      (registeredVendor history tunnel).bind
        fun vendor => resolvedParams app vendor model := by
  have sizes := knownSizes_run run tunnel
  rw [knownSizes, found, Option.bind_some] at sizes
  calc (task.session.bind fun own => own.paramsByModel.lookup model)
      = (task.session.map Session.paramsByModel).bind
          fun params => params.lookup model := by rw [Option.bind_map]; rfl
    _ = _ := by rw [sizes, Option.bind_map]; rfl

theorem tasks_done {task : Tunnel} {done : Done}
    (found : before.tunnels[tunnel]? = some task)
    (taken : step app before (.receive tunnel (.text (.done done))) =
      some after) :
    after.tasks.drop before.tasks.length =
      (before.registry.pending.lookup done.requestId).toList.map
        (deliveryTask app before.registry task.session done) := by
  obtain ⟨held, same, -, -, rfl⟩ := stepReceive_text taken
  obtain rfl := Option.some.inj (found.symm.trans same)
  rw [tasks_stepMessage, List.drop_left]
  rfl

private theorem points_done (run : (fleetManager app).Run history before)
    {done : Done} {entry : PendingMeta}
    (pending : before.registry.pending.lookup done.requestId = some entry)
    (taken : step app before (.receive tunnel (.text (.done done))) =
      some after) (points : ℚ) :
    (∃ call ∈ (after.tasks.drop before.tasks.length).flatten,
        call.deliveryPoints = some points) ↔
      points = app.accounting.deliveryPoints done.usage
        (((registeredVendor history tunnel).bind fun vendor =>
          resolvedParams app vendor entry.model).getD 7) := by
  obtain ⟨task, found, -⟩ := stepReceive_text taken
  rw [tasks_done found taken, pending, ← sessionParams_eq run found]
  simp only [Option.toList_some, List.map_cons, List.map_nil, deliveryTask,
    List.flatten_cons, List.flatten_nil, List.append_nil, List.mem_cons,
    List.not_mem_nil, or_false, exists_eq_or_imp, exists_eq_left,
    DbCall.deliveryPoints, Option.some.injEq, reduceCtorEq, false_or]
  exact eq_comm

theorem creditsDone_iff_sized (run : (fleetManager app).Run history before)
    {done : Done} {dispatched : Dispatched} {params : ℚ}
    (taken : step app before (.receive tunnel (.text (.done done))) =
      some after)
    (sent : dispatchedAs history done.requestId = some dispatched) :
    (∀ call ∈ (after.tasks.drop before.tasks.length).flatten, ∀ points,
        call.deliveryPoints = some points →
        points = app.accounting.deliveryPoints done.usage params) ↔
      ((before.registry.pending.lookup done.requestId).isSome = true →
        sizedAsDispatched app history tunnel done.usage dispatched.model
          params = true) := by
  cases pending : before.registry.pending.lookup done.requestId with
  | none =>
      obtain ⟨task, found, -⟩ := stepReceive_text taken
      rw [tasks_done found taken, pending]
      simp
  | some entry =>
      have model : entry.model = dispatched.model :=
        Option.some.inj ((requestModel_of_pending run pending).symm.trans
          (requestModel_of_dispatchedAs run sent))
      have priced := points_done run pending taken
      simp only [model] at priced
      rw [sizedAsDispatched, decide_eq_true_eq, ← deliveryPoints_eq_iff]
      constructor
      · intro credited _
        obtain ⟨call, inside, points⟩ := (priced _).mpr rfl
        exact credited call inside _ points
      · intro sized call inside points credited
        rw [(priced points).mp ⟨call, inside, credited⟩]
        exact sized rfl

private theorem credits_iff_prices (run : (fleetManager app).Run history before)
    (taken : step app before event = some after) :
    CreditsDispatched app history before event ↔
      pricesDispatched app history before event = true := by
  unfold pricesDispatched
  split
  · next tunnel done =>
      constructor
      · intro credits
        cases sent : dispatchedAs history done.requestId with
        | none => rfl
        | some dispatched =>
            simp only [Option.all_eq_true, Bool.or_eq_true, Bool.not_eq_true']
            intro params resolved
            cases own : before.maySpeakFor tunnel dispatched.nodeId with
            | false => exact .inl (.inr rfl)
            | true =>
                have sized := (creditsDone_iff_sized run taken sent).mp
                  (credits tunnel done after dispatched params rfl taken sent
                    resolved own)
                cases pending : (before.registry.pending.lookup
                    done.requestId).isSome with
                | false => exact .inl (.inl rfl)
                | true => exact .inr (sized pending)
      · rintro prices _ _ next dispatched params ⟨⟩ moved sent resolved own
        rw [sent] at prices
        have prices := Option.all_eq_true _ _ |>.mp prices params resolved
        apply (creditsDone_iff_sized run moved sent).mpr
        intro pending
        simpa [pending, own] using prices
  · next other =>
      refine ⟨fun _ => rfl, ?_⟩
      rintro - tunnel done after dispatched params rfl
      exact absurd rfl (other tunnel done)

/-- In a run the points of every delivery are those of the dispatched variant
exactly when every `Done` comes on a tunnel that knows its size. -/
theorem creditsDispatched_iff (run : (fleetManager app).Run history final) :
    Guarded (CreditsDispatched app) history ↔
      Guarded (fun earlier state event =>
        pricesDispatched app earlier state event = true) history := by
  induction run with
  | start => exact ⟨fun _ => Guarded.start, fun _ => Guarded.start⟩
  | next run taken ih =>
      rw [guarded_concat, guarded_concat, ih, credits_iff_prices run taken]

def largeApp : AppState where
  catalog := ⟨[{
    modelAlias := "m"
    displayName := "m"
    variants := [{
      vendor := .nvidia
      backend := .llamaCpp
      downloadUrl := "u"
      sha256 := "d"
      sizeBytes := 40000000000
      contextLength := 4096
      paramsBillions := 70 }] }]⟩

private def hundredTokens : Done where
  requestId := "r"
  usage := { promptTokens := 10, completionTokens := 100, totalTokens := 110 }

private def reconnectEvents : List Event :=
  dispatchEvents "node" ++ [.receive 0 .close, .connect]

def creditedPoints (state : FleetState) : List ℚ :=
  state.tasks.flatten.filterMap DbCall.deliveryPoints

theorem creditsDispatched_iff_registered :
    ∃ history final, (fleetManager largeApp).Run history final ∧
      creditedPoints final = [10] ∧
      Guarded (CreditsDispatched largeApp) history := by
  obtain ⟨history, final, run, observed⟩ :=
    (fleetManager largeApp).exists_run_of_trace
      (reconnectEvents ++
        [.receive 1 (.text (.register (plainRegister "node"))),
          .receive 1 (.text (.done hundredTokens))])
      (fun outcome => creditedPoints outcome.2 = [10] ∧
        admits (pricesDispatched largeApp) [] outcome.1 = true)
      (by decide +kernel)
  obtain ⟨points, admitted⟩ := of_decide_eq_true observed
  exact ⟨history, final, run, points,
    (creditsDispatched_iff run).mpr (guarded_of_admits admitted)⟩

/-- The node's queued `Done` comes before its new `Register`: the 70B model is
credited as one of 7B. -/
theorem early_done_credited_by_default :
    ∃ history final, (fleetManager largeApp).Run history final ∧
      creditedPoints final = [1] ∧
      ¬ Guarded (CreditsDispatched largeApp) history := by
  obtain ⟨history, before, run, observed⟩ :=
    (fleetManager largeApp).exists_run_of_trace reconnectEvents
      (fun outcome =>
        ((step largeApp outcome.2
            (.receive 1 (.text (.done hundredTokens)))).any fun after =>
          creditedPoints after = [1] ∧
            (after.tasks.drop outcome.2.tasks.length).flatten.filterMap
              DbCall.deliveryPoints = [1]) ∧
        (dispatchedAs outcome.1 "r").bind (Dispatched.params largeApp) =
          some 70 ∧
        (dispatchedAs outcome.1 "r").all fun dispatched =>
          outcome.2.maySpeakFor 1 dispatched.nodeId)
      (by decide +kernel)
  obtain ⟨ran, large, own⟩ := of_decide_eq_true observed
  obtain ⟨after, taken, spawned⟩ := Option.any_eq_true _ _ |>.mp ran
  obtain ⟨points, one⟩ := of_decide_eq_true spawned
  have moved : (fleetManager largeApp).step before
      (.receive 1 (.text (.done hundredTokens))) = some after := taken
  refine ⟨_, after, run.next moved, points, fun guarded => ?_⟩
  obtain ⟨dispatched, sent, params⟩ := Option.bind_eq_some_iff.mp large
  have credited : (1 : ℚ) ∈ (after.tasks.drop
      before.tasks.length).flatten.filterMap DbCall.deliveryPoints := by
    rw [one]
    exact List.mem_cons_self
  obtain ⟨call, member, credited⟩ := List.mem_filterMap.mp credited
  have equal := (guarded_concat.mp guarded).2 1 hundredTokens after dispatched
    70 rfl taken sent params (Option.all_eq_true _ _ |>.mp own dispatched sent)
    call member 1 credited
  exact absurd equal (by decide +kernel)

end JwSwarm.FleetManager
