import JwSwarm.Data.AssocMap
import JwSwarm.LinuxNode.Node

namespace JwSwarm.LinuxNode

open Data Proto Transition FleetManager Machine

/-! The catalog as it is resolved for a vendor, and what the Fleet Manager's
parameter table, the node's catalog table and its download loop make of it. -/

/-- `cat`, which `handle_msg` clears and fills from a `CatalogResponse`. -/
def catalogTable (models : List CatalogModel) :
    AList fun _ : ModelId => CatalogModel :=
  insertAll CatalogModel.id id ∅ models

def received (history : History RunState RunEvent) : List CatalogModel :=
  history.foldl (fun models taken =>
    match taken.2 with
    | .catalogResponse others => others
    | _ => models) []

/-- The entry that the run loop is about to claim for download. -/
def claiming (state : RunState) : Option CatalogModel :=
  match state.todo with
  | .claim model :: _ => some model
  | _ => none

/-- Whenever a run loop, in the branch for a response with these models, comes
to claim a download, both tables hold for the id the entry it acts on. -/
def TablesAgree (models : List CatalogModel) : Prop :=
  ∀ (app : AppState) (tunnel : TunnelId) (config : Config) (host : Host)
    (awake : Bool) (peer : Peer) (history : History RunState RunEvent)
    (state : RunState) (model : CatalogModel),
    (node app tunnel config host awake peer).Run history state →
    received history = models → claiming state = some model →
    (catalogTable models).lookup model.id = some model ∧
      (paramsByModel models).lookup model.id = some model.paramsBillions

structure Unambiguous (catalog : Catalog) (vendor : GpuVendor) : Prop where
  counted : ∀ name,
    ((catalog.resolveFor vendor).map CatalogModel.id).count name =
      if name ∈ catalog.offered vendor then 1 else 0
  distinct : ((catalog.resolveFor vendor).map CatalogModel.id).Nodup
  agree : TablesAgree (catalog.resolveFor vendor)

variable {app : AppState} {tunnel : TunnelId} {config : Config} {host : Host}
variable {awake : Bool} {peer : Peer} {catalog : Catalog} {vendor : GpuVendor}
variable {history : History RunState RunEvent} {state before after : RunState}
variable {event : RunEvent} {model : CatalogModel} {models : List CatalogModel}

def LoopOp.entry : LoopOp → Option CatalogModel
  | .consider model => some model
  | .claim model => some model
  | _ => none

private theorem received_concat :
    received (history ++ [(before, event)]) =
      match event with
      | .catalogResponse models => models
      | _ => received history := by
  rw [received, List.foldl_concat]
  cases event <;> rfl

private def pendingEntries (state : RunState) : List CatalogModel :=
  state.todo.filterMap LoopOp.entry

private theorem pendingEntries_loop
    (taken : step app tunnel config host before .loop = some after) :
    pendingEntries after ⊆ pendingEntries before := by
  obtain ⟨op, rest, todo, ran⟩ := step_loop taken
  have before_eq : pendingEntries before = (op :: rest).filterMap LoopOp.entry :=
    congrArg _ todo
  rw [before_eq]
  cases ran with
  | considered selected backend unready => exact List.Subset.refl _
  | passed unwanted => exact List.subset_cons_self _ _
  | refused busy => exact List.subset_cons_self _ _
  | claimed free fresh => exact List.subset_cons_self _ _
  | sent => exact List.Subset.refl _
  | reported => exact List.Subset.refl _

private theorem pendingEntries_step
    (taken : step app tunnel config host before event = some after) :
    pendingEntries after ⊆
      match event with
      | .catalogResponse models => models
      | _ => pendingEntries before := by
  cases event with
  | loop => exact pendingEntries_loop taken
  | catalogResponse models =>
      obtain ⟨-, rfl⟩ := wake_eq_some.mp taken
      intro model member
      simpa [pendingEntries, List.filterMap_append, LoopOp.entry] using member
  | heartbeatTick awakeNow metrics =>
      obtain ⟨-, rfl⟩ := wake_eq_some.mp taken
      intro model member
      simp only [pendingEntries] at member
      split at member <;> cases member
  | repollTick =>
      obtain ⟨-, rfl⟩ := wake_eq_some.mp taken
      intro model member
      simp only [pendingEntries] at member
      split at member <;> cases member
  | connectedChanged metrics =>
      obtain ⟨-, rfl⟩ := wake_eq_some.mp taken
      intro model member
      simp only [pendingEntries] at member
      split at member <;> cases member
  | connection connected =>
      obtain rfl := Option.some.inj taken
      exact List.Subset.refl _
  | download task succeeds =>
      obtain ⟨download, -, ended⟩ := stepDownload_ends taken
      cases ended with
      | succeeded phase => exact List.Subset.refl _
      | failed phase => exact List.Subset.refl _
  | advance task sizeMb =>
      obtain ⟨download, -, advanced⟩ := stepAdvance_advances taken
      cases advanced <;> exact List.Subset.refl _
  | stream event =>
      obtain rfl := Option.some.inj taken
      exact List.Subset.refl _
  | process now =>
      obtain ⟨msg, rest, -, rfl⟩ := step_process taken
      exact List.Subset.refl _

private theorem pendingEntries_subset_received
    (run : (node app tunnel config host awake peer).Run history state) :
    pendingEntries state ⊆ received history := by
  induction run with
  | start => exact List.Subset.refl _
  | @next history before after event run taken ih =>
      have stepped := pendingEntries_step taken
      rw [received_concat]
      cases event with
      | catalogResponse models => exact stepped
      | _ => exact List.Subset.trans stepped ih

private theorem tablesAgree_of_nodup
    (distinct : (models.map CatalogModel.id).Nodup) : TablesAgree models := by
  intro app tunnel config host awake peer history state model run handled acts
  subst handled
  have member : model ∈ received history := by
    apply pendingEntries_subset_received run
    unfold claiming at acts
    split at acts
    · next claimed rest todo =>
        obtain rfl := Option.some.inj acts
        rw [pendingEntries, todo]
        exact List.mem_cons_self
    · cases acts
  exact ⟨lookup_insertAll_of_mem distinct member,
    lookup_insertAll_of_mem distinct member⟩

/-- A catalog resolves unambiguously for a vendor exactly where no two of its
models with a variant for the vendor share an alias. -/
theorem unambiguous_iff (catalog : Catalog) (vendor : GpuVendor) :
    Unambiguous catalog vendor ↔ (catalog.offered vendor).Nodup := by
  have ids := catalog.map_id_resolveFor vendor
  constructor
  · intro unambiguous
    rw [← ids]
    exact unambiguous.distinct
  · intro distinct
    have nodup := ids ▸ distinct
    refine ⟨fun name => ?_, nodup, tablesAgree_of_nodup nodup⟩
    rw [ids]
    split
    · next offered => exact List.count_eq_one_of_mem distinct offered
    · next absent => exact List.count_eq_zero.mpr absent

def smallVariant : Variant where
  vendor := .amd
  backend := .llamaCpp
  downloadUrl := "https://example.com/qwen3-coder-7b.gguf"
  sha256 := "aaa"
  sizeBytes := 4683073024
  contextLength := 32768
  paramsBillions := 7

def largeVariant : Variant where
  vendor := .amd
  backend := .llamaCpp
  downloadUrl := "https://example.com/qwen3-coder-32b.gguf"
  sha256 := "bbb"
  sizeBytes := 19851336256
  contextLength := 32768
  paramsBillions := 32

def repeatedAlias : Catalog where
  models := [
    { modelAlias := "qwen3-coder"
      displayName := "Qwen3 Coder"
      variants := [smallVariant] },
    { modelAlias := "qwen3-coder"
      displayName := "Qwen3 Coder 32B"
      variants := [largeVariant] }]

private def amdNode : Machine RunState RunEvent :=
  node { catalog := repeatedAlias } 0
    { nodeId := "node"
      hostname := "host"
      limits := { gpuPowerPct := 100, memoryLimitMb := 24000 }
      selectedModels := [] }
    { vendor := .amd, gpuName := "gpu" } true {}

/-- The loop claims the small model; both tables hold the large one. -/
theorem repeatedAlias_ambiguous :
    ¬ ((repeatedAlias.resolveFor .amd).map CatalogModel.id).Nodup ∧
      ¬ TablesAgree (repeatedAlias.resolveFor .amd) ∧
        ¬ Unambiguous repeatedAlias .amd := by
  have distinct :
      ¬ ((repeatedAlias.resolveFor .amd).map CatalogModel.id).Nodup := by
    decide
  have apart : ¬ TablesAgree (repeatedAlias.resolveFor .amd) := by
    intro agree
    obtain ⟨history, state, run, observed⟩ := amdNode.exists_run_of_trace
      [.catalogResponse (repeatedAlias.resolveFor .amd), .loop]
      (fun outcome =>
        received outcome.1 = repeatedAlias.resolveFor .amd ∧
          claiming outcome.2 = (repeatedAlias.resolveFor .amd).head?)
      (by decide +kernel)
    obtain ⟨handled, acts⟩ := of_decide_eq_true observed
    have held := (agree _ _ _ _ _ _ _ _ _ run handled acts).2
    exact absurd held (by decide +kernel)
  exact ⟨distinct, apart, fun holds => distinct holds.distinct⟩

end JwSwarm.LinuxNode
