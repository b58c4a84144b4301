import JwSwarm.Proto.Message

namespace JwSwarm.FleetManager

open Proto

/-! The static model catalog: each model alias carries hardware-specific variants. -/

structure Variant where
  vendor : GpuVendor
  backend : Backend
  downloadUrl : String
  sha256 : String
  sizeBytes : UInt64
  contextLength : UInt32
  paramsBillions : ℚ
  deriving DecidableEq

structure ModelEntry where
  modelAlias : ModelId
  displayName : String
  variants : List Variant
  deriving DecidableEq

structure Catalog where
  models : List ModelEntry
  deriving DecidableEq

def ModelEntry.targets (vendor : GpuVendor) (model : ModelEntry) : Bool :=
  model.variants.any fun variant => variant.vendor == vendor

namespace Catalog

def aliases (catalog : Catalog) : List ModelId :=
  catalog.models.map ModelEntry.modelAlias

/-- The artifacts a node of `vendor` can host: the alias is the `id`, and
models without a variant for the vendor are left out. -/
def resolveFor (catalog : Catalog) (vendor : GpuVendor) :
    List CatalogModel :=
  catalog.models.filterMap fun model =>
    (model.variants.find? fun variant => variant.vendor == vendor).map
      fun variant => {
        id := model.modelAlias
        displayName := model.displayName
        downloadUrl := variant.downloadUrl
        sha256 := variant.sha256
        sizeBytes := variant.sizeBytes
        contextLength := variant.contextLength
        paramsBillions := variant.paramsBillions
        backend := variant.backend }

def offered (catalog : Catalog) (vendor : GpuVendor) : List ModelId :=
  (catalog.models.filter (ModelEntry.targets vendor)).map ModelEntry.modelAlias

theorem map_id_resolveFor (catalog : Catalog) (vendor : GpuVendor) :
    (catalog.resolveFor vendor).map CatalogModel.id =
      catalog.offered vendor := by
  unfold resolveFor offered
  induction catalog.models with
  | nil => rfl
  | cons entry entries ih =>
      cases found : entry.variants.find?
          fun variant => variant.vendor == vendor with
      | none =>
          have without : ¬ entry.targets vendor = true := by
            simpa [ModelEntry.targets] using found
          rw [List.filterMap_cons_none (by rw [found]; rfl),
            List.filter_cons_of_neg without]
          exact ih
      | some variant =>
          have fits := List.find?_some found
          have targeted : entry.targets vendor = true :=
            List.any_eq_true.mpr
              ⟨variant, List.mem_of_find?_eq_some found, fits⟩
          rw [List.filterMap_cons_some (by rw [found]; rfl),
            List.filter_cons_of_pos targeted, List.map_cons, List.map_cons]
          exact congrArg _ ih

end Catalog

end JwSwarm.FleetManager
