import NimbusMesh.ControlPlane.Agreement

namespace NimbusMesh

open Foundation Foundation.Execution

def completedOf (stats : Dict String TenantStats) (tenantId : String) : ℕ :=
  ((Dict.lookup stats tenantId).getD {}).completed

/-- No tenant's completions differ. A tenant without a record has completed nothing. -/
def SameCompleted (first second : Dict String TenantStats) : Prop :=
  ∀ tenantId, completedOf second tenantId = completedOf first tenantId

theorem completedOf_eq (stats : Dict String TenantStats) (tenantId : String) :
    completedOf stats tenantId = ((stats.get? tenantId).map (fun slot => slot.2.completed)).getD 0 := by
  unfold completedOf Dict.lookup
  cases stats.get? tenantId <;> rfl

theorem SameCompleted.total {first second : Dict String TenantStats} (same : SameCompleted first second) :
    ((Dict.values second).map TenantStats.completed).sum = ((Dict.values first).map TenantStats.completed).sum := by
  have bounded : ∀ {smaller larger : Dict String TenantStats}, SameCompleted smaller larger →
      ((Dict.values smaller).map TenantStats.completed).sum ≤ ((Dict.values larger).map TenantStats.completed).sum := by
    intro smaller larger equal
    unfold Dict.values
    rw [List.map_map, List.map_map]
    refine KeyedList.sum_le_sum (fun slot : String × TenantStats => slot.2.completed) (fun _ _ => Nat.zero_le _) ?_
    intro tenantId
    rw [← completedOf_eq, ← completedOf_eq, equal tenantId]
  exact le_antisymm (bounded (fun tenantId => (same tenantId).symm)) (bounded same)

theorem SameCompleted.set {first second : Dict String TenantStats} (same : SameCompleted first second)
    (tenantId : String) {left right : TenantStats} (equal : right.completed = left.completed) :
    SameCompleted (Dict.set first tenantId left) (Dict.set second tenantId right) := by
  intro other
  unfold completedOf
  rw [Dict.lookup_set, Dict.lookup_set]
  split
  · exact equal
  · exact same other

namespace ControlPlane

def withStats (stats : Dict String TenantStats) (plane : ControlPlane) : ControlPlane :=
  { plane with tenantStats := stats }

/-- Two planes that differ in nothing a placement depends on: only in records that have counted
    the same completions. -/
def Alike (first second : ControlPlane) : Prop :=
  ∃ stats, second = first.withStats stats ∧ SameCompleted first.tenantStats stats

variable {stats : Dict String TenantStats}

theorem fairnessPenalty_withStats {plane : ControlPlane} (same : SameCompleted plane.tenantStats stats)
    (tenantId : String) : (plane.withStats stats).fairnessPenalty tenantId = plane.fairnessPenalty tenantId := by
  have total := same.total
  have own : ((plane.withStats stats).tenant tenantId).completed = (plane.tenant tenantId).completed :=
    same tenantId
  have configs : (plane.withStats stats).config = plane.config := rfl
  have records : (plane.withStats stats).tenantStats = stats := rfl
  simp only [fairnessPenalty, own, configs, records, total]

theorem candidatesFor_withStats {plane : ControlPlane} (same : SameCompleted plane.tenantStats stats)
    (request : InferenceRequest) (now : ℚ) (placements : List (ClusterRuntime × PoolRuntime)) :
    (plane.withStats stats).candidatesFor request now placements =
      plane.candidatesFor request now placements := by
  induction placements with
  | nil => rfl
  | cons placement rest ih =>
    obtain ⟨cluster, pool⟩ := placement
    funext start
    have assembled : (plane.withStats stats).assemble request now cluster pool =
        plane.assemble request now cluster pool := by
      funext cache
      simp only [assemble, fairnessPenalty_withStats same]
      rfl
    simp only [candidatesFor, assembled, ih]

theorem respects_buildCandidates_alike (request : InferenceRequest) (now : ℚ) :
    Respects Alike (buildCandidates request now) := by
  rintro first _ ⟨stats, rfl, same⟩
  have placements : (first.withStats stats).placements = first.placements := rfl
  have directories : (first.withStats stats).cacheDirectory = first.cacheDirectory := rfl
  simp only [buildCandidates, placements, directories, candidatesFor_withStats same]
  cases first.candidatesFor request now first.placements first.cacheDirectory with
  | error raised directory => exact .error ⟨stats, rfl, same⟩
  | ok candidates directory => exact .ok ⟨stats, rfl, same⟩

theorem respects_place_alike (call : PlacementCall) (cluster : ClusterRuntime) (pool : PoolRuntime) :
    Respects Alike (place call cluster pool) := by
  rintro first _ ⟨stats, rfl, same⟩
  have directories : (first.withStats stats).cacheDirectory = first.cacheDirectory := rfl
  simp only [place, directories]
  cases placeRequest call ⟨pool, first.cacheDirectory⟩ with
  | error raised scheduler => exact .error ⟨stats, rfl, same⟩
  | ok result scheduler =>
    refine .ok ⟨_, rfl, same.set result.request.tenantId ?_⟩
    exact congrArg (· + 1) (same result.request.tenantId)

theorem congruent_alike : Congruent Alike where
  chosenBy := by
    rintro first _ ⟨stats, rfl, _⟩
    exact ⟨rfl, rfl, rfl, rfl⟩
  updated := by
    rintro first _ policy ⟨stats, rfl, same⟩
    exact ⟨stats, rfl, same⟩

theorem respects_execute_alike (request : InferenceRequest) (now : ℚ) : Respects Alike (execute request now) :=
  congruent_alike.execute (respects_buildCandidates_alike request now) respects_place_alike

end ControlPlane

end NimbusMesh
