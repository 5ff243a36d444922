import NimbusMesh.ControlPlane.Records
import NimbusMesh.ControlPlane.Steps

namespace NimbusMesh

open Foundation Foundation.Execution

namespace Policy

def Steady : Policy → Prop
  | .roundRobin _ => False
  | .spread _ => False
  | _ => True

theorem choose_steady {policy next : Policy} (steady : policy.Steady) {request : InferenceRequest}
    {candidates : List CandidatePlacement} {choice : CandidatePlacement}
    (returned : policy.choose request candidates = .ok (choice, next)) : next = policy := by
  unfold choose at returned
  cases policy with
  | roundRobin cursor => cases steady
  | spread poolCounts => cases steady
  | _ =>
    obtain ⟨picked, _, same⟩ := except_bind_eq_ok.mp returned
    cases same
    rfl

theorem Steady.observeResult {policy : Policy} (steady : policy.Steady) (result : RequestResult) :
    (policy.observeResult result).Steady := by
  cases policy with
  | roundRobin cursor => cases steady
  | spread poolCounts => cases steady
  | _ => exact True.intro

theorem steady_build {name : String} {policy : Policy} (built : build name = .ok policy)
    (other : name ≠ "round_robin" ∧ name ≠ "spread") : policy.Steady := by
  unfold build at built
  split at built
  · rename_i found registered
    cases built
    have named : policy.name = name := by simpa using List.find?_some registered
    cases policy with
    | roundRobin cursor => exact absurd named.symm other.1
    | spread poolCounts => exact absurd named.symm other.2
    | _ => exact True.intro
  · cases built

end Policy

namespace ControlPlane

section Refresh

variable (plane : ControlPlane)

theorem placements_eq_nil :
    plane.placements = [] ↔ ∀ cluster ∈ plane.clusters.toList, cluster.pools.toList = [] := by
  simp [placements, List.flatMap_eq_nil_iff]

theorem refresh_cacheDirectory (now : ℚ) :
    (plane.refresh now).cacheDirectory =
      if plane.placements = [] then plane.cacheDirectory else plane.cacheDirectory.evictStale now := by
  have clusterVisit : ∀ (directory : KVCacheDirectory) (cluster : ClusterRuntime),
      (refreshCluster now directory cluster).1 =
        if cluster.pools.toList = [] then directory else directory.evictStale now := by
    intro directory cluster
    have visited := KeyedList.mapAccum_state (f := refreshPool cluster now) (fun _ _ => rfl)
      (KVCacheDirectory.evictStale · now) (KVCacheDirectory.evictStale_evictStale · now) (fun _ => False)
      (fun _ _ => rfl) directory cluster.pools
    have nothing : (∀ pool ∈ cluster.pools.toList, False) ↔ cluster.pools.toList = [] :=
      List.eq_nil_iff_forall_not_mem.symm
    simp only [nothing] at visited
    exact visited
  have visited := KeyedList.mapAccum_state (f := refreshCluster now) (fun _ _ => rfl)
    (KVCacheDirectory.evictStale · now) (KVCacheDirectory.evictStale_evictStale · now)
    (fun cluster => cluster.pools.toList = []) clusterVisit plane.cacheDirectory plane.clusters
  simp only [← placements_eq_nil] at visited
  exact visited

theorem refreshedPool_refreshedPool {earlier later : ℚ} (le : earlier ≤ later)
    (before after : KVCacheDirectory) (cluster : ClusterRuntime) (pool : PoolRuntime) :
    refreshedPool later after cluster (refreshedPool earlier before cluster pool) =
      refreshedPool later after cluster pool := by
  have inflight : (pool.inflightMemory.filter (fun item => earlier < item.1)).filter (fun item => later < item.1) =
      pool.inflightMemory.filter (fun item => later < item.1) := by
    rw [List.filter_filter]
    apply List.filter_congr
    intro item _
    by_cases running : later < item.1
    · simp [running, lt_of_le_of_lt le running]
    · simp [running]
  simp only [refreshedPool, PoolRuntime.refresh, inflight]

theorem refreshedCluster_refreshedCluster {earlier later : ℚ} (le : earlier ≤ later)
    (before after : KVCacheDirectory) (cluster : ClusterRuntime) :
    refreshedCluster later after (refreshedCluster earlier before cluster) =
      refreshedCluster later after cluster := by
  have pools : ((cluster.pools.map (refreshedPool earlier before cluster)
      (refreshedPool_poolId earlier before cluster)).map (refreshedPool later after cluster)
      (refreshedPool_poolId later after cluster)) = cluster.pools.map (refreshedPool later after cluster)
      (refreshedPool_poolId later after cluster) := by
    ext1
    simp only [KeyedList.map, List.map_map]
    apply List.map_congr_left
    intro pool _
    exact refreshedPool_refreshedPool le before after cluster pool
  exact congrArg (fun pools => { cluster with pools }) pools

theorem placements_refresh_eq_nil (now : ℚ) : (plane.refresh now).placements = [] ↔ plane.placements = [] := by
  obtain ⟨_, _, refreshed⟩ := refresh_eq plane now
  rw [refreshed, placements_eq_nil, placements_eq_nil]
  simp [KeyedList.map, refreshedCluster]

theorem refresh_refresh {earlier later : ℚ} (le : earlier ≤ later) :
    (plane.refresh earlier).refresh later = plane.refresh later := by
  have evicted : (plane.refresh earlier).cacheDirectory.evictStale later = plane.cacheDirectory.evictStale later := by
    rw [refresh_cacheDirectory]
    split
    · rfl
    · exact plane.cacheDirectory.evictStale_evictStale_of_le le
  have directories : ((plane.refresh earlier).refresh later).cacheDirectory = (plane.refresh later).cacheDirectory := by
    rw [refresh_cacheDirectory, refresh_cacheDirectory plane later, evicted]
    simp only [placements_refresh_eq_nil]
    split
    · rename_i none
      rw [refresh_cacheDirectory, if_pos none]
    · rfl
  obtain ⟨first, _, refreshed⟩ := refresh_eq plane earlier
  obtain ⟨last, _, direct⟩ := refresh_eq plane later
  obtain ⟨both, _, again⟩ := refresh_eq (plane.refresh earlier) later
  have clusters : ((plane.refresh earlier).refresh later).clusters = (plane.refresh later).clusters := by
    rw [again, direct, evicted, refreshed]
    ext1
    simp only [KeyedList.map, List.map_map]
    apply List.map_congr_left
    intro cluster _
    exact refreshedCluster_refreshedCluster le _ _ cluster
  calc (plane.refresh earlier).refresh later
      = { plane with
          cacheDirectory := ((plane.refresh earlier).refresh later).cacheDirectory
          clusters := ((plane.refresh earlier).refresh later).clusters } := rfl
    _ = { plane with cacheDirectory := (plane.refresh later).cacheDirectory
                     clusters := (plane.refresh later).clusters } := by rw [directories, clusters]
    _ = plane.refresh later := rfl

end Refresh

section Settled

/-- Nothing is left to evict, to hydrate or to count up. -/
structure Settled (now : ℚ) (plane : ControlPlane) : Prop where
  evicted : plane.placements = [] ∨ plane.cacheDirectory.evictStale now = plane.cacheDirectory
  disabled : plane.cacheDirectory.redisStore.enabled = false
  steady : plane.policy.Steady

variable {plane : ControlPlane} {now : ℚ}

theorem settled_refresh (disabled : plane.cacheDirectory.redisStore.enabled = false) (steady : plane.policy.Steady)
    (now : ℚ) : Settled now (plane.refresh now) := by
  refine ⟨?_, ?_, steady⟩
  · rw [placements_refresh_eq_nil, refresh_cacheDirectory]
    by_cases none : plane.placements = []
    · exact .inl none
    · rw [if_neg none]
      exact .inr (plane.cacheDirectory.evictStale_evictStale now)
  · rw [refresh_cacheDirectory]
    split
    · exact disabled
    · exact disabled

theorem candidatesFor_settled {directory : KVCacheDirectory} (evicted : directory.evictStale now = directory)
    (disabled : directory.redisStore.enabled = false) (request : InferenceRequest)
    (pools : List (ClusterRuntime × PoolRuntime)) :
    stateAfter (plane.candidatesFor request now pools) directory = directory := by
  induction pools with
  | nil => rfl
  | cons placement rest ih =>
    obtain ⟨cluster, pool⟩ := placement
    have scored : stateAfter (KVCacheDirectory.score request cluster.clusterId pool.poolId now) directory =
        directory := by
      rw [KVCacheDirectory.score_state, stateAfter_ok (KVCacheDirectory.prepareScore_disabled _ _ _ disabled), evicted]
    simp only [stateAfter, candidatesFor] at ih scored ⊢
    cases asked : KVCacheDirectory.score request cluster.clusterId pool.poolId now directory with
    | error raised final =>
      rw [asked] at scored
      exact scored
    | ok cache final =>
      rw [asked] at scored
      dsimp only at scored ⊢
      subst scored
      cases plane.assemble request now cluster pool cache with
      | error raised => rfl
      | ok candidate =>
        dsimp only
        cases continued : plane.candidatesFor request now rest final with
        | error raised last =>
          rw [continued] at ih
          exact ih
        | ok candidates last =>
          rw [continued] at ih
          exact ih

theorem buildCandidates_settled (settled : Settled now plane) (request : InferenceRequest) :
    stateAfter (buildCandidates request now) plane = plane := by
  have directory : stateAfter (plane.candidatesFor request now plane.placements) plane.cacheDirectory =
      plane.cacheDirectory := by
    rcases settled.evicted with none | evicted
    · rw [none]
      rfl
    · exact candidatesFor_settled evicted settled.disabled request plane.placements
  rw [stateAfter_buildCandidates, directory]

theorem chooseCandidate_steady (steady : plane.policy.Steady) (request : InferenceRequest)
    (candidates : List CandidatePlacement) : stateAfter (chooseCandidate request candidates) plane = plane := by
  simp only [stateAfter, chooseCandidate]
  cases plane.grpcClient.choose request candidates with
  | error raised => rfl
  | ok grpcIndex =>
    dsimp only
    cases (grpcIndex.orElse fun _ => plane.cppCore.choose request candidates).bind
      (fun index => candidates[index]?) with
    | some choice => rfl
    | none =>
      dsimp only
      cases chosen : plane.policy.choose request candidates with
      | error raised => rfl
      | ok picked =>
        obtain ⟨choice, next⟩ := picked
        rw [Policy.choose_steady steady chosen]

theorem route_settled (settled : Settled now plane) (request : InferenceRequest) :
    stateAfter (route request now) plane = plane :=
  stateAfter_bind (buildCandidates_settled settled request) (fun candidates =>
    stateAfter_bind (chooseCandidate_steady settled.steady request candidates) (fun _ => rfl))

theorem execute_rejected (settled : Settled now plane) {request : InferenceRequest} {result : RequestResult}
    {final : ControlPlane} (returned : execute request now plane = .ok result final)
    (rejected : result.admitted = false) : final = plane := by
  obtain ⟨candidates, directory, choice, cluster, pool, policy, asked, choosing, _, outcome⟩ := execute_eq_ok returned
  have built : buildCandidates request now plane = .ok (plane.cudaEngine.enrichCandidates candidates)
      { plane with cacheDirectory := directory } := by
    simp only [buildCandidates, asked]
  have unmoved := stateAfter_ok built
  rw [buildCandidates_settled settled request] at unmoved
  rw [← unmoved] at choosing
  have chosen := stateAfter_ok choosing
  rw [chooseCandidate_steady settled.steady] at chosen
  rcases outcome with ⟨_, _, rfl⟩ | ⟨_, call, scheduler, _, _, _, _, _, placing, _⟩
  · exact chosen.symm
  · obtain ⟨slotIndex, _, same, _⟩ := placeRequest_eq_ok placing
    rw [same] at rejected
    cases rejected

end Settled

section Events

/-- An arrival of the run itself, or one of the calls made in between: a routing query, noted as a
    submission or not, or an execution that is to end in a rejection. The lookup of the tenant's
    share may have left a default record behind. -/
inductive Event where
  | original (arrival : Arrival)
  | query (arrival : Arrival) (noted recalled : Bool)
  | attempt (arrival : Arrival) (recalled : Bool)

namespace Event

def now : Event → ℚ
  | .original arrival => arrival.now
  | .query arrival _ _ => arrival.now
  | .attempt arrival _ => arrival.now

def original? : Event → Option Arrival
  | .original arrival => some arrival
  | .query _ _ _ => none
  | .attempt _ _ => none

theorem eq_of_original {event : Event} {arrival : Arrival} (kind : event.original? = some arrival) :
    event = .original arrival := by
  cases event with
  | original other =>
    cases kind
    rfl
  | query _ _ _ => cases kind
  | attempt _ _ => cases kind

end Event

def recalled (plane : ControlPlane) (tenantId : String) : ControlPlane :=
  { plane with tenantStats := Dict.set plane.tenantStats tenantId (plane.tenant tenantId) }

def perform : Event → EStateM PyError ControlPlane (Option RequestResult)
  | .original arrival => do
    let result ← serve arrival
    return some result
  | .query arrival noted recalled => fun plane =>
    let refreshed := plane.refresh arrival.now
    let submitted := if noted then refreshed.noteSubmission arrival.request else refreshed
    -- the caller of a query that raises goes on with the state it left
    let asked := stateAfter (route arrival.request arrival.now) submitted
    .ok none (if recalled then asked.recalled arrival.request.tenantId else asked)
  | .attempt arrival recalled => fun plane =>
    let asked := stateAfter (serve arrival) plane
    .ok none (if recalled then asked.recalled arrival.request.tenantId else asked)

def Declined : Event → ControlPlane → Prop
  | .attempt arrival _, plane => (valueOf (serve arrival plane)).map RequestResult.admitted = some false
  | _, _ => True

instance (event : Event) (plane : ControlPlane) : Decidable (Declined event plane) :=
  match event with
  | .original _ => .isTrue True.intro
  | .query _ _ _ => .isTrue True.intro
  | .attempt _ _ => inferInstanceAs (Decidable (_ = some false))

theorem Alike.refl (plane : ControlPlane) : Alike plane plane := ⟨plane.tenantStats, rfl, fun _ => rfl⟩

theorem Alike.trans {first second third : ControlPlane} (left : Alike first second) (right : Alike second third) :
    Alike first third := by
  obtain ⟨stats, rfl, same⟩ := left
  obtain ⟨others, rfl, sameToo⟩ := right
  exact ⟨others, rfl, fun tenantId => (sameToo tenantId).trans (same tenantId)⟩

theorem Alike.refresh {first second : ControlPlane} (alike : Alike first second) (now : ℚ) :
    Alike (first.refresh now) (second.refresh now) := by
  obtain ⟨stats, rfl, same⟩ := alike
  exact ⟨stats, rfl, same⟩

theorem sameCompleted_set (stats : Dict String TenantStats) (tenantId : String) {record : TenantStats}
    (kept : record.completed = completedOf stats tenantId) : SameCompleted stats (Dict.set stats tenantId record) := by
  intro other
  unfold completedOf
  rw [Dict.lookup_set]
  split
  · rename_i same
    rw [← same]
    exact kept
  · rfl

theorem alike_recalled (plane : ControlPlane) (recalled : Bool) (tenantId : String) :
    Alike plane (if recalled then plane.recalled tenantId else plane) := by
  split
  · exact ⟨_, rfl, sameCompleted_set _ tenantId rfl⟩
  · exact .refl plane

theorem alike_noteSubmission (plane : ControlPlane) (noted : Bool) (request : InferenceRequest) :
    Alike plane (if noted then plane.noteSubmission request else plane) := by
  split
  · exact ⟨_, rfl, sameCompleted_set _ request.tenantId rfl⟩
  · exact .refl plane

def Quiet (plane : ControlPlane) : Prop :=
  plane.cacheDirectory.redisStore.enabled = false ∧ plane.policy.Steady

theorem Quiet.alike {first second : ControlPlane} (quiet : Quiet first) (alike : Alike first second) :
    Quiet second := by
  obtain ⟨stats, rfl, _⟩ := alike
  exact quiet

theorem Quiet.refresh {plane : ControlPlane} (quiet : Quiet plane) (now : ℚ) : Quiet (plane.refresh now) :=
  ⟨(settled_refresh quiet.1 quiet.2 now).disabled, quiet.2⟩

theorem Settled.alike {first second : ControlPlane} {now : ℚ} (settled : Settled now first)
    (alike : Alike first second) : Settled now second := by
  obtain ⟨stats, rfl, _⟩ := alike
  exact ⟨settled.evicted, settled.disabled, settled.steady⟩

theorem Quiet.serve {plane final : ControlPlane} (quiet : Quiet plane) {arrival : Arrival} {result : RequestResult}
    (returned : serve arrival plane = .ok result final) : Quiet final := by
  constructor
  · refine @serve_directory (fun directory => directory.redisStore.enabled = false) (fun _ _ off => off) ?_ ?_
      arrival plane final result quiet.1 returned
    · intro _ _ _ _ _ _ _ off scored
      rw [KVCacheDirectory.score_disabled off scored]
      exact off
    · intro observed before after admitted _ off recorded
      have shrinks := KVCacheDirectory.shrinks_observe before observed admitted
      rw [stateAfter_ok recorded] at shrinks
      exact shrinks.enabled.trans off
  · obtain ⟨candidates, directory, choice, cluster, pool, policy, _, choosing, _, outcome⟩ := execute_eq_ok returned
    have before : ({ plane.refresh arrival.now with cacheDirectory := directory } : ControlPlane).policy.Steady :=
      quiet.2
    have chosen := stateAfter_ok choosing
    rw [chooseCandidate_steady before] at chosen
    have same : plane.policy = policy := congrArg ControlPlane.policy chosen
    have steady : policy.Steady := by
      rw [← same]
      exact quiet.2
    rcases outcome with ⟨_, _, rfl⟩ | ⟨_, _, _, _, _, _, _, _, _, rfl⟩
    · exact steady
    · exact steady.observeResult result

theorem perform_extra {event : Event} (extra : event.original? = none) {plane : ControlPlane} (quiet : Quiet plane)
    (declined : Declined event plane) :
    ∃ final, perform event plane = .ok none final ∧ Alike (plane.refresh event.now) final := by
  cases event with
  | original arrival => cases extra
  | query arrival noted recalled =>
    have settled := settled_refresh quiet.1 quiet.2 arrival.now
    have submitted := alike_noteSubmission (plane.refresh arrival.now) noted arrival.request
    refine ⟨_, rfl, submitted.trans ?_⟩
    rw [route_settled (settled.alike submitted)]
    exact alike_recalled _ recalled arrival.request.tenantId
  | attempt arrival recalled =>
    have settled := settled_refresh quiet.1 quiet.2 arrival.now
    refine ⟨_, rfl, ?_⟩
    have unmoved : stateAfter (ControlPlane.serve arrival) plane = plane.refresh arrival.now := by
      obtain ⟨result, value, rejected⟩ := Option.map_eq_some_iff.mp declined
      obtain ⟨final, returned⟩ := valueOf_eq_some.mp value
      rw [stateAfter_ok returned]
      exact execute_rejected settled returned rejected
    rw [unmoved]
    exact alike_recalled _ recalled arrival.request.tenantId

theorem originals_unchanged {events : List Event} {plane other : ControlPlane}
    (alike : ∀ arrival ∈ events.filterMap Event.original?,
      Alike (plane.refresh arrival.now) (other.refresh arrival.now)) (quiet : Quiet other)
    (ordered : events.Pairwise (fun first second => second.original?.isSome → first.now ≤ second.now))
    (declined : Along Declined perform events other) :
    (outcome ((events.mapM perform) other)).map List.reduceOption =
      outcome (run (events.filterMap Event.original?) plane) := by
  induction events generalizing plane other with
  | nil => rfl
  | cons event rest ih =>
    obtain ⟨first, later⟩ := List.pairwise_cons.mp ordered
    cases kind : event.original? with
    | none =>
      obtain ⟨final, performed, left⟩ := perform_extra kind quiet declined.1
      have next := @ih plane final ?_ ((quiet.refresh event.now).alike left) later (declined.next performed)
      · rw [outcome_mapM_cons_ok performed, List.filterMap_cons_none kind, ← next]
        cases outcome ((rest.mapM perform) final) <;> rfl
      · intro arrival member
        obtain ⟨following, inRest, same⟩ := List.mem_filterMap.mp member
        have le : event.now ≤ arrival.now := by
          have bound := first following inRest (by rw [same]; rfl)
          rwa [Event.eq_of_original same] at bound
        have reached := left.refresh arrival.now
        rw [refresh_refresh other le] at reached
        refine (alike arrival ?_).trans reached
        rw [List.filterMap_cons_none kind]
        exact member
    | some arrival =>
      obtain rfl := Event.eq_of_original kind
      have start := alike arrival (by simp [Event.original?])
      rw [List.filterMap_cons_some kind]
      unfold run
      rcases (respects_execute_alike arrival.request arrival.now _ _ start).cases with
        ⟨raised, left, right, served, servedToo, _⟩ | ⟨result, left, right, served, servedToo, reached⟩
      · have performed : perform (.original arrival) other = .error raised right := bind_of_error servedToo _
        rw [outcome_mapM_cons_error performed, @outcome_mapM_cons_error _ _ _ _ serve _ _ _ _ served]
        rfl
      · have performed : perform (.original arrival) other = .ok (some result) right :=
          bind_eq_ok.mpr ⟨result, right, servedToo, rfl⟩
        have next := @ih left right (fun _ _ => reached.refresh _) (quiet.serve servedToo) later
          (declined.next performed)
        rw [outcome_mapM_cons_ok performed, @outcome_mapM_cons_ok _ _ _ _ serve _ _ _ _ served]
        unfold run at next
        rw [← next]
        cases outcome ((rest.mapM perform) right) <;> rfl

/-- Calls made between the arrivals of a run, each no later than any arrival after it, do not change
    what the run returns. -/
theorem queries_leave_no_trace {config : ExperimentConfig} {environment : Environment} {plane : ControlPlane}
    (created : create config environment = .ok plane) (disabled : environment.redisStore.enabled = false)
    (policy : config.policy ≠ "round_robin" ∧ config.policy ≠ "spread") {events : List Event}
    (ordered : events.Pairwise (fun first second => second.original?.isSome → first.now ≤ second.now))
    (declined : Along Declined perform events plane) :
    (outcome ((events.mapM perform) plane)).map List.reduceOption =
      outcome (run (events.filterMap Event.original?) plane) := by
  have quiet : Quiet plane := by
    obtain ⟨chosen, built, same⟩ := except_bind_eq_ok.mp created
    cases same
    exact ⟨disabled, Policy.steady_build built policy⟩
  exact originals_unchanged (fun _ _ => .refl _) quiet ordered declined

theorem queries_leave_no_trace_between_turns :
    let config := { sessionConfig 1 8 80 with policy := "multi_objective" }
    let events : List Event := [.original ⟨sessionRequest 400, 0⟩, .query ⟨sessionRequest 800, 3⟩ true true,
      .attempt ⟨sessionRequest 400000, 2⟩ true, .original ⟨sessionRequest 800, 5⟩]
    ∃ plane, create config (sessionEnvironment (emptyStore false)) = .ok plane ∧
      (valueOf ((events.mapM perform) plane)).map (fun outputs =>
        outputs.map (fun output => output.map RequestResult.cacheSavedTokens)) = some [some 0, none, none, some 380] ∧
      (outcome ((events.mapM perform) plane)).map List.reduceOption =
        outcome (run [⟨sessionRequest 400, 0⟩, ⟨sessionRequest 800, 5⟩] plane) := by
  intro config events
  refine ⟨_, rfl, by decide +kernel, ?_⟩
  exact @queries_leave_no_trace config (sessionEnvironment (emptyStore false)) _ rfl rfl
    ⟨by decide, by decide⟩ events (by decide +kernel) (by decide +kernel)

end Events

end ControlPlane

end NimbusMesh
