import NimbusMesh.Workload.Sampling

namespace NimbusMesh

open Foundation Foundation.Decimal Foundation.Execution

theorem InferenceRequest.create_names {digest : String → String} {requestId : Option String}
    {tenantId modelId : String} {promptTokens generationTokens : ℤ} {arrivalTs : ℚ} {slaClass : String}
    {sessionId prefixSignature : Option String} {maxLatencyMs : ℚ} {request : InferenceRequest}
    (returned : InferenceRequest.create digest requestId tenantId modelId promptTokens generationTokens arrivalTs
      slaClass sessionId prefixSignature maxLatencyMs = .ok request) :
    request.tenantId = tenantId ∧ request.modelId = modelId ∧ request.sessionId = sessionId := by
  unfold InferenceRequest.create at returned
  split at returned
  · cases returned
  · split at returned
    · split at returned
      · split at returned
        · cases returned
          exact ⟨rfl, rfl, rfl⟩
        · cases returned
      · cases returned
    · cases returned

namespace WorkloadGenerator

variable {environment : GeneratorEnvironment} {generator final : WorkloadGenerator} {tenantId modelId : String}

def sessionName (tenantId modelId : String) (number : ℕ) : String :=
  s!"{tenantId}-{modelId}-" ++ zeroPadded 4 number

def opened (generator : WorkloadGenerator) (tenantId modelId : String) : ℕ :=
  (generator.sessionsOf tenantId modelId).length

def Numbered (generator : WorkloadGenerator) : Prop := ∀ tenantId modelId,
  generator.sessionsOf tenantId modelId =
    (List.range (generator.opened tenantId modelId)).map (sessionName tenantId modelId)

section Picking

def sessionTable (generator : WorkloadGenerator) : WorkloadConfig × Dict (String × String) (List String) :=
  (generator.config, generator.sessions)

theorem sessionTable_draw {α : Type} (take : ℕ → α) : Preserves sessionTable (draw take) := by
  intro generator value final returned
  cases returned
  rfl

theorem sessionTable_raising {α : Type} (outcome : Except PyError α) : Preserves sessionTable (raising outcome) := by
  intro generator value final returned
  rw [(raising_eq_ok returned).2]

theorem sessionTable_weightedChoice (weights : Dict String ℚ) :
    Preserves sessionTable (weightedChoice environment weights) := by
  simp only [weightedChoice]
  split
  · exact preserves_throw _
  · split
    · exact preserves_throw _
    · split
      · exact preserves_throw _
      · apply (sessionTable_draw _).bind
        intro unit
        split
        · exact preserves_pure _
        · exact preserves_throw _

theorem sessionTable_sampleTokens (distribution : DistributionConfig) :
    Preserves sessionTable (sampleTokens environment distribution) := by
  have sampled : Preserves sessionTable (sampleValue environment distribution) := by
    unfold sampleValue
    cases distribution.distribution with
    | uniform =>
      apply (sessionTable_draw _).bind
      intro unit
      apply (sessionTable_raising _).bind
      intro span
      apply (sessionTable_raising _).bind
      intro first
      exact preserves_pure _
    | normal => exact sessionTable_draw _
    | lognormal =>
      apply (sessionTable_draw _).bind
      intro drawn
      exact sessionTable_raising drawn
  apply sampled.bind
  intro value
  exact preserves_pure _

/-- A session that was opened before, which takes a chance of reuse. -/
structure Reuses (generator final : WorkloadGenerator) (tenantId modelId : String) (number : ℕ) : Prop where
  known : number < generator.opened tenantId modelId
  chance : 0 < generator.config.sessionReuseProbability
  unchanged : sessionTable final = sessionTable generator

structure Opens (generator final : WorkloadGenerator) (tenantId modelId : String) (number : ℕ) : Prop where
  next : number = generator.opened tenantId modelId
  first : 1 ≤ generator.config.sessionReuseProbability → number = 0
  added : sessionTable final = (generator.config, Dict.set generator.sessions (tenantId, modelId)
    (generator.sessionsOf tenantId modelId ++ [sessionName tenantId modelId number]))

theorem choice_eq_ok {α : Type} {population : List α} {chosen : α}
    (returned : choice environment population generator = .ok chosen final) :
    chosen ∈ population ∧ sessionTable final = sessionTable generator := by
  unfold choice at returned
  split at returned
  · cases returned
  · obtain ⟨index, middle, drawing, returned⟩ := bind_eq_ok.mp returned
    have kept := sessionTable_draw _ _ _ _ drawing
    cases found : population[index]? with
    | some value =>
      rw [found] at returned
      obtain ⟨same, reached⟩ := pure_eq_ok.mp returned
      rw [same, reached]
      exact ⟨List.mem_of_getElem? found, kept⟩
    | none =>
      rw [found] at returned
      cases returned

theorem pickSession_eq_ok (numbered : Numbered generator) {sessionId : String}
    (returned : pickSession environment tenantId modelId generator = .ok sessionId final) :
    ∃ number, sessionId = sessionName tenantId modelId number ∧
      (Reuses generator final tenantId modelId number ∨ Opens generator final tenantId modelId number) := by
  obtain ⟨_, _, reading, body⟩ := bind_eq_ok.mp returned
  rw [(get_eq_ok.mp reading).1, (get_eq_ok.mp reading).2] at body
  split at body
  · rename_i none
    have empty : generator.opened tenantId modelId = 0 := by rw [opened, none, List.length_nil]
    cases body
    exact ⟨generator.opened tenantId modelId, rfl, .inr ⟨rfl, fun _ => empty, rfl⟩⟩
  · obtain ⟨unit, middle, drawing, body⟩ := bind_eq_ok.mp body
    have bounds := environment.draws.random_unit generator.drawn
    cases drawing
    split at body
    · rename_i chance
      obtain ⟨chosen, kept⟩ := choice_eq_ok body
      rw [numbered tenantId modelId] at chosen
      obtain ⟨number, known, rfl⟩ := List.mem_map.mp chosen
      exact ⟨number, rfl, .inl ⟨List.mem_range.mp known, bounds.1.trans_lt chance, kept⟩⟩
    · rename_i missed
      cases body
      refine ⟨generator.opened tenantId modelId, rfl, .inr ⟨rfl, fun certain => ?_, rfl⟩⟩
      exact absurd (bounds.2.trans_le certain) missed

theorem opened_congr {other : WorkloadGenerator} (same : sessionTable other = sessionTable generator)
    (tenantId modelId : String) :
    other.sessionsOf tenantId modelId = generator.sessionsOf tenantId modelId ∧
      other.opened tenantId modelId = generator.opened tenantId modelId := by
  have sessions : other.sessions = generator.sessions := congrArg Prod.snd same
  have known : other.sessionsOf tenantId modelId = generator.sessionsOf tenantId modelId := by
    rw [sessionsOf, sessionsOf, sessions]
  exact ⟨known, congrArg List.length known⟩

theorem Numbered.congr {other : WorkloadGenerator} (numbered : Numbered generator)
    (same : sessionTable other = sessionTable generator) : Numbered other := by
  intro tenantId modelId
  obtain ⟨known, count⟩ := opened_congr same tenantId modelId
  rw [known, count]
  exact numbered tenantId modelId

theorem Reuses.congr {before after : WorkloadGenerator} {number : ℕ} (reuses : Reuses before after tenantId modelId number)
    (first : sessionTable before = sessionTable generator) (last : sessionTable final = sessionTable after) :
    Reuses generator final tenantId modelId number where
  known := by
    rw [← (opened_congr first tenantId modelId).2]
    exact reuses.known
  chance := by
    have config : before.config = generator.config := congrArg Prod.fst first
    rw [← config]
    exact reuses.chance
  unchanged := last.trans (reuses.unchanged.trans first)

theorem Opens.congr {before after : WorkloadGenerator} {number : ℕ} (opens : Opens before after tenantId modelId number)
    (first : sessionTable before = sessionTable generator) (last : sessionTable final = sessionTable after) :
    Opens generator final tenantId modelId number := by
  have config : before.config = generator.config := congrArg Prod.fst first
  have sessions : before.sessions = generator.sessions := congrArg Prod.snd first
  obtain ⟨known, count⟩ := opened_congr first tenantId modelId
  constructor
  · rw [← count]
    exact opens.next
  · rw [← config]
    exact opens.first
  · rw [last, opens.added, config, sessions, known]

theorem generateRequest_session (numbered : Numbered generator) {arrivalTs : ℚ} {index : ℕ}
    {request : InferenceRequest}
    (returned : generateRequest environment arrivalTs index generator = .ok request final) :
    ∃ number, request.sessionId = some (sessionName request.tenantId request.modelId number) ∧
      (Reuses generator final request.tenantId request.modelId number ∨
        Opens generator final request.tenantId request.modelId number) := by
  obtain ⟨_, _, reading, body⟩ := bind_eq_ok.mp returned
  rw [(get_eq_ok.mp reading).1, (get_eq_ok.mp reading).2] at body
  obtain ⟨tenantId, g₁, drawing, body⟩ := bind_eq_ok.mp body
  have before₁ := sessionTable_weightedChoice _ _ _ _ drawing
  obtain ⟨modelId, g₂, drawing, body⟩ := bind_eq_ok.mp body
  have before₂ := (sessionTable_weightedChoice _ _ _ _ drawing).trans before₁
  obtain ⟨slaClass, g₃, drawing, body⟩ := bind_eq_ok.mp body
  have before := (sessionTable_weightedChoice _ _ _ _ drawing).trans before₂
  obtain ⟨sessionId, g₄, picking, body⟩ := bind_eq_ok.mp body
  obtain ⟨promptTokens, g₅, drawing, body⟩ := bind_eq_ok.mp body
  have after₅ := sessionTable_sampleTokens _ _ _ _ drawing
  obtain ⟨generationTokens, g₆, drawing, body⟩ := bind_eq_ok.mp body
  have after₆ := (sessionTable_sampleTokens _ _ _ _ drawing).trans after₅
  obtain ⟨hostile, g₇, drawing, body⟩ := bind_eq_ok.mp body
  have after₇ := (sessionTable_draw _ _ _ _ drawing).trans after₆
  obtain ⟨maxLatencyMs, g₈, latency, creating⟩ := bind_eq_ok.mp body
  have after₈ := (sessionTable_raising _ _ _ _ latency).trans after₇
  have after := (sessionTable_raising _ _ _ _ creating).trans after₈
  obtain ⟨tenant, model, session⟩ := InferenceRequest.create_names (raising_eq_ok creating).1
  obtain ⟨number, rfl, picked⟩ := pickSession_eq_ok (numbered.congr before) picking
  rw [tenant, model]
  refine ⟨number, session, ?_⟩
  rcases picked with reuses | opens
  · exact .inl (reuses.congr before after)
  · exact .inr (opens.congr before after)

end Picking

section Runs

def Uses (tenantId modelId : String) (number : ℕ) (request : InferenceRequest) : Prop :=
  request.tenantId = tenantId ∧ request.modelId = modelId ∧
    request.sessionId = some (sessionName tenantId modelId number)

def of (tenantId modelId : String) (requests : List InferenceRequest) : List InferenceRequest :=
  requests.filter (fun request => request.tenantId = tenantId ∧ request.modelId = modelId)

/-- Where a request stands in the sessions of its tenant and model, after the requests before it. -/
structure InOrder (reuse : ℚ) (before : List InferenceRequest) (request : InferenceRequest) (number : ℕ) : Prop where
  session : request.sessionId = some (sessionName request.tenantId request.modelId number)
  earlier : ∀ k < number, ∃ other ∈ before, Uses request.tenantId request.modelId k other
  never : reuse ≤ 0 → number = (of request.tenantId request.modelId before).length
  always : 1 ≤ reuse → number = 0

structure Tracked (config : WorkloadConfig) (generator : WorkloadGenerator) (requests : List InferenceRequest) :
    Prop where
  configured : generator.config = config
  numbered : Numbered generator
  used : ∀ tenantId modelId, ∀ k < generator.opened tenantId modelId, ∃ request ∈ requests, Uses tenantId modelId k request
  never : config.sessionReuseProbability ≤ 0 → ∀ tenantId modelId,
    generator.opened tenantId modelId = (of tenantId modelId requests).length
  always : 1 ≤ config.sessionReuseProbability → ∀ tenantId modelId, generator.opened tenantId modelId ≤ 1

theorem length_of_append (tenantId modelId : String) (requests : List InferenceRequest) (request : InferenceRequest) :
    (of tenantId modelId (requests ++ [request])).length = (of tenantId modelId requests).length +
      if request.tenantId = tenantId ∧ request.modelId = modelId then 1 else 0 := by
  rw [of, List.filter_append, List.length_append, of]
  by_cases same : request.tenantId = tenantId ∧ request.modelId = modelId
  · rw [if_pos same, List.filter_cons_of_pos (by simpa using same)]
    rfl
  · rw [if_neg same, List.filter_cons_of_neg (by simpa using same)]
    rfl

theorem Opens.sessionsOf {number : ℕ} (opens : Opens generator final tenantId modelId number)
    (otherTenant otherModel : String) :
    final.sessionsOf otherTenant otherModel = if tenantId = otherTenant ∧ modelId = otherModel then
      generator.sessionsOf tenantId modelId ++ [sessionName tenantId modelId number]
      else generator.sessionsOf otherTenant otherModel := by
  have sessions := congrArg Prod.snd opens.added
  change final.sessions = _ at sessions
  rw [WorkloadGenerator.sessionsOf, sessions, Dict.lookup_set]
  simp only [Prod.mk.injEq]
  split
  · rfl
  · rfl

theorem Opens.opened {number : ℕ} (opens : Opens generator final tenantId modelId number)
    (otherTenant otherModel : String) :
    final.opened otherTenant otherModel =
      generator.opened otherTenant otherModel + if tenantId = otherTenant ∧ modelId = otherModel then 1 else 0 := by
  rw [WorkloadGenerator.opened, opens.sessionsOf]
  split
  · rename_i same
    rw [List.length_append, same.1, same.2]
    rfl
  · rfl

theorem Opens.numbered {number : ℕ} (opens : Opens generator final tenantId modelId number)
    (numbered : Numbered generator) : Numbered final := by
  intro otherTenant otherModel
  rw [opens.sessionsOf, opens.opened]
  split
  · rename_i same
    rw [same.1, same.2] at opens ⊢
    rw [List.range_succ, List.map_append, ← numbered otherTenant otherModel, opens.next]
    rfl
  · exact numbered otherTenant otherModel

theorem uses_append {requests : List InferenceRequest} {number : ℕ} (request : InferenceRequest)
    (used : ∃ other ∈ requests, Uses tenantId modelId number other) :
    ∃ other ∈ requests ++ [request], Uses tenantId modelId number other := by
  obtain ⟨other, member, uses⟩ := used
  exact ⟨other, List.mem_append_left _ member, uses⟩

theorem Tracked.step {config : WorkloadConfig} {requests : List InferenceRequest}
    (tracked : Tracked config generator requests) {arrivalTs : ℚ} {index : ℕ} {request : InferenceRequest}
    (returned : generateRequest environment arrivalTs index generator = .ok request final) :
    Tracked config final (requests ++ [request]) ∧
      ∃ number, InOrder config.sessionReuseProbability requests request number := by
  obtain ⟨number, session, picked⟩ := generateRequest_session tracked.numbered returned
  have configured := tracked.configured
  rcases picked with reuses | opens
  · have count := fun tenantId modelId => (opened_congr reuses.unchanged tenantId modelId).2
    have chance : ¬ config.sessionReuseProbability ≤ 0 := by
      rw [← configured]
      exact not_le.mpr reuses.chance
    constructor
    · exact {
        configured := (congrArg Prod.fst reuses.unchanged).trans configured
        numbered := tracked.numbered.congr reuses.unchanged
        used := by
          intro tenantId modelId k known
          rw [count] at known
          exact uses_append request (tracked.used tenantId modelId k known)
        never := fun none => absurd none chance
        always := by
          intro certain tenantId modelId
          rw [count]
          exact tracked.always certain tenantId modelId }
    · refine ⟨number, session, ?_, fun none => absurd none chance, ?_⟩
      · intro k smaller
        exact tracked.used _ _ k (smaller.trans reuses.known)
      · intro certain
        have one := tracked.always certain request.tenantId request.modelId
        have known := reuses.known
        omega
  · have config_eq : final.config = config := (congrArg Prod.fst opens.added).trans configured
    have next := opens.next
    constructor
    · exact {
        configured := config_eq
        numbered := opens.numbered tracked.numbered
        used := by
          intro tenantId modelId k known
          by_cases same : request.tenantId = tenantId ∧ request.modelId = modelId
          · rw [opens.opened, if_pos same] at known
            rcases Nat.lt_or_eq_of_le (Nat.le_of_lt_succ known) with earlier | last
            · exact uses_append request (tracked.used tenantId modelId k earlier)
            · rw [same.1, same.2] at next session
              rw [← next] at last
              exact ⟨request, by simp, same.1, same.2, by rw [last]; exact session⟩
          · rw [opens.opened, if_neg same] at known
            exact uses_append request (tracked.used tenantId modelId k known)
        never := by
          intro none tenantId modelId
          rw [opens.opened, length_of_append, tracked.never none]
        always := by
          intro certain tenantId modelId
          have one := tracked.always certain tenantId modelId
          rw [← configured] at certain
          have zero := opens.first certain
          rw [opens.opened]
          by_cases same : request.tenantId = tenantId ∧ request.modelId = modelId
          · rw [same.1, same.2] at next
            rw [if_pos same]
            omega
          · rw [if_neg same]
            omega }
    · refine ⟨number, session, ?_, ?_, ?_⟩
      · intro k smaller
        rw [next] at smaller
        exact tracked.used _ _ k smaller
      · intro none
        rw [next, tracked.never none]
      · intro certain
        rw [← configured] at certain
        exact opens.first certain

theorem sessionTable_generateArrivals : Preserves sessionTable (generateArrivals environment) := by
  have poisson : ∀ (duration rate : ℚ) (remaining : ℕ) (reached : ℚ),
      Preserves sessionTable (poissonArrivals environment duration rate remaining reached) := by
    intro duration rate remaining
    induction remaining with
    | zero => exact fun _ => preserves_pure []
    | succ remaining ih =>
      intro reached
      apply (sessionTable_draw _).bind
      intro gap
      apply (ih _).bind
      intro later
      exact preserves_pure _
  have uniform : ∀ low high : ℚ, Preserves sessionTable (uniform environment low high) := by
    intro low high
    apply (sessionTable_draw _).bind
    intro unit
    exact preserves_pure _
  have bursty : ∀ config, Preserves sessionTable (burstyArrival environment config) := by
    intro config
    apply (sessionTable_draw _).bind
    intro unit
    split
    · apply Preserves.bind (fun s window t chosen => (choice_eq_ok chosen).2)
      intro window
      exact uniform _ _
    · exact uniform _ _
  apply preserves_get_bind
  intro generator
  dsimp only
  cases generator.config.arrivalPattern with
  | uniform => exact preserves_pure _
  | bursty =>
    apply Preserves.bind (fun s times t drawn => mapM_invariant (fun reached => sessionTable reached = sessionTable s)
      (fun _ reached _ next held stepped => (bursty _ reached _ next stepped).trans held) rfl drawn)
    intro times
    exact preserves_pure _
  | poisson => exact poisson _ _ _ _

theorem tracked_fresh (fresh : generator.sessions = KeyedList.empty) : Tracked generator.config generator [] := by
  have none : ∀ tenantId modelId, generator.sessionsOf tenantId modelId = [] := by
    intro tenantId modelId
    rw [sessionsOf, fresh]
    rfl
  have zero : ∀ tenantId modelId, generator.opened tenantId modelId = 0 := by
    intro tenantId modelId
    rw [opened, none, List.length_nil]
  refine ⟨rfl, ?_, ?_, ?_, ?_⟩
  · intro tenantId modelId
    rw [none, zero]
    rfl
  · intro tenantId modelId k known
    rw [zero] at known
    omega
  · intro _ tenantId modelId
    rw [zero]
    rfl
  · intro _ tenantId modelId
    rw [zero]
    omega

/-- Over a whole workload every tenant opens its sessions with a model one after the other: a request is in a session
    whose number comes after numbers that earlier requests of the tenant for the model have all used. Without a chance
    of reuse every request opens a session of its own, and with certain reuse there is only the first. -/
theorem sessions_in_order (environment : GeneratorEnvironment) (generator final : WorkloadGenerator)
    (requests : List InferenceRequest) (fresh : generator.sessions = KeyedList.empty)
    (synthetic : replayedPath generator.config = none)
    (returned : generateRequests environment generator = .ok requests final)
    (before : List InferenceRequest) (request : InferenceRequest) (after : List InferenceRequest)
    (split : requests = before ++ request :: after) :
    ∃ number, InOrder generator.config.sessionReuseProbability before request number := by
  obtain ⟨_, _, reading, body⟩ := bind_eq_ok.mp returned
  rw [(get_eq_ok.mp reading).1, (get_eq_ok.mp reading).2, synthetic] at body
  obtain ⟨times, middle, arriving, drawing⟩ := bind_eq_ok.mp body
  have kept := sessionTable_generateArrivals _ _ _ arriving
  have configured : middle.config = generator.config := congrArg Prod.fst kept
  have initial := tracked_fresh ((congrArg Prod.snd kept).trans fresh)
  rw [configured] at initial
  have run := @run_invariant _ _ _ _ _ (fun _ _ => True) (fun _ _ => True)
    (fun state log => Tracked generator.config state (log.map Prod.snd) ∧
      Stepwise (fun earlier _ request => ∃ number,
        InOrder generator.config.sessionReuseProbability (earlier.map Prod.snd) request number) log)
    (by
      intro state log item request next holds _ _ stepped
      obtain ⟨tracked, ordered⟩ := holds.1.step stepped
      rw [List.map_append]
      exact ⟨tracked, holds.2.snoc ordered⟩)
    times.zipIdx middle final [] requests ⟨initial, stepwise_nil _⟩ (by simp)
    (List.pairwise_of_forall (fun _ _ => True.intro)) (along_true _ _ _) drawing
  have answers : (times.zipIdx.zip requests).map Prod.snd = requests :=
    List.map_snd_zip (mapM_length drawing).le
  rw [List.nil_append] at run
  rw [split] at answers
  obtain ⟨earlier, rest, whole, rfl, later⟩ := List.map_eq_append_iff.mp answers
  obtain ⟨entry, tail, rfl, rfl, _⟩ := List.map_eq_cons_iff.mp later
  rw [← split] at whole
  exact run.2 earlier entry.1 entry.2 tail whole

theorem sessions_in_order_mixed :
    ∃ requests final, generateRequests (traceEnvironment (traceOf [])) { config := mixedConfig } = .ok requests final ∧
      requests.map InferenceRequest.sessionId =
        [some "edge-llama-3-8b-0000", some "edge-llama-3-8b-0001", some "edge-llama-3-8b-0002"] ∧
      ∀ before request after, requests = before ++ request :: after →
        ∃ number, InOrder mixedConfig.sessionReuseProbability before request number := by
  have returns : (valueOf (generateRequests (traceEnvironment (traceOf [])) { config := mixedConfig })).map
      (fun requests => requests.map InferenceRequest.sessionId) =
        some [some "edge-llama-3-8b-0000", some "edge-llama-3-8b-0001", some "edge-llama-3-8b-0002"] := by
    decide +kernel
  obtain ⟨requests, value, sessions⟩ := Option.map_eq_some_iff.mp returns
  obtain ⟨final, returned⟩ := valueOf_eq_some.mp value
  refine ⟨requests, final, returned, sessions, ?_⟩
  intro before request after split
  exact sessions_in_order (traceEnvironment (traceOf [])) { config := mixedConfig } final requests rfl rfl returned
    before request after split

end Runs

end WorkloadGenerator

end NimbusMesh
