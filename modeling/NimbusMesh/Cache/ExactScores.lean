import NimbusMesh.Cache.InDoubles

namespace NimbusMesh

open Foundation Foundation.Decimal Foundation.Execution Foundation.Doubles

namespace InDoubles

section Exact

def CacheEntry.ofExact (arithmetic : Arithmetic) (entry : NimbusMesh.CacheEntry) : CacheEntry where
  key := entry.key
  clusterId := entry.clusterId
  poolId := entry.poolId
  sizeTokens := entry.sizeTokens
  sizeGb := arithmetic.literal entry.sizeGb
  availableTs := arithmetic.literal entry.availableTs
  lastTouched := arithmetic.literal entry.lastTouched
  hitCount := entry.hitCount

def TextConversions.ofExact (arithmetic : Arithmetic) (conversions : NimbusMesh.TextConversions) : TextConversions where
  toTextConversions := conversions
  parseDouble := fun text => (conversions.parseFloat text).map arithmetic.literal

def RedisStore.ofExact (arithmetic : Arithmetic) (store : NimbusMesh.RedisStore) : RedisStore where
  enabled := store.enabled
  cacheAffinity := store.cacheAffinity.mapValues .ok
  conversions := .ofExact arithmetic store.conversions
  hgetFault := store.hgetFault

/-- A directory of rational numbers with each of them at its nearest double. -/
def KVCacheDirectory.ofExact (arithmetic : Arithmetic) (directory : NimbusMesh.KVCacheDirectory) :
    KVCacheDirectory where
  ttlS := arithmetic.literal directory.ttlS
  entries := directory.entries.mapValues (List.map (CacheEntry.ofExact arithmetic))
  redisStore := .ofExact arithmetic directory.redisStore

variable {conversions : NimbusMesh.TextConversions} {key : String}

theorem toFloat_exact {value : Json} {converted : ℚ} (returned : conversions.toFloat value = .ok converted) :
    (TextConversions.ofExact .exact conversions).toFloat .exact value = .ok (.finite converted) := by
  cases value with
  | str text =>
    simp only [NimbusMesh.TextConversions.toFloat] at returned
    cases parsed : conversions.parseFloat text with
    | none =>
      rw [parsed] at returned
      cases returned
    | some number =>
      rw [parsed] at returned
      cases returned
      simp [TextConversions.toFloat, TextConversions.ofExact, parsed, Arithmetic.literal, Arithmetic.exact]
  | int whole =>
    simp only [NimbusMesh.TextConversions.toFloat, asFloat] at returned
    split at returned
    · cases returned
      simp only [TextConversions.toFloat, ofInt, Arithmetic.ofInt_exact]
    · cases returned
  | float number =>
    cases returned
    rfl
  | bool truth =>
    cases returned
    rfl
  | null => cases returned
  | nonFinite other => cases returned
  | arr items => cases returned
  | obj fields => cases returned

theorem ofPayload_exact {fields : List (String × Json)} {entry : NimbusMesh.CacheEntry}
    (decoded : NimbusMesh.CacheEntry.ofPayload conversions key fields = .ok entry) :
    CacheEntry.ofPayload .exact (.ofExact .exact conversions) key fields = .ok (.ofExact .exact entry) := by
  obtain ⟨sizeTokens, first, decoded⟩ := except_bind_eq_ok.mp decoded
  obtain ⟨sizeGb, second, decoded⟩ := except_bind_eq_ok.mp decoded
  obtain ⟨availableTs, third, decoded⟩ := except_bind_eq_ok.mp decoded
  obtain ⟨lastTouched, fourth, decoded⟩ := except_bind_eq_ok.mp decoded
  obtain ⟨hitCount, fifth, same⟩ := except_bind_eq_ok.mp decoded
  cases same
  have whole : (TextConversions.ofExact .exact conversions).toTextConversions = conversions := rfl
  unfold CacheEntry.ofPayload
  simp only [whole, first, toFloat_exact second, toFloat_exact third, toFloat_exact fourth, fifth]
  rfl

theorem hydratedEntries_exact {items : List Json} {entries : List NimbusMesh.CacheEntry}
    (decoded : NimbusMesh.hydratedEntries conversions key items = .ok entries) :
    hydratedEntries .exact (.ofExact .exact conversions) key items = .ok (entries.map (CacheEntry.ofExact .exact)) := by
  fun_induction NimbusMesh.hydratedEntries conversions key items generalizing entries with
  | case1 =>
    cases decoded
    rfl
  | case2 fields rest ih =>
    obtain ⟨entry, first, decoded⟩ := except_bind_eq_ok.mp decoded
    obtain ⟨others, later, same⟩ := except_bind_eq_ok.mp decoded
    cases same
    exact except_bind_eq_ok.mpr ⟨_, ofPayload_exact first, except_bind_eq_ok.mpr ⟨_, ih later, rfl⟩⟩
  | case3 item rest other ih =>
    rw [hydratedEntries]
    · exact ih decoded
    · exact other

theorem storedEntries_exact {store : NimbusMesh.RedisStore} {entries : List NimbusMesh.CacheEntry}
    (read : store.storedEntries key = .ok entries) :
    (RedisStore.ofExact .exact store).storedEntries .exact key = .ok (entries.map (CacheEntry.ofExact .exact)) := by
  obtain ⟨fetched, first, read⟩ := except_bind_eq_ok.mp read
  have again : (RedisStore.ofExact .exact store).fetchCacheAffinity key = .ok fetched := by
    by_cases enabled : store.enabled = true
    · cases fault : store.hgetFault with
      | some raised => simp [NimbusMesh.RedisStore.fetchCacheAffinity, enabled, fault] at first
      | none =>
        simp only [NimbusMesh.RedisStore.fetchCacheAffinity, enabled, fault, if_true, Except.ok.injEq] at first
        subst first
        simp only [RedisStore.fetchCacheAffinity, RedisStore.ofExact, enabled, fault, if_true, Dict.lookup_mapValues]
        cases Dict.lookup store.cacheAffinity key <;> rfl
    · simp only [NimbusMesh.RedisStore.fetchCacheAffinity, enabled, Bool.false_eq_true, if_false,
        Except.ok.injEq] at first
      subst first
      simp only [RedisStore.fetchCacheAffinity, RedisStore.ofExact, enabled, Bool.false_eq_true, if_false]
  apply except_bind_eq_ok.mpr ⟨fetched, again, _⟩
  cases fetched with
  | none =>
    cases read
    rfl
  | some payload =>
    simp only at read ⊢
    split at read
    · rename_i truthy
      rw [if_pos truthy]
      cases payload with
      | obj fields =>
        simp only at read ⊢
        cases found : (fields.lookup "entries").getD (.arr []) with
        | arr items =>
          rw [found] at read
          exact hydratedEntries_exact read
        | _ =>
          rw [found] at read
          cases read
          rfl
      | _ => cases read
    · rename_i falsy
      cases read
      rw [if_neg falsy]
      rfl

theorem hitRatio_exact {ttlS now : ℚ} (divides : ttlS ≠ 0) (entry : NimbusMesh.CacheEntry) (clusterId poolId : String) :
    (CacheEntry.ofExact .exact entry).hitRatio .exact (.finite ttlS) clusterId poolId (.finite now) =
      .ok (.finite (entry.hitRatio ttlS clusterId poolId now)) := by
  have located : (CacheEntry.ofExact .exact entry).locationBonus .exact clusterId poolId =
      .finite (entry.locationBonus clusterId poolId) := by
    simp only [CacheEntry.locationBonus, NimbusMesh.CacheEntry.locationBonus, CacheEntry.ofExact,
      Arithmetic.literal_exact, apply_ite Double.finite]
    rfl
  have fresh : (CacheEntry.ofExact .exact entry).freshness .exact (.finite ttlS) (.finite now) =
      .ok (.finite (entry.freshness ttlS now)) := by
    simp only [CacheEntry.freshness, CacheEntry.ofExact, Arithmetic.literal_exact, Arithmetic.sub,
      Arithmetic.round_exact, Arithmetic.div, divides, if_false, Double.max_finite, NimbusMesh.CacheEntry.freshness]
  simp only [CacheEntry.hitRatio, fresh, located]
  show Except.ok (Double.min _ (Arithmetic.exact.mul _ _)) = _
  simp only [Arithmetic.mul, Arithmetic.round_exact, Arithmetic.literal_exact, Double.min_finite,
    NimbusMesh.CacheEntry.hitRatio]

theorem savedTokens_exact (entry : NimbusMesh.CacheEntry) (promptTokens : ℤ) (hitRatio : ℚ) :
    (CacheEntry.ofExact .exact entry).savedTokens .exact promptTokens (.finite hitRatio) =
      .ok (entry.savedTokens promptTokens hitRatio) := by
  simp only [CacheEntry.savedTokens, ofInt, CacheEntry.ofExact, Arithmetic.ofInt_exact]
  refine except_bind_eq_ok.mpr ⟨_, rfl, ?_⟩
  simp only [Arithmetic.mul, Arithmetic.round_exact, toInt, NimbusMesh.CacheEntry.savedTokens]

namespace KVCacheDirectory

theorem bestHit_exact {ttlS now : ℚ} {clusterId poolId : String} {promptTokens : ℤ}
    {entries : List NimbusMesh.CacheEntry} {best found : ℚ × ℤ}
    (returned : NimbusMesh.KVCacheDirectory.bestHit ttlS clusterId poolId promptTokens now entries best = .ok found) :
    bestHit .exact (.finite ttlS) clusterId poolId promptTokens (.finite now)
      (entries.map (CacheEntry.ofExact .exact)) (.finite best.1, best.2) = .ok (.finite found.1, found.2) := by
  induction entries generalizing best with
  | nil =>
    cases returned
    rfl
  | cons entry rest ih =>
    simp only [NimbusMesh.KVCacheDirectory.bestHit] at returned
    have times : (CacheEntry.ofExact .exact entry).availableTs = .finite entry.availableTs := rfl
    simp only [List.map_cons, bestHit, times, Double.finite_lt]
    split at returned
    · rename_i later
      rw [if_pos later]
      exact ih returned
    · rename_i shown
      rw [if_neg shown]
      split at returned
      · cases returned
      · rename_i divides
        simp only [hitRatio_exact divides]
        refine except_bind_eq_ok.mpr ⟨_, rfl, except_bind_eq_ok.mpr ⟨_, savedTokens_exact _ _ _, ?_⟩⟩
        split at returned
        · rename_i better
          rw [if_pos (Double.finite_lt.mpr better)]
          exact ih returned
        · rename_i worse
          rw [if_neg (mt Double.finite_lt.mp worse)]
          exact ih returned

theorem evictStale_exact (directory : NimbusMesh.KVCacheDirectory) (now : ℚ) :
    (ofExact .exact directory).evictStale .exact (.finite now) = ofExact .exact (directory.evictStale now) := by
  have fresh : ∀ entry : NimbusMesh.CacheEntry,
      (ofExact .exact directory).Fresh .exact (.finite now) (.ofExact .exact entry) ↔ directory.Fresh now entry := by
    intro entry
    show ((Arithmetic.exact.round _).Le (.finite _)) ↔ _
    rw [Arithmetic.round_exact, Double.finite_le]
    rfl
  have slots : ∀ slot : String × List NimbusMesh.CacheEntry,
      (ofExact .exact directory).survivors .exact (.finite now) (slot.1, slot.2.map (CacheEntry.ofExact .exact)) =
        (directory.survivors now slot).map (fun kept => (kept.1, kept.2.map (CacheEntry.ofExact .exact))) := by
    intro slot
    have kept : (slot.2.map (CacheEntry.ofExact .exact)).filter
        (fun entry => (ofExact .exact directory).Fresh .exact (.finite now) entry) =
          (slot.2.filter (fun entry => directory.Fresh now entry)).map (CacheEntry.ofExact .exact) := by
      rw [List.filter_map]
      congr 1
      apply List.filter_congr
      intro entry _
      exact decide_eq_decide.mpr (fresh entry)
    simp only [survivors, NimbusMesh.KVCacheDirectory.survivors, kept, List.map_eq_nil_iff]
    split <;> rfl
  have entries : ((ofExact .exact directory).evictStale .exact (.finite now)).entries =
      (ofExact .exact (directory.evictStale now)).entries := by
    ext1
    show (List.map _ _).filterMap _ = (List.filterMap _ _).map _
    rw [List.filterMap_map, List.map_filterMap]
    apply List.filterMap_congr
    intro slot _
    exact slots slot
  have whole : ∀ one other : KVCacheDirectory, one.ttlS = other.ttlS → one.entries = other.entries →
      one.redisStore = other.redisStore → one = other := by
    rintro ⟨_, _, _⟩ ⟨_, _, _⟩ rfl rfl rfl
    rfl
  exact whole _ _ rfl entries rfl

theorem bucket_ofExact (arithmetic : Arithmetic) (directory : NimbusMesh.KVCacheDirectory) (key : String) :
    (ofExact arithmetic directory).bucket key = (directory.bucket key).map (CacheEntry.ofExact arithmetic) := by
  simp only [bucket, ofExact, Dict.lookup_mapValues, NimbusMesh.KVCacheDirectory.bucket]
  cases Dict.lookup directory.entries key <;> rfl

theorem setBucket_ofExact (arithmetic : Arithmetic) (directory : NimbusMesh.KVCacheDirectory) (key : String)
    (entries : List NimbusMesh.CacheEntry) :
    (ofExact arithmetic directory).setBucket key (entries.map (CacheEntry.ofExact arithmetic)) =
      ofExact arithmetic (directory.setBucket key entries) := by
  simp only [setBucket, ofExact, NimbusMesh.KVCacheDirectory.setBucket, Dict.mapValues_set]

theorem prepareScore_exact {request : InferenceRequest} {now : ℚ} {directory prepared : NimbusMesh.KVCacheDirectory}
    (ready : NimbusMesh.KVCacheDirectory.prepareScore request now directory = .ok () prepared) :
    prepareScore .exact request (.finite now) (ofExact .exact directory) = .ok () (ofExact .exact prepared) := by
  simp only [NimbusMesh.KVCacheDirectory.prepareScore] at ready
  simp only [prepareScore, evictStale_exact, bucket_ofExact, List.map_eq_nil_iff]
  split at ready
  · rename_i empty
    rw [if_pos empty]
    simp only [NimbusMesh.KVCacheDirectory.hydrateFromRedis] at ready
    split at ready
    · cases ready
    · rename_i read
      cases ready
      have loaded := storedEntries_exact read
      simp only [hydrateFromRedis, show (ofExact .exact (directory.evictStale now)).redisStore =
        RedisStore.ofExact .exact (directory.evictStale now).redisStore from rfl, loaded]
      rfl
    · rename_i entry rest read
      cases ready
      have loaded := storedEntries_exact read
      rw [← setBucket_ofExact]
      simp only [hydrateFromRedis, show (ofExact .exact (directory.evictStale now)).redisStore =
        RedisStore.ofExact .exact (directory.evictStale now).redisStore from rfl, loaded, List.map_cons]
  · rename_i some
    cases ready
    rw [if_neg some]

/-- Where nothing rounds, the score is the one of the directory of rational numbers. -/
theorem score_exact {request : InferenceRequest} {clusterId poolId : String} {now ratio : ℚ} {saved : ℤ}
    {directory final : NimbusMesh.KVCacheDirectory}
    (scored : NimbusMesh.KVCacheDirectory.score request clusterId poolId now directory = .ok (ratio, saved) final) :
    score .exact request clusterId poolId (.finite now) (ofExact .exact directory) =
      .ok (.finite ratio, saved) (ofExact .exact final) := by
  simp only [NimbusMesh.KVCacheDirectory.score] at scored
  split at scored
  · cases scored
  · rename_i prepared ready
    split at scored
    · cases scored
    · rename_i best returned
      cases scored
      have hit := bestHit_exact returned
      simp only [score, prepareScore_exact ready, bucket_ofExact]
      rw [show (ofExact .exact final).ttlS = .finite final.ttlS from rfl]
      rw [hit]
      simp only [Arithmetic.roundTo, Arithmetic.round_exact]

end KVCacheDirectory

end Exact

end InDoubles

end NimbusMesh
