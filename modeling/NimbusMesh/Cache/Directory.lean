import Mathlib.Data.List.Sort
import Mathlib.Data.Prod.Lex
import Mathlib.Data.String.Basic
import NimbusMesh.Foundation.Execution
import NimbusMesh.Storage.RedisStore

namespace NimbusMesh

open Foundation Foundation.Decimal Foundation.Execution

structure CacheEntry where
  key : String
  clusterId : String
  poolId : String
  sizeTokens : ℤ
  sizeGb : ℚ
  availableTs : ℚ
  lastTouched : ℚ
  hitCount : ℤ := 0
  deriving DecidableEq, Repr

def CacheEntry.At (entry : CacheEntry) (clusterId poolId : String) : Prop :=
  entry.clusterId = clusterId ∧ entry.poolId = poolId

instance (entry : CacheEntry) (clusterId poolId : String) : Decidable (entry.At clusterId poolId) :=
  inferInstanceAs (Decidable (_ ∧ _))

namespace CacheEntry

def freshness (entry : CacheEntry) (ttlS now : ℚ) : ℚ :=
  max 0.1 (1.0 - (now - entry.lastTouched) / ttlS)

def locationBonus (entry : CacheEntry) (clusterId poolId : String) : ℚ :=
  if entry.clusterId = clusterId ∧ entry.poolId = poolId then 1.0
  else if entry.clusterId = clusterId then 0.7
  else 0.35

def hitRatio (entry : CacheEntry) (ttlS : ℚ) (clusterId poolId : String) (now : ℚ) : ℚ :=
  min 0.95 (entry.freshness ttlS now * entry.locationBonus clusterId poolId)

def savedTokens (entry : CacheEntry) (promptTokens : ℤ) (hitRatio : ℚ) : ℤ :=
  truncate ((min entry.sizeTokens promptTokens : ℤ) * hitRatio)

def payload (entry : CacheEntry) : Json :=
  .obj [("cluster_id", .str entry.clusterId), ("pool_id", .str entry.poolId),
    ("size_tokens", .int entry.sizeTokens), ("size_gb", .float entry.sizeGb),
    ("available_ts", .float entry.availableTs), ("last_touched", .float entry.lastTouched),
    ("hit_count", .int entry.hitCount)]

def ofPayload (conversions : TextConversions) (key : String) (fields : List (String × Json)) :
    Except PyError CacheEntry := do
  let field (name : String) (default : Json) := (fields.lookup name).getD default
  let clusterId := conversions.toStr (field "cluster_id" (.str ""))
  let poolId := conversions.toStr (field "pool_id" (.str ""))
  let sizeTokens ← conversions.toInt (field "size_tokens" (.int 0))
  let sizeGb ← conversions.toFloat (field "size_gb" (.float 0))
  let availableTs ← conversions.toFloat (field "available_ts" (.float 0))
  let lastTouched ← conversions.toFloat (field "last_touched" (.float 0))
  let hitCount ← conversions.toInt (field "hit_count" (.int 0))
  return { key, clusterId, poolId, sizeTokens, sizeGb, availableTs, lastTouched, hitCount }

end CacheEntry

def hydratedEntries (conversions : TextConversions) (key : String) :
    List Json → Except PyError (List CacheEntry)
  | [] => .ok []
  | .obj fields :: rest => do
    let entry ← CacheEntry.ofPayload conversions key fields
    let entries ← hydratedEntries conversions key rest
    return entry :: entries
  | _ :: rest => hydratedEntries conversions key rest

def RedisStore.storedEntries (store : RedisStore) (key : String) : Except PyError (List CacheEntry) := do
  match ← store.fetchCacheAffinity key with
  | none => return []
  | some payload =>
    if payload.truthy then
      match payload with
      | .obj fields =>
        match (fields.lookup "entries").getD (.arr []) with
        | .arr items => hydratedEntries store.conversions key items
        | _ => return []
      | other => .error (.attributeError s!"'{other.typeName}' object has no attribute 'get'")
    else return []

def cacheKey (request : InferenceRequest) : String :=
  request.modelId ++ ":" ++ request.tenantId ++ ":" ++ request.prefixSignature

structure KVCacheDirectory where
  ttlS : ℚ := 180.0
  maxEntries : ℤ := 20000
  entries : Dict String (List CacheEntry)
  redisStore : RedisStore

namespace KVCacheDirectory

def bucket (directory : KVCacheDirectory) (key : String) : List CacheEntry :=
  (Dict.lookup directory.entries key).getD []

def setBucket (directory : KVCacheDirectory) (key : String) (entries : List CacheEntry) :
    KVCacheDirectory :=
  { directory with entries := Dict.set directory.entries key entries }

def Fresh (directory : KVCacheDirectory) (now : ℚ) (entry : CacheEntry) : Prop :=
  now - entry.lastTouched ≤ directory.ttlS

instance (directory : KVCacheDirectory) (now : ℚ) (entry : CacheEntry) :
    Decidable (directory.Fresh now entry) := inferInstanceAs (Decidable (_ ≤ _))

def survivors (directory : KVCacheDirectory) (now : ℚ) (slot : String × List CacheEntry) :
    Option (String × List CacheEntry) :=
  let kept := slot.2.filter (fun entry => directory.Fresh now entry)
  if kept = [] then none else some (slot.1, kept)

theorem survivors_key {directory : KVCacheDirectory} {now : ℚ} (slot kept : String × List CacheEntry)
    (survived : directory.survivors now slot = some kept) : kept.1 = slot.1 := by
  simp only [survivors] at survived
  split at survived
  · cases survived
  · cases survived; rfl

def evictStale (directory : KVCacheDirectory) (now : ℚ) : KVCacheDirectory :=
  { directory with entries := directory.entries.filterMap (directory.survivors now) survivors_key }

def hydrateFromRedis (request : InferenceRequest) : EStateM PyError KVCacheDirectory Unit :=
  fun directory =>
    match directory.redisStore.storedEntries (cacheKey request) with
    | .error raised => .error raised directory
    | .ok [] => .ok () directory
    | .ok (entry :: rest) => .ok () (directory.setBucket (cacheKey request) (entry :: rest))

/-- The part of `score` before its loop: evict, then hydrate a key that has no entries left. -/
def prepareScore (request : InferenceRequest) (now : ℚ) : EStateM PyError KVCacheDirectory Unit :=
  fun directory =>
    let evicted := directory.evictStale now
    if evicted.bucket (cacheKey request) = [] then hydrateFromRedis request evicted
    else .ok () evicted

def bestHit (ttlS : ℚ) (clusterId poolId : String) (promptTokens : ℤ) (now : ℚ) :
    List CacheEntry → ℚ × ℤ → Except PyError (ℚ × ℤ)
  | [], best => .ok best
  | entry :: rest, best =>
    if now < entry.availableTs then bestHit ttlS clusterId poolId promptTokens now rest best
    else if ttlS = 0 then .error .zeroDivisionError
    else
      let hitRatio := entry.hitRatio ttlS clusterId poolId now
      let savedTokens := entry.savedTokens promptTokens hitRatio
      bestHit ttlS clusterId poolId promptTokens now rest
        (if best.1 < hitRatio then (hitRatio, savedTokens) else best)

def score (request : InferenceRequest) (clusterId poolId : String) (now : ℚ) :
    EStateM PyError KVCacheDirectory (ℚ × ℤ) :=
  fun directory =>
    match prepareScore request now directory with
    | .error raised prepared => .error raised prepared
    | .ok _ prepared =>
      match bestHit prepared.ttlS clusterId poolId request.promptTokens now
          (prepared.bucket (cacheKey request)) (0, 0) with
      | .error raised => .error raised prepared
      | .ok best => .ok (roundTo 4 best.1, best.2) prepared

def touched (entry : CacheEntry) (result : RequestResult) : CacheEntry :=
  { entry with
    sizeTokens := max entry.sizeTokens result.request.promptTokens
    sizeGb := max entry.sizeGb (result.memoryGb * 0.55)
    availableTs := result.completionTs
    lastTouched := result.completionTs
    hitCount := entry.hitCount + if 0 < result.cacheHitRatio then 1 else 0 }

def created (key : String) (result : RequestResult) : CacheEntry :=
  { key
    clusterId := result.decision.clusterId
    poolId := result.decision.poolId
    sizeTokens := result.request.promptTokens
    sizeGb := result.memoryGb * 0.55
    availableTs := result.completionTs
    lastTouched := result.completionTs
    hitCount := if 0 < result.cacheHitRatio then 1 else 0 }

def mergeResult (key : String) (result : RequestResult) : List CacheEntry → List CacheEntry
  | [] => [created key result]
  | entry :: rest =>
    if entry.At result.decision.clusterId result.decision.poolId then touched entry result :: rest
    else entry :: mergeResult key result rest

def bucketRank (entry : CacheEntry) : ℤ ×ₗ ℚ := toLex (entry.hitCount, entry.lastTouched)

def capBucket (entries : List CacheEntry) : List CacheEntry :=
  if 4 < entries.length then
    (entries.insertionSort (fun a b => bucketRank b ≤ bucketRank a)).take 4
  else entries

def persistToRedis (key : String) : EStateM PyError KVCacheDirectory Unit :=
  fun directory =>
    let payload := Json.obj [("entries", .arr ((directory.bucket key).map CacheEntry.payload))]
    match directory.redisStore.writeCacheAffinity key payload with
    | .error raised store => .error raised { directory with redisStore := store }
    | .ok _ store => .ok () { directory with redisStore := store }

def totalEntries (directory : KVCacheDirectory) : ℕ :=
  ((Dict.values directory.entries).map List.length).sum

def trimItems (directory : KVCacheDirectory) : List (String × CacheEntry) :=
  directory.entries.toList.flatMap (fun slot => slot.2.map (fun entry => (slot.1, entry)))

def trimRank (item : String × CacheEntry) : ℤ ×ₗ ℚ ×ₗ String :=
  toLex (item.2.hitCount, toLex (item.2.lastTouched, item.1))

/-- Sorting the items compares the entries of two items whose ranks are equal, and unequal
    entries have no order. -/
def Comparable (items : List (String × CacheEntry)) : Prop :=
  items.Pairwise (fun a b => trimRank a = trimRank b → a.2 = b.2)

instance (items : List (String × CacheEntry)) : Decidable (Comparable items) :=
  inferInstanceAs (Decidable (List.Pairwise _ _))

def removeVictim (entries : Dict String (List CacheEntry)) (item : String × CacheEntry) :
    Dict String (List CacheEntry) :=
  let remaining := ((Dict.lookup entries item.1).getD []).erase item.2
  if remaining = [] then entries.erase item.1 else Dict.set entries item.1 remaining

def trimLoop (maxEntries : ℤ) :
    List (String × CacheEntry) → ℕ → Dict String (List CacheEntry) → Dict String (List CacheEntry)
  | [], _, entries => entries
  | item :: rest, total, entries =>
    if maxEntries < total then
      let present := item.2 ∈ (Dict.lookup entries item.1).getD []
      trimLoop maxEntries rest (if present then total - 1 else total) (removeVictim entries item)
    else entries

def trim : EStateM PyError KVCacheDirectory Unit :=
  fun directory =>
    if (directory.totalEntries : ℤ) ≤ directory.maxEntries then .ok () directory
    else if Comparable directory.trimItems then
      let items := directory.trimItems.insertionSort (fun a b => trimRank a ≤ trimRank b)
      .ok () { directory with
        entries := trimLoop directory.maxEntries items directory.totalEntries directory.entries }
    else
      .error (.typeError "'<' not supported between instances of 'CacheEntry' and 'CacheEntry'") directory

def recorded (directory : KVCacheDirectory) (result : RequestResult) : KVCacheDirectory :=
  let key := cacheKey result.request
  directory.setBucket key (capBucket (mergeResult key result (directory.bucket key)))

def observe (result : RequestResult) : EStateM PyError KVCacheDirectory Unit :=
  fun directory =>
    if result.admitted then
      match persistToRedis (cacheKey result.request) (directory.recorded result) with
      | .error raised persisted => .error raised persisted
      | .ok _ persisted => trim persisted
    else .ok () directory

def reservedAt (directory : KVCacheDirectory) (clusterId poolId : String) : ℚ :=
  ((Dict.values directory.entries).map (fun bucket =>
    ((bucket.filter (fun entry => entry.At clusterId poolId)).map CacheEntry.sizeGb).sum)).sum

def reservedGb (clusterId poolId : String) (now : ℚ) (directory : KVCacheDirectory) :
    KVCacheDirectory × ℚ :=
  let evicted := directory.evictStale now
  (evicted, evicted.reservedAt clusterId poolId)

def snapshot (now : ℚ) (directory : KVCacheDirectory) :
    KVCacheDirectory × List (String × List CacheEntry) :=
  let evicted := directory.evictStale now
  (evicted, evicted.entries.toList.map (fun slot =>
    (slot.1, slot.2.map (fun entry => { entry with sizeGb := roundTo 4 entry.sizeGb }))))

end KVCacheDirectory

end NimbusMesh
