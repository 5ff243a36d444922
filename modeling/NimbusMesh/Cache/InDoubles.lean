import NimbusMesh.Cache.Scoring
import NimbusMesh.Foundation.Doubles

namespace NimbusMesh

open Foundation Foundation.Decimal Foundation.Execution Foundation.Doubles

-- The part of the cache directory that `score` runs through, over numbers that round and overflow as those of the
-- program do.
namespace InDoubles

structure CacheEntry where
  key : String
  clusterId : String
  poolId : String
  sizeTokens : ℤ
  sizeGb : Double
  availableTs : Double
  lastTouched : Double
  hitCount : ℤ
  deriving DecidableEq, Repr

structure TextConversions extends NimbusMesh.TextConversions where
  parseDouble : String → Option Double

/-- A store whose texts `json.loads` has tried to decode. -/
structure RedisStore where
  enabled : Bool
  cacheAffinity : Dict String (Except PyError Json)
  conversions : TextConversions
  hgetFault : Option PyError := none

structure KVCacheDirectory where
  ttlS : Double
  entries : Dict String (List CacheEntry)
  redisStore : RedisStore

def toInt : Double → Except PyError ℤ
  | .finite value => .ok (truncate value)
  | .nan => .error (.valueError "cannot convert float NaN to integer")
  | _ => .error (.overflowError "cannot convert float infinity to integer")

section Conversions

variable (arithmetic : Arithmetic)

def ofInt (value : ℤ) : Except PyError Double :=
  match arithmetic.ofInt value with
  | some converted => .ok converted
  | none => .error (.overflowError "int too large to convert to float")

def TextConversions.toFloat (conversions : TextConversions) : Json → Except PyError Double
  | .float value => .ok (.finite value)
  | .nonFinite .inf => .ok .inf
  | .nonFinite .negInf => .ok .negInf
  | .nonFinite .nan => .ok .nan
  | .int value => ofInt arithmetic value
  | .bool value => .ok (.finite (if value then 1 else 0))
  | .str text =>
    match conversions.parseDouble text with
    | some value => .ok value
    | none => .error (.valueError "could not convert string to float")
  | _ => .error (.typeError "float() argument must be a string or a real number")

end Conversions

namespace CacheEntry

variable (arithmetic : Arithmetic)

def freshness (entry : CacheEntry) (ttlS now : Double) : Except PyError Double :=
  match arithmetic.div (arithmetic.sub now entry.lastTouched) ttlS with
  | some age => .ok ((arithmetic.literal 0.1).max (arithmetic.sub (arithmetic.literal 1.0) age))
  | none => .error .zeroDivisionError

def locationBonus (entry : CacheEntry) (clusterId poolId : String) : Double :=
  if entry.clusterId = clusterId ∧ entry.poolId = poolId then arithmetic.literal 1.0
  else if entry.clusterId = clusterId then arithmetic.literal 0.7
  else arithmetic.literal 0.35

def hitRatio (entry : CacheEntry) (ttlS : Double) (clusterId poolId : String) (now : Double) :
    Except PyError Double := do
  let freshness ← entry.freshness arithmetic ttlS now
  return (arithmetic.literal 0.95).min (arithmetic.mul freshness (entry.locationBonus arithmetic clusterId poolId))

def savedTokens (entry : CacheEntry) (promptTokens : ℤ) (hitRatio : Double) : Except PyError ℤ := do
  let tokens ← ofInt arithmetic (min entry.sizeTokens promptTokens)
  toInt (arithmetic.mul tokens hitRatio)

def ofPayload (conversions : TextConversions) (key : String) (fields : List (String × Json)) :
    Except PyError CacheEntry := do
  let field (name : String) (default : Json) := (fields.lookup name).getD default
  let clusterId := conversions.toStr (field "cluster_id" (.str ""))
  let poolId := conversions.toStr (field "pool_id" (.str ""))
  let sizeTokens ← conversions.toInt (field "size_tokens" (.int 0))
  let sizeGb ← conversions.toFloat arithmetic (field "size_gb" (.float 0))
  let availableTs ← conversions.toFloat arithmetic (field "available_ts" (.float 0))
  let lastTouched ← conversions.toFloat arithmetic (field "last_touched" (.float 0))
  let hitCount ← conversions.toInt (field "hit_count" (.int 0))
  return { key, clusterId, poolId, sizeTokens, sizeGb, availableTs, lastTouched, hitCount }

end CacheEntry

def hydratedEntries (arithmetic : Arithmetic) (conversions : TextConversions) (key : String) :
    List Json → Except PyError (List CacheEntry)
  | [] => .ok []
  | .obj fields :: rest => do
    let entry ← CacheEntry.ofPayload arithmetic conversions key fields
    let entries ← hydratedEntries arithmetic conversions key rest
    return entry :: entries
  | _ :: rest => hydratedEntries arithmetic conversions key rest

namespace RedisStore

def fetchCacheAffinity (store : RedisStore) (cacheKey : String) : Except PyError (Option Json) :=
  if store.enabled then
    match store.hgetFault with
    | some fault => .error fault
    | none =>
      match Dict.lookup store.cacheAffinity cacheKey with
      | none => .ok none
      | some loaded => loaded.map some
  else .ok none

def storedEntries (arithmetic : Arithmetic) (store : RedisStore) (key : String) :
    Except PyError (List CacheEntry) := do
  match ← store.fetchCacheAffinity key with
  | none => return []
  | some payload =>
    if payload.truthy then
      match payload with
      | .obj fields =>
        match (fields.lookup "entries").getD (.arr []) with
        | .arr items => hydratedEntries arithmetic store.conversions key items
        | _ => return []
      | other => .error (.attributeError s!"'{other.typeName}' object has no attribute 'get'")
    else return []

end RedisStore

namespace KVCacheDirectory

def bucket (directory : KVCacheDirectory) (key : String) : List CacheEntry :=
  (Dict.lookup directory.entries key).getD []

def setBucket (directory : KVCacheDirectory) (key : String) (entries : List CacheEntry) : KVCacheDirectory :=
  { directory with entries := Dict.set directory.entries key entries }

variable (arithmetic : Arithmetic)

def Fresh (directory : KVCacheDirectory) (now : Double) (entry : CacheEntry) : Prop :=
  (arithmetic.sub now entry.lastTouched).Le directory.ttlS

instance (directory : KVCacheDirectory) (now : Double) (entry : CacheEntry) :
    Decidable (directory.Fresh arithmetic now entry) := inferInstanceAs (Decidable (Double.Le _ _))

def survivors (directory : KVCacheDirectory) (now : Double) (slot : String × List CacheEntry) :
    Option (String × List CacheEntry) :=
  let kept := slot.2.filter (fun entry => directory.Fresh arithmetic now entry)
  if kept = [] then none else some (slot.1, kept)

theorem survivors_key {directory : KVCacheDirectory} {now : Double} (slot kept : String × List CacheEntry)
    (survived : directory.survivors arithmetic now slot = some kept) : kept.1 = slot.1 := by
  simp only [survivors] at survived
  split at survived
  · cases survived
  · cases survived; rfl

def evictStale (directory : KVCacheDirectory) (now : Double) : KVCacheDirectory :=
  { directory with
    entries := directory.entries.filterMap (directory.survivors arithmetic now) (survivors_key arithmetic) }

def hydrateFromRedis (request : InferenceRequest) : EStateM PyError KVCacheDirectory Unit :=
  fun directory =>
    match directory.redisStore.storedEntries arithmetic (cacheKey request) with
    | .error raised => .error raised directory
    | .ok [] => .ok () directory
    | .ok (entry :: rest) => .ok () (directory.setBucket (cacheKey request) (entry :: rest))

def prepareScore (request : InferenceRequest) (now : Double) : EStateM PyError KVCacheDirectory Unit :=
  fun directory =>
    let evicted := directory.evictStale arithmetic now
    if evicted.bucket (cacheKey request) = [] then hydrateFromRedis arithmetic request evicted
    else .ok () evicted

def bestHit (ttlS : Double) (clusterId poolId : String) (promptTokens : ℤ) (now : Double) :
    List CacheEntry → Double × ℤ → Except PyError (Double × ℤ)
  | [], best => .ok best
  | entry :: rest, best =>
    if now.Lt entry.availableTs then bestHit ttlS clusterId poolId promptTokens now rest best
    else do
      let hitRatio ← entry.hitRatio arithmetic ttlS clusterId poolId now
      let savedTokens ← entry.savedTokens arithmetic promptTokens hitRatio
      bestHit ttlS clusterId poolId promptTokens now rest
        (if best.1.Lt hitRatio then (hitRatio, savedTokens) else best)

def score (request : InferenceRequest) (clusterId poolId : String) (now : Double) :
    EStateM PyError KVCacheDirectory (Double × ℤ) :=
  fun directory =>
    match prepareScore arithmetic request now directory with
    | .error raised prepared => .error raised prepared
    | .ok _ prepared =>
      match bestHit arithmetic prepared.ttlS clusterId poolId request.promptTokens now
          (prepared.bucket (cacheKey request)) (.finite 0, 0) with
      | .error raised => .error raised prepared
      | .ok best => .ok (arithmetic.roundTo 4 best.1, best.2) prepared

end KVCacheDirectory

namespace CacheEntry

/-- The hit ratio as a number: zero stands where the code divides by zero. -/
def ratio (arithmetic : Arithmetic) (entry : CacheEntry) (ttlS : Double) (clusterId poolId : String)
    (now : Double) : ℚ :=
  match entry.hitRatio arithmetic ttlS clusterId poolId now with
  | .ok (.finite value) => value
  | _ => 0

def savedProduct (arithmetic : Arithmetic) (entry : CacheEntry) (promptTokens : ℤ) (ratio : ℚ) : ℚ :=
  arithmetic.nearest (arithmetic.nearest (min entry.sizeTokens promptTokens : ℤ) * ratio)

def Counts (arithmetic : Arithmetic) (promptTokens : ℤ) (entry : CacheEntry) : Prop :=
  ¬ arithmetic.Overflows (arithmetic.nearest (min entry.sizeTokens promptTokens : ℤ))

instance (arithmetic : Arithmetic) (promptTokens : ℤ) (entry : CacheEntry) :
    Decidable (entry.Counts arithmetic promptTokens) := inferInstanceAs (Decidable (¬ _))

variable {arithmetic : Arithmetic} (entry : CacheEntry) (ttlS : Double) (clusterId poolId : String) (now : Double)
  (promptTokens : ℤ)

theorem hitRatio_zero_ttl : entry.hitRatio arithmetic (.finite 0) clusterId poolId now = .error .zeroDivisionError := by
  have undefined : arithmetic.div (arithmetic.sub now entry.lastTouched) (.finite 0) = none := by
    cases arithmetic.sub now entry.lastTouched <;> simp [Arithmetic.div]
  simp [hitRatio, freshness, undefined, Bind.bind, Except.bind]

theorem div_returns {x y : Double} (nonzero : y ≠ .finite 0) : ∃ quotient, arithmetic.div x y = some quotient := by
  cases y with
  | finite value =>
    have divides : value ≠ 0 := fun zero => nonzero (by rw [zero])
    cases x <;> simp [Arithmetic.div, divides]
  | _ => cases x <;> simp [Arithmetic.div]

section Accurate

variable (accurate : arithmetic.Accurate)

include accurate

theorem locationBonus_bounds : ∃ bonus, entry.locationBonus arithmetic clusterId poolId = .finite bonus ∧
    0.3 ≤ bonus ∧ bonus ≤ 1 := by
  have all : ∀ x : ℚ, 0.35 ≤ x → x ≤ 1 → 0.3 ≤ arithmetic.nearest x ∧ arithmetic.nearest x ≤ 1 := by
    intro x least most
    have near := accurate.near_of_le_one (le_trans (by norm_num) least) most
    refine ⟨?_, accurate.le_one most⟩
    norm_num at near least ⊢
    linarith
  unfold locationBonus Arithmetic.literal
  split_ifs
  · exact ⟨_, rfl, all 1.0 (by norm_num) (by norm_num)⟩
  · exact ⟨_, rfl, all 0.7 (by norm_num) (by norm_num)⟩
  · exact ⟨_, rfl, all 0.35 (by norm_num) (by norm_num)⟩

theorem weighted_cases {freshness : Double} (fresh : entry.freshness arithmetic ttlS now = .ok freshness) :
    arithmetic.mul freshness (entry.locationBonus arithmetic clusterId poolId) = .inf ∨
      ∃ value, arithmetic.mul freshness (entry.locationBonus arithmetic clusterId poolId) = .finite value ∧
        0.02 ≤ value := by
  obtain ⟨bonus, located, least, _⟩ := entry.locationBonus_bounds clusterId poolId accurate
  have low := (accurate.near_of_le_one (show (0 : ℚ) ≤ 0.1 by norm_num) (by norm_num)).1
  have positive : 0 < bonus := lt_of_lt_of_le (by norm_num) least
  rw [located]
  simp only [CacheEntry.freshness] at fresh
  split at fresh
  · rename_i age _
    cases fresh
    rcases Double.max_cases (arithmetic.nearest 0.1) (arithmetic.sub (arithmetic.literal 1.0) age) with
      infinite | ⟨value, same, more⟩
    · left
      rw [show (arithmetic.literal 0.1).max _ = _ from infinite]
      exact Double.infinite_of_pos positive
    · rw [show (arithmetic.literal 0.1).max _ = _ from same]
      have fresher : (0.09 : ℚ) ≤ value := by
        norm_num at low more ⊢
        linarith
      have product : (0.027 : ℚ) ≤ value * bonus := by
        calc (0.027 : ℚ) = 0.09 * 0.3 := by norm_num
          _ ≤ value * bonus := mul_le_mul fresher least (by norm_num) (le_trans (by norm_num) fresher)
      rcases @Arithmetic.round_cases_of_pos arithmetic (value * bonus) (lt_of_lt_of_le (by norm_num) product) with
        overflows | within
      · exact .inl overflows
      · refine .inr ⟨_, within, ?_⟩
        have rounded := accurate.mono product
        have near := (accurate.near_of_le_one (show (0 : ℚ) ≤ 0.027 by norm_num) (by norm_num)).1
        norm_num at near rounded ⊢
        linarith
  · cases fresh

theorem hitRatio_returns (divides : ttlS ≠ .finite 0) :
    entry.hitRatio arithmetic ttlS clusterId poolId now =
        .ok (.finite (entry.ratio arithmetic ttlS clusterId poolId now)) ∧
      0.02 ≤ entry.ratio arithmetic ttlS clusterId poolId now ∧
      entry.ratio arithmetic ttlS clusterId poolId now ≤ arithmetic.nearest 0.95 := by
  obtain ⟨age, aged⟩ := @div_returns arithmetic (arithmetic.sub now entry.lastTouched) ttlS divides
  have fresh : entry.freshness arithmetic ttlS now =
      .ok ((arithmetic.literal 0.1).max (arithmetic.sub (arithmetic.literal 1.0) age)) := by
    simp only [freshness, aged]
  have cap : (0.02 : ℚ) ≤ arithmetic.nearest 0.95 := by
    have near := (accurate.near_of_le_one (show (0 : ℚ) ≤ 0.95 by norm_num) (by norm_num)).1
    norm_num at near ⊢
    linarith
  have found : ∃ value, entry.hitRatio arithmetic ttlS clusterId poolId now = .ok (.finite value) ∧ 0.02 ≤ value ∧
      value ≤ arithmetic.nearest 0.95 := by
    have returned : entry.hitRatio arithmetic ttlS clusterId poolId now = .ok ((arithmetic.literal 0.95).min
        (arithmetic.mul ((arithmetic.literal 0.1).max (arithmetic.sub (arithmetic.literal 1.0) age))
          (entry.locationBonus arithmetic clusterId poolId))) := by
      simp only [hitRatio, fresh]
      rfl
    rw [returned]
    rcases entry.weighted_cases ttlS clusterId poolId now accurate fresh with infinite | ⟨value, same, least⟩
    · rw [infinite]
      exact ⟨_, rfl, cap, le_refl _⟩
    · rw [same, Arithmetic.literal, Double.min_finite]
      exact ⟨_, rfl, le_min cap least, min_le_left _ _⟩
  obtain ⟨value, same, least, most⟩ := found
  have named : entry.ratio arithmetic ttlS clusterId poolId now = value := by rw [ratio, same]
  rw [named]
  exact ⟨same, least, most⟩

theorem savedTokens_returns_iff {ratio : ℚ} (nonneg : 0 ≤ ratio) (most : ratio ≤ 1) {saved : ℤ} :
    entry.savedTokens arithmetic promptTokens (.finite ratio) = .ok saved ↔
      Counts arithmetic promptTokens entry ∧ saved = truncate (entry.savedProduct arithmetic promptTokens ratio) := by
  by_cases overflows : arithmetic.Overflows (arithmetic.nearest (min entry.sizeTokens promptTokens : ℤ))
  · simp only [savedTokens, InDoubles.ofInt, Arithmetic.ofInt, overflows, if_true, Bind.bind, Except.bind,
      reduceCtorEq, Counts, not_true_eq_false, false_and]
  · have product := accurate.mul_share overflows nonneg most
    simp only [savedTokens, InDoubles.ofInt, Arithmetic.ofInt, overflows, if_false, Bind.bind, Except.bind, product,
      toInt, Except.ok.injEq, Counts, not_false_eq_true, true_and, savedProduct]
    exact eq_comm

end Accurate

end CacheEntry

namespace KVCacheDirectory

section Buckets

variable {arithmetic : Arithmetic} (directory : KVCacheDirectory) (now : Double)

@[simp] theorem bucket_setBucket (key other : String) (entries : List CacheEntry) :
    (directory.setBucket key entries).bucket other = if key = other then entries else directory.bucket other := by
  unfold bucket setBucket
  rw [Dict.lookup_set]
  split <;> rfl

@[simp] theorem bucket_evictStale (key : String) :
    (directory.evictStale arithmetic now).bucket key =
      (directory.bucket key).filter (fun entry => directory.Fresh arithmetic now entry) := by
  simp only [bucket, evictStale, Dict.lookup, KeyedList.get?_filterMap]
  cases directory.entries.get? key with
  | none => rfl
  | some slot =>
    simp only [Option.bind_some, survivors, Option.map_some, Option.getD_some]
    split
    · rename_i empty
      simp [empty]
    · rfl

variable {directory : KVCacheDirectory} {now : Double} {request : InferenceRequest}

theorem prepareScore_held (held : (directory.evictStale arithmetic now).bucket (cacheKey request) ≠ []) :
    prepareScore arithmetic request now directory = .ok () (directory.evictStale arithmetic now) := by
  simp only [prepareScore, held, if_false]

theorem prepareScore_loads (empty : (directory.evictStale arithmetic now).bucket (cacheKey request) = [])
    {entries : List CacheEntry}
    (read : directory.redisStore.storedEntries arithmetic (cacheKey request) = .ok entries) :
    ∃ prepared, prepareScore arithmetic request now directory = .ok () prepared ∧ prepared.ttlS = directory.ttlS ∧
      prepared.bucket (cacheKey request) = entries ∧
      ∀ key, key ≠ cacheKey request → prepared.bucket key = (directory.evictStale arithmetic now).bucket key := by
  have loaded : (directory.evictStale arithmetic now).redisStore.storedEntries arithmetic (cacheKey request) =
      .ok entries := read
  simp only [prepareScore, empty, if_true, hydrateFromRedis, loaded]
  cases entries with
  | nil => exact ⟨_, rfl, rfl, empty, fun _ _ => rfl⟩
  | cons entry rest =>
    refine ⟨_, rfl, rfl, by simp, fun key differs => ?_⟩
    simp [differs.symm]

theorem prepareScore_raises (empty : (directory.evictStale arithmetic now).bucket (cacheKey request) = [])
    {raised : PyError}
    (read : directory.redisStore.storedEntries arithmetic (cacheKey request) = .error raised) :
    prepareScore arithmetic request now directory = .error raised (directory.evictStale arithmetic now) := by
  have failed : (directory.evictStale arithmetic now).redisStore.storedEntries arithmetic (cacheKey request) =
      .error raised := read
  simp only [prepareScore, empty, if_true, hydrateFromRedis, failed]

theorem ttlS_prepareScore {prepared : KVCacheDirectory}
    (ready : prepareScore arithmetic request now directory = .ok () prepared) : prepared.ttlS = directory.ttlS := by
  by_cases empty : (directory.evictStale arithmetic now).bucket (cacheKey request) = []
  · cases read : directory.redisStore.storedEntries arithmetic (cacheKey request) with
    | error raised =>
      rw [prepareScore_raises empty read] at ready
      cases ready
    | ok entries =>
      obtain ⟨found, same, ttl, _⟩ := prepareScore_loads empty read
      rw [same] at ready
      cases ready
      exact ttl
  · rw [prepareScore_held empty] at ready
    cases ready
    rfl

end Buckets

section Best

variable (arithmetic : Arithmetic) (ttlS : Double) (clusterId poolId : String) (promptTokens : ℤ) (now : Double)

def visible (entries : List CacheEntry) : List CacheEntry :=
  entries.filter (fun entry => ¬ now.Lt entry.availableTs)

/-- The entry that `score` credits: the first one with the highest hit ratio among those it does not skip. -/
def credited (entries : List CacheEntry) : Option CacheEntry :=
  (visible now entries).argmax (fun entry => entry.ratio arithmetic ttlS clusterId poolId now)

/-- What the loop of `score` holds while an entry leads. -/
def hitOf : Option CacheEntry → ℚ × ℤ
  | none => (0, 0)
  | some entry =>
    let ratio := entry.ratio arithmetic ttlS clusterId poolId now
    (ratio, truncate (entry.savedProduct arithmetic promptTokens ratio))

variable {arithmetic ttlS clusterId poolId promptTokens now} (accurate : arithmetic.Accurate)

include accurate

theorem bestHit_visible {entry : CacheEntry} (shown : ¬ now.Lt entry.availableTs) (rest : List CacheEntry)
    (best : Double × ℤ) {found : Double × ℤ} :
    bestHit arithmetic ttlS clusterId poolId promptTokens now (entry :: rest) best = .ok found ↔
      ttlS ≠ .finite 0 ∧ entry.Counts arithmetic promptTokens ∧
      let hit := hitOf arithmetic ttlS clusterId poolId promptTokens now (some entry)
      bestHit arithmetic ttlS clusterId poolId promptTokens now rest
        (if best.1.Lt (.finite hit.1) then (.finite hit.1, hit.2) else best) = .ok found := by
  simp only [bestHit, shown, if_false]
  by_cases zero : ttlS = .finite 0
  · simp [zero, entry.hitRatio_zero_ttl, Bind.bind, Except.bind]
  · obtain ⟨returned, least, most⟩ := entry.hitRatio_returns ttlS clusterId poolId now accurate zero
    have nonneg : (0 : ℚ) ≤ entry.ratio arithmetic ttlS clusterId poolId now := le_trans (by norm_num) least
    have whole := most.trans (accurate.le_one (by norm_num))
    rw [returned]
    constructor
    · intro bound
      obtain ⟨_, first, bound⟩ := except_bind_eq_ok.mp bound
      cases first
      obtain ⟨saved, read, later⟩ := except_bind_eq_ok.mp bound
      obtain ⟨counts, rfl⟩ := (entry.savedTokens_returns_iff promptTokens accurate nonneg whole).mp read
      exact ⟨zero, counts, later⟩
    · rintro ⟨_, counts, later⟩
      exact except_bind_eq_ok.mpr ⟨_, rfl, except_bind_eq_ok.mpr ⟨_,
        (entry.savedTokens_returns_iff promptTokens accurate nonneg whole).mpr ⟨counts, rfl⟩, later⟩⟩

theorem bestHit_returns_iff (entries : List CacheEntry) (best : Double × ℤ) :
    (∃ found, bestHit arithmetic ttlS clusterId poolId promptTokens now entries best = .ok found) ↔
      (∀ entry ∈ visible now entries, ttlS ≠ .finite 0 ∧ entry.Counts arithmetic promptTokens) := by
  induction entries generalizing best with
  | nil => simp [bestHit, visible]
  | cons entry rest ih =>
    by_cases later : now.Lt entry.availableTs
    · simp only [visible] at ih
      simp only [bestHit, later, if_true, ih, visible]
      rw [List.filter_cons_of_neg (by simpa using later)]
    · simp only [visible] at ih
      simp only [bestHit_visible accurate later, visible]
      rw [List.filter_cons_of_pos (by simpa using later), List.forall_mem_cons]
      constructor
      · rintro ⟨found, divides, counts, returned⟩
        exact ⟨⟨divides, counts⟩, (ih _).mp ⟨found, returned⟩⟩
      · rintro ⟨⟨divides, counts⟩, others⟩
        obtain ⟨found, returned⟩ := (ih _).mpr others
        exact ⟨found, divides, counts, returned⟩

theorem bestHit_leading {entries : List CacheEntry} {leading : Option CacheEntry} {found : Double × ℤ}
    (returned : bestHit arithmetic ttlS clusterId poolId promptTokens now entries
      (.finite (hitOf arithmetic ttlS clusterId poolId promptTokens now leading).1,
        (hitOf arithmetic ttlS clusterId poolId promptTokens now leading).2) = .ok found) :
    let best := hitOf arithmetic ttlS clusterId poolId promptTokens now
      ((visible now entries).foldl (List.argAux fun entry other =>
        other.ratio arithmetic ttlS clusterId poolId now < entry.ratio arithmetic ttlS clusterId poolId now) leading)
    found = (.finite best.1, best.2) := by
  induction entries generalizing leading with
  | nil => exact (Except.ok.inj returned).symm
  | cons entry rest ih =>
    by_cases later : now.Lt entry.availableTs
    · simp only [visible] at ih ⊢
      simp only [bestHit, later, if_true] at returned
      rw [List.filter_cons_of_neg (by simpa using later)]
      exact ih returned
    · obtain ⟨divides, _, returned⟩ := (bestHit_visible accurate later rest _).mp returned
      simp only [visible] at ih ⊢
      rw [List.filter_cons_of_pos (by simpa using later), List.foldl_cons]
      apply ih
      rw [← returned]
      congr 1
      cases leading with
      | none =>
        have least := (entry.hitRatio_returns ttlS clusterId poolId now accurate divides).2.1
        have positive : 0 < entry.ratio arithmetic ttlS clusterId poolId now := lt_of_lt_of_le (by norm_num) least
        simp [hitOf, List.argAux, positive]
      | some other =>
        by_cases beaten : other.ratio arithmetic ttlS clusterId poolId now <
            entry.ratio arithmetic ttlS clusterId poolId now
        · simp [hitOf, List.argAux, beaten]
        · simp [hitOf, List.argAux, beaten]

theorem bestHit_credited {entries : List CacheEntry} {found : Double × ℤ}
    (returned : bestHit arithmetic ttlS clusterId poolId promptTokens now entries (.finite 0, 0) = .ok found) :
    let best := hitOf arithmetic ttlS clusterId poolId promptTokens now
      (credited arithmetic ttlS clusterId poolId now entries)
    found = (.finite best.1, best.2) :=
  bestHit_leading accurate (show bestHit arithmetic ttlS clusterId poolId promptTokens now entries
    (.finite (hitOf arithmetic ttlS clusterId poolId promptTokens now none).1, 0) = .ok found from returned)

theorem credited_bounds (divides : ttlS ≠ .finite 0) {entries : List CacheEntry} {entry : CacheEntry}
    (leads : credited arithmetic ttlS clusterId poolId now entries = some entry) :
    entry ∈ visible now entries ∧ 0.02 ≤ entry.ratio arithmetic ttlS clusterId poolId now ∧
      entry.ratio arithmetic ttlS clusterId poolId now ≤ arithmetic.nearest 0.95 :=
  ⟨List.argmax_mem leads, (entry.hitRatio_returns ttlS clusterId poolId now accurate divides).2⟩

end Best

end KVCacheDirectory

end InDoubles

end NimbusMesh
