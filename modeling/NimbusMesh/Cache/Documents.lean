import NimbusMesh.Cache.ExactScores

namespace NimbusMesh

open Foundation Foundation.Decimal Foundation.Execution Foundation.Doubles

namespace TextConversions

def IsInt (conversions : TextConversions) : Json → Prop
  | .int _ | .float _ | .bool _ => True
  | .str text => (conversions.parseInt text).isSome
  | .nonFinite _ | .null | .arr _ | .obj _ => False

theorem toInt_returns_iff (conversions : TextConversions) (value : Json) :
    (∃ converted, conversions.toInt value = .ok converted) ↔ conversions.IsInt value := by
  cases value with
  | str text =>
    simp only [toInt, IsInt]
    cases conversions.parseInt text <;> simp
  | nonFinite value => cases value <;> simp [toInt, IsInt]
  | _ => simp [toInt, IsInt]

end TextConversions

namespace InDoubles

variable {arithmetic : Arithmetic}

namespace TextConversions

def IsFloat (arithmetic : Arithmetic) (conversions : TextConversions) : Json → Prop
  | .int value => ¬ arithmetic.Overflows (arithmetic.nearest value)
  | .float _ | .nonFinite _ | .bool _ => True
  | .str text => (conversions.parseDouble text).isSome
  | .null | .arr _ | .obj _ => False

theorem toFloat_returns_iff (conversions : TextConversions) (value : Json) :
    (∃ converted, conversions.toFloat arithmetic value = .ok converted) ↔ conversions.IsFloat arithmetic value := by
  cases value with
  | str text =>
    simp only [toFloat, IsFloat]
    cases conversions.parseDouble text <;> simp
  | int value =>
    simp only [toFloat, IsFloat, ofInt, Arithmetic.ofInt]
    by_cases large : arithmetic.Overflows (arithmetic.nearest value) <;> simp [large]
  | nonFinite value => cases value <;> simp [toFloat, IsFloat]
  | _ => simp [toFloat, IsFloat]

/-- An entry of a document whose numeric fields convert. A missing field takes its default. -/
structure Converts (arithmetic : Arithmetic) (conversions : TextConversions) (fields : List (String × Json)) :
    Prop where
  sizeTokens : conversions.IsInt ((fields.lookup "size_tokens").getD (.int 0))
  sizeGb : conversions.IsFloat arithmetic ((fields.lookup "size_gb").getD (.float 0))
  availableTs : conversions.IsFloat arithmetic ((fields.lookup "available_ts").getD (.float 0))
  lastTouched : conversions.IsFloat arithmetic ((fields.lookup "last_touched").getD (.float 0))
  hitCount : conversions.IsInt ((fields.lookup "hit_count").getD (.int 0))

end TextConversions

section Decoding

variable {conversions : TextConversions} {key : String}

theorem ofPayload_returns_iff (fields : List (String × Json)) :
    (∃ entry, CacheEntry.ofPayload arithmetic conversions key fields = .ok entry) ↔
      conversions.Converts arithmetic fields := by
  constructor
  · rintro ⟨entry, decoded⟩
    obtain ⟨sizeTokens, first, decoded⟩ := except_bind_eq_ok.mp decoded
    obtain ⟨sizeGb, second, decoded⟩ := except_bind_eq_ok.mp decoded
    obtain ⟨availableTs, third, decoded⟩ := except_bind_eq_ok.mp decoded
    obtain ⟨lastTouched, fourth, decoded⟩ := except_bind_eq_ok.mp decoded
    obtain ⟨hitCount, fifth, _⟩ := except_bind_eq_ok.mp decoded
    exact ⟨(conversions.toInt_returns_iff _).mp ⟨_, first⟩, (conversions.toFloat_returns_iff _).mp ⟨_, second⟩,
      (conversions.toFloat_returns_iff _).mp ⟨_, third⟩, (conversions.toFloat_returns_iff _).mp ⟨_, fourth⟩,
      (conversions.toInt_returns_iff _).mp ⟨_, fifth⟩⟩
  · intro converts
    obtain ⟨sizeTokens, first⟩ := (conversions.toInt_returns_iff _).mpr converts.sizeTokens
    obtain ⟨sizeGb, second⟩ := (conversions.toFloat_returns_iff _).mpr converts.sizeGb
    obtain ⟨availableTs, third⟩ := (conversions.toFloat_returns_iff _).mpr converts.availableTs
    obtain ⟨lastTouched, fourth⟩ := (conversions.toFloat_returns_iff _).mpr converts.lastTouched
    obtain ⟨hitCount, fifth⟩ := (conversions.toInt_returns_iff _).mpr converts.hitCount
    unfold CacheEntry.ofPayload
    simp only [first, second, third, fourth, fifth]
    exact ⟨_, rfl⟩

theorem hydratedEntries_returns_iff (items : List Json) :
    (∃ entries, hydratedEntries arithmetic conversions key items = .ok entries) ↔
      ∀ fields, .obj fields ∈ items → conversions.Converts arithmetic fields := by
  fun_induction hydratedEntries arithmetic conversions key items with
  | case1 => simp
  | case2 fields rest ih =>
    constructor
    · rintro ⟨entries, decoded⟩
      obtain ⟨entry, first, decoded⟩ := except_bind_eq_ok.mp decoded
      obtain ⟨others, later, _⟩ := except_bind_eq_ok.mp decoded
      intro object member
      rcases List.mem_cons.mp member with same | inside
      · cases same
        exact (ofPayload_returns_iff fields).mp ⟨entry, first⟩
      · exact ih.mp ⟨others, later⟩ object inside
    · intro converts
      obtain ⟨entry, first⟩ :=
        (@ofPayload_returns_iff arithmetic conversions key fields).mpr (converts fields (by simp))
      obtain ⟨others, later⟩ := ih.mpr (fun object member => converts object (by simp [member]))
      exact ⟨entry :: others, except_bind_eq_ok.mpr ⟨entry, first, except_bind_eq_ok.mpr ⟨others, later, rfl⟩⟩⟩
  | case3 item rest other ih =>
    rw [ih]
    constructor
    · intro converts object member
      rcases List.mem_cons.mp member with same | inside
      · exact absurd same.symm (other object)
      · exact converts object inside
    · intro converts object member
      exact converts object (by simp [member])

end Decoding

/-- A document that hydration reads through: it counts as false, or it is an object in whose list of entries, if it
    has one, every object converts. -/
def Loadable (arithmetic : Arithmetic) (conversions : TextConversions) (document : Json) : Prop :=
  document.truthy = false ∨ ∃ fields, document = .obj fields ∧
    ∀ items, fields.lookup "entries" = some (.arr items) →
      ∀ entry, .obj entry ∈ items → conversions.Converts arithmetic entry

theorem RedisStore.storedEntries_returns_iff {store : RedisStore} {key : String} {loaded : Except PyError Json}
    (enabled : store.enabled = true) (reachable : store.hgetFault = none)
    (stored : Dict.lookup store.cacheAffinity key = some loaded) :
    (∃ entries, store.storedEntries arithmetic key = .ok entries) ↔
      ∃ document, loaded = .ok document ∧ Loadable arithmetic store.conversions document := by
  have fetched : store.fetchCacheAffinity key = loaded.map some := by
    simp [fetchCacheAffinity, enabled, reachable, stored]
  simp only [storedEntries, fetched]
  cases loaded with
  | error raised => simp [Except.map, Bind.bind, Except.bind]
  | ok document =>
    simp only [Except.map, Loadable, Bind.bind, Except.bind, Except.ok.injEq, exists_eq_left']
    cases truthy : document.truthy with
    | false => simp [Pure.pure, Except.pure]
    | true =>
      cases document with
      | obj fields =>
        cases found : fields.lookup "entries" with
        | none => simp [found, hydratedEntries]
        | some value =>
          cases value with
          | arr items => simp [found, hydratedEntries_returns_iff]
          | _ => simp [found, Pure.pure, Except.pure]
      | _ => simp

namespace CacheEntry

variable {entry : CacheEntry} {promptTokens : ℤ} {ratio : ℚ} (accurate : arithmetic.Accurate)

include accurate

theorem savedProduct_le (prompt : 1 ≤ promptTokens) (nonneg : 0 ≤ ratio) (most : ratio ≤ arithmetic.nearest 0.95) :
    entry.savedProduct arithmetic promptTokens ratio ≤ promptTokens := by
  have cap := (accurate.near_of_le_one (show (0 : ℚ) ≤ 0.95 by norm_num) (by norm_num)).2
  have whole : (1 : ℚ) ≤ promptTokens := by exact_mod_cast prompt
  have fewer : arithmetic.nearest (min entry.sizeTokens promptTokens : ℤ) ≤ arithmetic.nearest promptTokens :=
    accurate.mono (by exact_mod_cast min_le_right _ _)
  have counted := (abs_le.mp (accurate.error promptTokens)).2
  have share : arithmetic.nearest (min entry.sizeTokens promptTokens : ℤ) * ratio ≤ promptTokens * 0.96 := by
    calc arithmetic.nearest (min entry.sizeTokens promptTokens : ℤ) * ratio
        ≤ arithmetic.nearest promptTokens * ratio := mul_le_mul_of_nonneg_right fewer nonneg
      _ ≤ arithmetic.nearest promptTokens * 0.951 := by
          apply mul_le_mul_of_nonneg_left _ (accurate.nonneg (by linarith))
          norm_num at cap ⊢
          linarith
      _ ≤ promptTokens * 0.96 := by
          rw [abs_of_nonneg (by linarith)] at counted
          norm_num at counted ⊢
          linarith
  have rounded := accurate.mono share
  have error := (abs_le.mp (accurate.error (promptTokens * 0.96))).2
  rw [abs_of_nonneg (by positivity)] at error
  unfold savedProduct
  norm_num at error rounded ⊢
  linarith

end CacheEntry

namespace KVCacheDirectory

/-- Entries whose values do no harm to a score at a pool: none of the visible ones makes it divide by a zero time to
    live or count more tokens than a double can hold, and the one that leads, the first of the highest hit ratio, is
    not long below zero. -/
structure Harmless (arithmetic : Arithmetic) (ttlS : Double) (clusterId poolId : String) (promptTokens : ℤ)
    (now : Double) (entries : List CacheEntry) : Prop where
  counts : ∀ entry ∈ visible now entries, ttlS ≠ .finite 0 ∧ entry.Counts arithmetic promptTokens
  leading : ∀ entry ∈ credited arithmetic ttlS clusterId poolId now entries,
    -1 < entry.savedProduct arithmetic promptTokens (entry.ratio arithmetic ttlS clusterId poolId now)

def ScoresSoundly (directory : KVCacheDirectory) (request : InferenceRequest) (clusterId poolId : String)
    (now : Double) : Prop :=
  ∃ ratio saved final, score .binary64 request clusterId poolId now directory = .ok (.finite ratio, saved) final ∧
    0 ≤ ratio ∧ ratio ≤ 0.95 ∧ 0 ≤ saved ∧ saved ≤ request.promptTokens ∧
    ∀ key, key ≠ cacheKey request →
      final.bucket key = (directory.bucket key).filter (fun entry => directory.Fresh .binary64 now entry)

section Scores

variable {directory prepared : KVCacheDirectory} {request : InferenceRequest} {clusterId poolId : String} {now : Double}

theorem score_prepared_eq_ok (ready : prepareScore arithmetic request now directory = .ok () prepared)
    {value : Double × ℤ} {final : KVCacheDirectory} :
    score arithmetic request clusterId poolId now directory = .ok value final ↔
      ∃ best, bestHit arithmetic directory.ttlS clusterId poolId request.promptTokens now
          (prepared.bucket (cacheKey request)) (.finite 0, 0) = .ok best ∧
        value = (arithmetic.roundTo 4 best.1, best.2) ∧ final = prepared := by
  have ttl := ttlS_prepareScore ready
  cases found : bestHit arithmetic directory.ttlS clusterId poolId request.promptTokens now
      (prepared.bucket (cacheKey request)) (.finite 0, 0) with
  | error raised => simp [score, ready, ttl, found]
  | ok best => simp [score, ready, ttl, found, eq_comm]

theorem roundTo_ratio {ratio : ℚ} (nonneg : 0 ≤ ratio) (most : ratio ≤ Arithmetic.binary64.nearest 0.95) :
    ∃ rounded, Arithmetic.binary64.roundTo 4 (.finite ratio) = .finite rounded ∧ 0 ≤ rounded ∧ rounded ≤ 0.95 := by
  have cap : roundTo 4 (Arithmetic.binary64.nearest 0.95) = 0.95 := by decide +kernel
  have double : nearestDouble 0.95 ≤ 0.95 := by decide +kernel
  have below := roundTo_mono 4 most
  have above := roundTo_nonneg 4 nonneg
  rw [cap] at below
  exact ⟨_, Arithmetic.roundTo_binary64 4 above (below.trans (by norm_num)), nearestDouble_nonneg above,
    (nearestDouble_mono below).trans double⟩

theorem scoresSoundly_prepared_iff (ready : prepareScore .binary64 request now directory = .ok () prepared)
    (others : ∀ key, key ≠ cacheKey request →
      prepared.bucket key = (directory.bucket key).filter (fun entry => directory.Fresh .binary64 now entry)) :
    directory.ScoresSoundly request clusterId poolId now ↔
      Harmless .binary64 directory.ttlS clusterId poolId request.promptTokens now
        (prepared.bucket (cacheKey request)) := by
  have accurate := Arithmetic.accurate_binary64
  have prompt := request.tokens_positive.1
  have returns := @bestHit_returns_iff _ directory.ttlS clusterId poolId request.promptTokens now accurate
    (prepared.bucket (cacheKey request)) (.finite 0, 0)
  constructor
  · rintro ⟨ratio, saved, final, returned, _, _, nonneg, _, _⟩
    obtain ⟨best, found, same, _⟩ := (score_prepared_eq_ok ready).mp returned
    refine ⟨returns.mp ⟨best, found⟩, fun entry leads => ?_⟩
    have hit := bestHit_credited accurate found
    rw [leads] at hit
    rw [hit] at same
    rw [(Prod.mk.inj same).2] at nonneg
    exact (truncate_nonneg_iff _).mp nonneg
  · intro harmless
    obtain ⟨best, found⟩ := returns.mpr harmless.counts
    have hit := bestHit_credited accurate found
    have scored := (score_prepared_eq_ok ready).mpr ⟨best, found, rfl, rfl⟩
    rw [hit] at scored
    cases leads : credited .binary64 directory.ttlS clusterId poolId now (prepared.bucket (cacheKey request)) with
    | none =>
      rw [leads] at scored
      obtain ⟨rounded, same, least, most⟩ := roundTo_ratio (le_refl 0) (nearestDouble_nonneg (by norm_num))
      exact ⟨rounded, 0, prepared, scored.trans (by rw [← same]; rfl), least, most, le_refl 0, prompt.le, others⟩
    | some entry =>
      rw [leads] at scored
      have member : entry ∈ visible now (prepared.bucket (cacheKey request)) := List.argmax_mem leads
      obtain ⟨_, least, most⟩ := entry.hitRatio_returns directory.ttlS clusterId poolId now accurate
        (harmless.counts entry member).1
      have nonneg : 0 ≤ entry.ratio .binary64 directory.ttlS clusterId poolId now := le_trans (by norm_num) least
      obtain ⟨rounded, same, lower, upper⟩ := roundTo_ratio nonneg most
      exact ⟨rounded, _, prepared, scored.trans (by rw [← same]; rfl), lower, upper,
        (truncate_nonneg_iff _).mpr (harmless.leading entry leads),
        truncate_le prompt.le (CacheEntry.savedProduct_le accurate prompt nonneg most), others⟩

/-- What a score needs of the state it finds: the entries it holds for the key do no harm, and if the time to live
    leaves none of them, then the stored text decodes to a document that loads and whose entries do no harm. -/
structure Guarded (directory : KVCacheDirectory) (loaded : Except PyError Json) (request : InferenceRequest)
    (clusterId poolId : String) (now : Double) : Prop where
  held : (directory.evictStale .binary64 now).bucket (cacheKey request) ≠ [] →
    Harmless .binary64 directory.ttlS clusterId poolId request.promptTokens now
      ((directory.evictStale .binary64 now).bucket (cacheKey request))
  loads : (directory.evictStale .binary64 now).bucket (cacheKey request) = [] →
    (∃ document, loaded = .ok document ∧ Loadable .binary64 directory.redisStore.conversions document) ∧
      ∀ entries, directory.redisStore.storedEntries .binary64 (cacheKey request) = .ok entries →
        Harmless .binary64 directory.ttlS clusterId poolId request.promptTokens now entries

/-- Of the texts that can stand in the store, a score copes exactly with those that decode and load and whose
    entries, or the ones it already holds in their place, do no harm. -/
theorem score_sound_iff (directory : KVCacheDirectory) (loaded : Except PyError Json) (request : InferenceRequest)
    (clusterId poolId : String) (now : Double) (enabled : directory.redisStore.enabled = true)
    (reachable : directory.redisStore.hgetFault = none)
    (stored : Dict.lookup directory.redisStore.cacheAffinity (cacheKey request) = some loaded) :
    directory.ScoresSoundly request clusterId poolId now ↔
      directory.Guarded loaded request clusterId poolId now := by
  have evicted : ∀ key, key ≠ cacheKey request → (directory.evictStale .binary64 now).bucket key =
      (directory.bucket key).filter (fun entry => directory.Fresh .binary64 now entry) :=
    fun key _ => bucket_evictStale directory now key
  have returns := @RedisStore.storedEntries_returns_iff .binary64 _ _ _ enabled reachable stored
  by_cases empty : (directory.evictStale .binary64 now).bucket (cacheKey request) = []
  · cases read : directory.redisStore.storedEntries .binary64 (cacheKey request) with
    | error raised =>
      constructor
      · rintro ⟨_, _, _, returned, _⟩
        simp [score, prepareScore_raises empty read] at returned
      · intro guarded
        obtain ⟨entries, found⟩ := returns.mpr (guarded.loads empty).1
        rw [read] at found
        cases found
    | ok entries =>
      obtain ⟨prepared, ready, _, same, others⟩ := prepareScore_loads empty read
      have sound := @scoresSoundly_prepared_iff directory prepared request clusterId poolId now ready
        (fun key differs => (others key differs).trans (evicted key differs))
      rw [sound, same]
      constructor
      · intro harmless
        refine ⟨fun some => absurd empty some, fun _ => ⟨returns.mp ⟨entries, read⟩, fun other found => ?_⟩⟩
        rw [read] at found
        cases found
        exact harmless
      · exact fun guarded => (guarded.loads empty).2 entries read
  · have sound := @scoresSoundly_prepared_iff directory _ request clusterId poolId now (prepareScore_held empty)
      evicted
    rw [sound]
    constructor
    · exact fun harmless => ⟨fun _ => harmless, fun none => absurd none empty⟩
    · exact fun guarded => guarded.held empty

end Scores

def documentDirectory (key : String) (document : Json) : KVCacheDirectory :=
  .ofExact .binary64 (NimbusMesh.KVCacheDirectory.create 180 20000
    { emptyStore true with cacheAffinity := Dict.set KeyedList.empty key document })

theorem score_sound_iff_partial_entry :
    let request := sessionRequest 1000
    let document : Json := .obj [("entries", .arr [.null,
      .obj [("cluster_id", .str "c1"), ("pool_id", .str "p1"), ("size_tokens", .float 800.5)]])]
    let directory := documentDirectory (cacheKey request) document
    valueOf (score .binary64 request "c1" "p1" (.finite 0) directory) =
        some (Arithmetic.binary64.literal 0.95, 760) ∧
      directory.ScoresSoundly request "c1" "p1" (.finite 0) := by
  intro request document directory
  refine ⟨by decide +kernel, ?_⟩
  apply (score_sound_iff directory (.ok document) request "c1" "p1" (.finite 0) rfl rfl
    (by simp [directory, documentDirectory, ofExact, RedisStore.ofExact, NimbusMesh.KVCacheDirectory.create])).mpr
  refine ⟨fun some => absurd rfl some, fun _ => ⟨⟨document, rfl, .inr ⟨_, rfl, ?_⟩⟩, ?_⟩⟩
  · intro items found entry member
    cases found
    simp only [List.mem_cons, reduceCtorEq, Json.obj.injEq, List.not_mem_nil, or_false, false_or] at member
    subst member
    exact ⟨trivial, trivial, trivial, trivial, trivial⟩
  · intro entries read
    have found : directory.redisStore.storedEntries .binary64 (cacheKey request) =
        .ok [⟨cacheKey request, "c1", "p1", 800, .finite 0, .finite 0, .finite 0, 0⟩] := by decide +kernel
    rw [found] at read
    cases read
    exact ⟨by decide +kernel, by decide +kernel⟩

def lengthDirectory (key : String) (length : Json) : KVCacheDirectory :=
  documentDirectory key (.obj [("entries", .arr [.obj [("cluster_id", .str "c1"), ("pool_id", .str "p1"),
    ("size_tokens", length)]])])

/-- A list in place of the document, a length that is null, one beyond the doubles and one below zero: the first
    three stop the score, and the last one makes it save a negative number of tokens. -/
theorem malformed_documents_break_score :
    let request := sessionRequest 1000
    let key := cacheKey request
    valueOf (score .binary64 request "c1" "p1" (.finite 0) (documentDirectory key (.arr [.int 1]))) = none ∧
      valueOf (score .binary64 request "c1" "p1" (.finite 0) (lengthDirectory key .null)) = none ∧
      valueOf (score .binary64 request "c1" "p1" (.finite 0) (lengthDirectory key (.nonFinite .inf))) = none ∧
      valueOf (score .binary64 request "c1" "p1" (.finite 0) (lengthDirectory key (.int (-100)))) =
        some (Arithmetic.binary64.literal 0.95, -95) ∧
      ¬ (lengthDirectory key .null).ScoresSoundly request "c1" "p1" (.finite 0) ∧
      ¬ (lengthDirectory key (.nonFinite .inf)).ScoresSoundly request "c1" "p1" (.finite 0) ∧
      ¬ (lengthDirectory key (.int (-100))).ScoresSoundly request "c1" "p1" (.finite 0) := by
  intro request key
  have absent : valueOf (score .binary64 request "c1" "p1" (.finite 0) (lengthDirectory key .null)) = none := by
    decide +kernel
  have beyond : valueOf (score .binary64 request "c1" "p1" (.finite 0) (lengthDirectory key (.nonFinite .inf))) =
      none := by decide +kernel
  have negative : valueOf (score .binary64 request "c1" "p1" (.finite 0) (lengthDirectory key (.int (-100)))) =
      some (Arithmetic.binary64.literal 0.95, -95) := by decide +kernel
  refine ⟨by decide +kernel, absent, beyond, negative, ?_, ?_, ?_⟩
  · rintro ⟨ratio, saved, final, returned, _⟩
    rw [returned] at absent
    cases absent
  · rintro ⟨ratio, saved, final, returned, _⟩
    rw [returned] at beyond
    cases beyond
  · rintro ⟨ratio, saved, final, returned, _, _, nonneg, _⟩
    rw [returned] at negative
    cases negative
    exact absurd nonneg (by decide)

end KVCacheDirectory

end InDoubles

end NimbusMesh
