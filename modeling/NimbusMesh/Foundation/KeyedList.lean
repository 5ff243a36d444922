import Mathlib.Algebra.BigOperators.Group.List.Basic
import Mathlib.Algebra.Order.BigOperators.Group.List
import Mathlib.Data.List.Induction
import Mathlib.Data.List.Nodup

namespace Foundation

/-- Values in insertion order, with at most one value for each key. Replacing a value keeps
    its position and a value with a new key goes to the end. -/
@[ext]
structure KeyedList {κ α : Type} (key : α → κ) where
  toList : List α
  nodup : (toList.map key).Nodup

abbrev Dict (κ ν : Type) := KeyedList (Prod.fst : κ × ν → κ)

namespace KeyedList

section Structure

variable {κ α σ : Type} {key : α → κ}

def empty : KeyedList key := ⟨[], by simp⟩

theorem eq_of_key {values : List α} (nodup : (values.map key).Nodup) {a b : α}
    (left : a ∈ values) (right : b ∈ values) (same : key a = key b) : a = b :=
  List.inj_on_of_nodup_map nodup left right same

def filterMap (f : α → Option α) (keeps : ∀ a b, f a = some b → key b = key a)
    (values : KeyedList key) : KeyedList key :=
  ⟨values.toList.filterMap f, by
    refine values.nodup.sublist ?_
    induction values.toList with
    | nil => simp
    | cons a rest ih =>
      cases image : f a with
      | none => simpa [image] using ih.cons (key a)
      | some b => simpa [image, keeps a b image] using ih.cons_cons (key a)⟩

def mapAccumList (f : σ → α → σ × α) : σ → List α → σ × List α
  | s, [] => (s, [])
  | s, a :: rest =>
    let head := f s a
    let tail := mapAccumList f head.1 rest
    (tail.1, head.2 :: tail.2)

theorem mapAccumList_keys (f : σ → α → σ × α) (keeps : ∀ s a, key (f s a).2 = key a)
    (s : σ) (values : List α) : (mapAccumList f s values).2.map key = values.map key := by
  induction values generalizing s with
  | nil => rfl
  | cons a rest ih => simp [mapAccumList, keeps, ih]

/-- Visits the values in order, threading a state and replacing each value. -/
def mapAccum (f : σ → α → σ × α) (keeps : ∀ s a, key (f s a).2 = key a)
    (s : σ) (values : KeyedList key) : σ × KeyedList key :=
  let visited := mapAccumList f s values.toList
  (visited.1, ⟨visited.2, by rw [mapAccumList_keys f keeps]; exact values.nodup⟩)

def map (replace : α → α) (keeps : ∀ a, key (replace a) = key a) (values : KeyedList key) :
    KeyedList key :=
  ⟨values.toList.map replace, by
    have same : key ∘ replace = key := funext keeps
    rw [List.map_map, same]
    exact values.nodup⟩

theorem mapAccum_eq_map (agrees : σ → Prop) (replace : α → α) (keepsToo : ∀ a, key (replace a) = key a)
    {f : σ → α → σ × α} (keeps : ∀ s a, key (f s a).2 = key a)
    (visit : ∀ s a, agrees s → agrees (f s a).1 ∧ (f s a).2 = replace a) {s : σ} (holds : agrees s)
    (values : KeyedList key) :
    agrees (values.mapAccum f keeps s).1 ∧ (values.mapAccum f keeps s).2 = values.map replace keepsToo := by
  have visits : ∀ (list : List α) (t : σ), agrees t →
      agrees (mapAccumList f t list).1 ∧ (mapAccumList f t list).2 = list.map replace := by
    intro list
    induction list with
    | nil => exact fun t agreed => ⟨agreed, rfl⟩
    | cons a rest ih =>
      intro t agreed
      obtain ⟨next, head⟩ := visit t a agreed
      obtain ⟨final, tail⟩ := ih _ next
      exact ⟨final, by simp [mapAccumList, head, tail]⟩
  obtain ⟨final, list⟩ := visits values.toList s holds
  exact ⟨final, KeyedList.ext list⟩

/-- A change of the state that every visit carries through unseen is carried through all of them. -/
theorem mapAccum_commutes {f : σ → α → σ × α} (keeps : ∀ s a, key (f s a).2 = key a) (change : σ → σ)
    (visit : ∀ s a, f (change s) a = (change (f s a).1, (f s a).2)) (s : σ) (values : KeyedList key) :
    values.mapAccum f keeps (change s) =
      (change (values.mapAccum f keeps s).1, (values.mapAccum f keeps s).2) := by
  have visits : ∀ (list : List α) (t : σ), mapAccumList f (change t) list =
      (change (mapAccumList f t list).1, (mapAccumList f t list).2) := by
    intro list
    induction list with
    | nil => exact fun _ => rfl
    | cons a rest ih =>
      intro t
      simp only [mapAccumList, visit, ih]
  obtain ⟨states, list⟩ := Prod.mk.inj (visits values.toList s)
  exact Prod.ext states (KeyedList.ext list)

theorem mapAccum_state {f : σ → α → σ × α} (keeps : ∀ s a, key (f s a).2 = key a) (change : σ → σ)
    (idempotent : ∀ s, change (change s) = change s) (idle : α → Prop) [DecidablePred idle]
    (visit : ∀ s a, (f s a).1 = if idle a then s else change s) (s : σ) (values : KeyedList key) :
    (values.mapAccum f keeps s).1 = if ∀ a ∈ values.toList, idle a then s else change s := by
  have visits : ∀ (list : List α) (t : σ),
      (mapAccumList f t list).1 = if ∀ a ∈ list, idle a then t else change t := by
    intro list
    induction list with
    | nil => exact fun t => (if_pos (by simp)).symm
    | cons a rest ih =>
      intro t
      change (mapAccumList f (f t a).1 rest).1 = _
      rw [ih, visit]
      by_cases first : idle a
      · simp [first]
      · simp [first, idempotent]
  exact visits values.toList s

theorem mapAccum_map {f : σ → α → σ × α} (keeps : ∀ s a, key (f s a).2 = key a) (replace : α → α)
    (keepsToo : ∀ a, key (replace a) = key a) (visit : ∀ s a, f s (replace a) = ((f s a).1, replace (f s a).2))
    (s : σ) (values : KeyedList key) :
    (values.map replace keepsToo).mapAccum f keeps s =
      ((values.mapAccum f keeps s).1, (values.mapAccum f keeps s).2.map replace keepsToo) := by
  have visits : ∀ (list : List α) (t : σ), mapAccumList f t (list.map replace) =
      ((mapAccumList f t list).1, (mapAccumList f t list).2.map replace) := by
    intro list
    induction list with
    | nil => exact fun _ => rfl
    | cons a rest ih =>
      intro t
      simp only [List.map_cons, mapAccumList, visit, ih]
  obtain ⟨states, list⟩ := Prod.mk.inj (visits values.toList s)
  exact Prod.ext states (KeyedList.ext list)

end Structure

section Lookup

variable {κ α : Type} {key : α → κ} [DecidableEq κ]

def get? (values : KeyedList key) (k : κ) : Option α :=
  values.toList.find? (fun a => key a = k)

theorem get?_eq_some {values : KeyedList key} {k : κ} {a : α} :
    values.get? k = some a ↔ a ∈ values.toList ∧ key a = k := by
  have sound : ∀ b, values.get? k = some b → b ∈ values.toList ∧ key b = k := fun b found =>
    ⟨List.mem_of_find?_eq_some found, by simpa using List.find?_some found⟩
  refine ⟨sound a, ?_⟩
  rintro ⟨member, rfl⟩
  have present : (values.get? (key a)).isSome := by
    rw [get?, List.find?_isSome]
    exact ⟨a, member, decide_eq_true rfl⟩
  obtain ⟨b, found⟩ := Option.isSome_iff_exists.mp present
  rw [found, eq_of_key values.nodup (sound b found).1 member (sound b found).2]

theorem get?_key {values : KeyedList key} {k : κ} {a : α} (found : values.get? k = some a) :
    key a = k := (get?_eq_some.mp found).2

theorem get?_eq_none {values : KeyedList key} {k : κ} :
    values.get? k = none ↔ ∀ a ∈ values.toList, key a ≠ k := by
  simp [get?]

theorem get?_congr {left right : KeyedList key} {k : κ}
    (same : ∀ a, key a = k → (a ∈ left.toList ↔ a ∈ right.toList)) : left.get? k = right.get? k := by
  ext a
  simp only [get?_eq_some]
  constructor
  · rintro ⟨member, keyed⟩
    exact ⟨(same a keyed).mp member, keyed⟩
  · rintro ⟨member, keyed⟩
    exact ⟨(same a keyed).mpr member, keyed⟩

@[simp] theorem get?_map (replace : α → α) (keeps : ∀ a, key (replace a) = key a) (values : KeyedList key)
    (k : κ) : (values.map replace keeps).get? k = (values.get? k).map replace := by
  simp only [get?, map, List.find?_map]
  congr 2
  funext a
  simp [keeps]

@[simp] theorem get?_filterMap (f : α → Option α) (keeps : ∀ a b, f a = some b → key b = key a)
    (values : KeyedList key) (k : κ) : (values.filterMap f keeps).get? k = (values.get? k).bind f := by
  ext b
  simp only [get?_eq_some, Option.bind_eq_some_iff, filterMap, List.mem_filterMap]
  constructor
  · rintro ⟨⟨a, member, image⟩, keyed⟩
    exact ⟨a, ⟨member, by rw [← keeps a b image, keyed]⟩, image⟩
  · rintro ⟨a, ⟨member, keyed⟩, image⟩
    exact ⟨⟨a, member, image⟩, by rw [keeps a b image, keyed]⟩

def insertList (key : α → κ) (a : α) : List α → List α
  | [] => [a]
  | b :: rest => if key b = key a then a :: rest else b :: insertList key a rest

theorem mem_insertList {a b : α} {values : List α} (nodup : (values.map key).Nodup) :
    b ∈ insertList key a values ↔ b = a ∨ (b ∈ values ∧ key b ≠ key a) := by
  induction values with
  | nil => simp [insertList]
  | cons c rest ih =>
    simp only [List.map_cons, List.nodup_cons, List.mem_map, not_exists, not_and] at nodup
    by_cases same : key c = key a
    · simp only [insertList, same, if_true, List.mem_cons]
      constructor
      · rintro (rfl | member)
        · exact .inl rfl
        · exact .inr ⟨.inr member, fun clash => nodup.1 b member (clash.trans same.symm)⟩
      · rintro (rfl | ⟨rfl | member, clash⟩)
        · exact .inl rfl
        · exact absurd same clash
        · exact .inr member
    · simp only [insertList, same, if_false, List.mem_cons, ih nodup.2]
      constructor
      · rintro (rfl | rfl | ⟨member, clash⟩)
        · exact .inr ⟨.inl rfl, same⟩
        · exact .inl rfl
        · exact .inr ⟨.inr member, clash⟩
      · rintro (rfl | ⟨rfl | member, clash⟩)
        · exact .inr (.inl rfl)
        · exact .inl rfl
        · exact .inr (.inr ⟨member, clash⟩)

theorem insertList_nodup (a : α) {values : List α} (nodup : (values.map key).Nodup) :
    ((insertList key a values).map key).Nodup := by
  induction values with
  | nil => simp [insertList]
  | cons c rest ih =>
    have tail := nodup
    simp only [List.map_cons, List.nodup_cons] at tail
    by_cases same : key c = key a
    · simpa only [insertList, same, if_true, List.map_cons] using nodup
    · simp only [insertList, same, if_false, List.map_cons, List.nodup_cons]
      refine ⟨?_, ih tail.2⟩
      simp only [List.mem_map, not_exists, not_and]
      intro b member clash
      rcases (mem_insertList tail.2).mp member with rfl | ⟨inRest, _⟩
      · exact same clash.symm
      · exact tail.1 (List.mem_map.mpr ⟨b, inRest, clash⟩)

def insert (values : KeyedList key) (a : α) : KeyedList key :=
  ⟨insertList key a values.toList, insertList_nodup a values.nodup⟩

theorem mem_insert {values : KeyedList key} {a b : α} :
    b ∈ (values.insert a).toList ↔ b = a ∨ (b ∈ values.toList ∧ key b ≠ key a) :=
  mem_insertList values.nodup

@[simp] theorem get?_insert (values : KeyedList key) (a : α) (k : κ) :
    (values.insert a).get? k = if key a = k then some a else values.get? k := by
  split
  · rename_i same
    exact get?_eq_some.mpr ⟨mem_insert.mpr (.inl rfl), same⟩
  · rename_i differ
    refine get?_congr ?_
    rintro b rfl
    rw [mem_insert]
    constructor
    · rintro (rfl | ⟨member, _⟩)
      · exact absurd rfl differ
      · exact member
    · exact fun member => .inr ⟨member, fun clash => differ clash.symm⟩

theorem map_insert (replace : α → α) (keeps : ∀ a, key (replace a) = key a) (values : KeyedList key) (a : α) :
    (values.map replace keeps).insert (replace a) = (values.insert a).map replace keeps := by
  have lists : ∀ list : List α,
      insertList key (replace a) (list.map replace) = (insertList key a list).map replace := by
    intro list
    induction list with
    | nil => rfl
    | cons b rest ih =>
      simp only [List.map_cons, insertList, keeps]
      split
      · rfl
      · rw [ih, List.map_cons]
  exact KeyedList.ext (lists values.toList)

theorem mem_foldl_insert {β : Type} (make : β → α) (items : List β) (values : KeyedList key) {a : α}
    (member : a ∈ (items.foldl (fun built b => built.insert (make b)) values).toList) :
    (a ∈ values.toList) ∨ ∃ b ∈ items, a = make b := by
  induction items generalizing values with
  | nil => exact .inl member
  | cons b rest ih =>
    rcases ih (values.insert (make b)) member with held | ⟨c, inRest, same⟩
    · rcases mem_insert.mp held with new | ⟨old, _⟩
      · exact .inr ⟨b, by simp, new⟩
      · exact .inl old
    · exact .inr ⟨c, by simp [inRest], same⟩

def erase (values : KeyedList key) (k : κ) : KeyedList key :=
  ⟨values.toList.filter (fun a => key a ≠ k), values.nodup.sublist (List.filter_sublist.map key)⟩

theorem mem_erase {values : KeyedList key} {k : κ} {a : α} :
    a ∈ (values.erase k).toList ↔ a ∈ values.toList ∧ key a ≠ k := by
  simp [erase]

variable {M : Type} [AddCommMonoid M]

theorem sum_insert (weight : α → M) (values : KeyedList key) (a : α) :
    ((values.insert a).toList.map weight).sum + ((values.get? (key a)).map weight).getD 0 =
      (values.toList.map weight).sum + weight a := by
  obtain ⟨values, nodup⟩ := values
  simp only [insert, get?]
  clear nodup
  induction values with
  | nil => simp [insertList]
  | cons b rest ih =>
    by_cases same : key b = key a
    · simp only [insertList, same, if_true, List.map_cons, List.sum_cons, decide_true,
        List.find?_cons_of_pos, Option.map_some, Option.getD_some]
      rw [add_right_comm, add_comm (weight a), add_assoc, add_comm (weight a), ← add_assoc,
        add_comm (weight b)]
    · simp only [insertList, same, if_false, List.map_cons, List.sum_cons, decide_false,
        Bool.false_eq_true, not_false_eq_true, List.find?_cons_of_neg]
      rw [add_assoc, ih, add_assoc]

theorem sum_erase (weight : α → M) (values : KeyedList key) (k : κ) :
    ((values.erase k).toList.map weight).sum + ((values.get? k).map weight).getD 0 =
      (values.toList.map weight).sum := by
  obtain ⟨values, nodup⟩ := values
  simp only [erase, get?]
  induction values with
  | nil => simp
  | cons b rest ih =>
    simp only [List.map_cons, List.nodup_cons, List.mem_map, not_exists, not_and] at nodup
    by_cases same : key b = k
    · have absent : rest.filter (fun a => key a ≠ k) = rest :=
        List.filter_eq_self.mpr (fun a member => decide_eq_true (by
          rw [← same]
          exact nodup.1 a member))
      simp only [ne_eq, decide_not] at absent
      simp [same, absent, add_comm]
    · have tail := ih nodup.2
      simp only [ne_eq, decide_not] at tail ⊢
      simp only [same, decide_false, Bool.not_false, List.filter_cons_of_pos, List.map_cons,
        List.sum_cons, Bool.false_eq_true, not_false_eq_true, List.find?_cons_of_neg]
      rw [add_assoc, tail]

theorem get?_erase (values : KeyedList key) (k other : κ) :
    (values.erase k).get? other = if k = other then none else values.get? other := by
  split
  · rename_i same
    subst same
    exact get?_eq_none.mpr (fun a member => (mem_erase.mp member).2)
  · rename_i differ
    refine get?_congr ?_
    rintro a rfl
    rw [mem_erase]
    exact ⟨fun member => member.1, fun member => ⟨member, fun clash => differ clash.symm⟩⟩

theorem sum_le_sum [PartialOrder M] [IsOrderedAddMonoid M] (weight : α → M)
    {smaller larger : KeyedList key} (nonneg : ∀ a ∈ larger.toList, 0 ≤ weight a)
    (le : ∀ k, ((smaller.get? k).map weight).getD 0 ≤ ((larger.get? k).map weight).getD 0) :
    (smaller.toList.map weight).sum ≤ (larger.toList.map weight).sum := by
  obtain ⟨values, nodup⟩ := smaller
  induction values generalizing larger with
  | nil =>
    apply List.sum_nonneg
    intro w member
    obtain ⟨a, inside, rfl⟩ := List.mem_map.mp member
    exact nonneg a inside
  | cons a rest ih =>
    have tail : (rest.map key).Nodup := (List.nodup_cons.mp nodup).2
    have fresh : key a ∉ rest.map key := (List.nodup_cons.mp nodup).1
    have head := le (key a)
    have later := @ih (larger.erase (key a))
      (fun b member => nonneg b (mem_erase.mp member).1) tail ?_
    · rw [← sum_erase weight larger (key a), List.map_cons, List.sum_cons, add_comm]
      refine add_le_add later (le_trans ?_ head)
      simp [get?]
    · intro k
      rw [get?_erase]
      split
      · rename_i same
        subst same
        have absent : (⟨rest, tail⟩ : KeyedList key).get? (key a) = none :=
          get?_eq_none.mpr (fun b member clash => fresh (List.mem_map.mpr ⟨b, member, clash⟩))
        simp [absent]
      · rename_i differ
        have same := le k
        simpa [get?, differ] using same

end Lookup

end KeyedList

namespace Dict

variable {κ ν : Type} [DecidableEq κ]

def lookup (d : Dict κ ν) (k : κ) : Option ν := (d.get? k).map Prod.snd

def set (d : Dict κ ν) (k : κ) (v : ν) : Dict κ ν := KeyedList.insert d (k, v)

def values (d : Dict κ ν) : List ν := d.toList.map Prod.snd

def ofList (pairs : List (κ × ν)) : Dict κ ν := pairs.foldl (fun d pair => d.set pair.1 pair.2) KeyedList.empty

def filter (keep : κ → Bool) (d : Dict κ ν) : Dict κ ν :=
  ⟨d.toList.filter (fun pair => keep pair.1), d.nodup.sublist (List.filter_sublist.map Prod.fst)⟩

@[simp] theorem lookup_set (d : Dict κ ν) (k k' : κ) (v : ν) :
    (d.set k v).lookup k' = if k = k' then some v else d.lookup k' := by
  unfold lookup set
  rw [KeyedList.get?_insert]
  split <;> rfl

theorem lookup_add {M : Type} [AddMonoid M] (d : Dict κ M) (k k' : κ) (x : M) :
    ((d.set k ((d.lookup k).getD 0 + x)).lookup k').getD 0 = (d.lookup k').getD 0 + if k = k' then x else 0 := by
  rw [lookup_set]
  split
  · rename_i same
    rw [same]
    rfl
  · rw [add_zero]

theorem lookup_map (f : ν → ν) (d : Dict κ ν) (k : κ) :
    lookup (KeyedList.map (fun entry => (entry.1, f entry.2)) (fun _ => rfl) d) k = (d.lookup k).map f := by
  unfold lookup
  rw [KeyedList.get?_map, Option.map_map, Option.map_map]
  rfl

@[simp] theorem lookup_filter (keep : κ → Bool) (d : Dict κ ν) (k : κ) :
    (d.filter keep).lookup k = if keep k = true then d.lookup k else none := by
  unfold lookup
  split
  · rename_i kept
    congr 1
    apply KeyedList.get?_congr
    intro entry keyed
    change entry ∈ d.toList.filter _ ↔ _
    rw [List.mem_filter, keyed]
    exact and_iff_left kept
  · rename_i dropped
    rw [Option.map_eq_none_iff, KeyedList.get?_eq_none]
    intro entry member keyed
    have kept := (List.mem_filter.mp member).2
    rw [keyed] at kept
    exact dropped kept

theorem toList_set_fresh {d : Dict κ ν} {k : κ} (fresh : k ∉ d.toList.map Prod.fst) (v : ν) :
    (d.set k v).toList = d.toList ++ [(k, v)] := by
  have lists : ∀ list : List (κ × ν), k ∉ list.map Prod.fst →
      KeyedList.insertList Prod.fst (k, v) list = list ++ [(k, v)] := by
    intro list
    induction list with
    | nil => exact fun _ => rfl
    | cons pair rest ih =>
      intro absent
      rw [List.map_cons, List.mem_cons, not_or] at absent
      rw [KeyedList.insertList, if_neg (fun same => absent.1 same.symm), ih absent.2, List.cons_append]
  exact lists d.toList fresh

@[simp] theorem toList_ofList {pairs : List (κ × ν)} (distinct : (pairs.map Prod.fst).Nodup) :
    (ofList pairs).toList = pairs := by
  induction pairs using List.reverseRecOn with
  | nil => rfl
  | append_singleton pairs pair ih =>
    rw [List.map_append, List.nodup_append] at distinct
    have built := ih distinct.1
    have fresh : pair.1 ∉ (ofList pairs).toList.map Prod.fst := by
      rw [built]
      exact fun member => distinct.2.2 pair.1 member pair.1 (by simp) rfl
    unfold ofList at built fresh ⊢
    rw [List.foldl_append]
    exact (toList_set_fresh fresh pair.2).trans (by rw [built])

section Fold

variable {β : Type} (key : β → κ) (value : β → ν)

theorem lookup_foldl_set_of_notMem {items : List β} {k : κ} (absent : k ∉ items.map key) (d : Dict κ ν) :
    (items.foldl (fun d item => d.set (key item) (value item)) d).lookup k = d.lookup k := by
  induction items generalizing d with
  | nil => rfl
  | cons item rest ih =>
    rw [List.map_cons, List.mem_cons, not_or] at absent
    rw [List.foldl_cons, ih absent.2, lookup_set, if_neg (fun same => absent.1 same.symm)]

theorem lookup_foldl_set {items : List β} (distinct : (items.map key).Nodup) {item : β} (member : item ∈ items)
    (d : Dict κ ν) :
    (items.foldl (fun d item => d.set (key item) (value item)) d).lookup (key item) = some (value item) := by
  induction items generalizing d with
  | nil => cases member
  | cons first rest ih =>
    rw [List.map_cons, List.nodup_cons] at distinct
    rw [List.foldl_cons]
    rcases List.mem_cons.mp member with rfl | later
    · rw [lookup_foldl_set_of_notMem key value distinct.1, lookup_set, if_pos rfl]
    · exact ih distinct.2 later _

end Fold

theorem mem_toList_iff {d : Dict κ ν} {entry : κ × ν} :
    entry ∈ d.toList ↔ d.lookup entry.1 = some entry.2 := by
  unfold lookup
  rw [Option.map_eq_some_iff]
  constructor
  · exact fun member => ⟨entry, KeyedList.get?_eq_some.mpr ⟨member, rfl⟩, rfl⟩
  · rintro ⟨found, read, value⟩
    obtain ⟨member, key⟩ := KeyedList.get?_eq_some.mp read
    rwa [← Prod.ext key value]

theorem sum_set {M : Type} [AddCommMonoid M] (weight : ν → M) (d : Dict κ ν) (k : κ) (v : ν) :
    (((d.set k v).values).map weight).sum + ((d.lookup k).map weight).getD 0 =
      (d.values.map weight).sum + weight v := by
  have inserted := KeyedList.sum_insert (fun slot : κ × ν => weight slot.2) d (k, v)
  have held : ((d.get? k).map (fun slot => weight slot.2)).getD 0 = ((d.lookup k).map weight).getD 0 := by
    rw [lookup, Option.map_map]
    rfl
  rw [values, values, List.map_map, List.map_map, ← held]
  exact inserted

theorem perm_of_lookup {d e : Dict κ ν} (same : ∀ k, d.lookup k = e.lookup k) :
    d.toList.Perm e.toList := by
  apply (List.perm_ext_iff_of_nodup (List.Nodup.of_map _ d.nodup) (List.Nodup.of_map _ e.nodup)).mpr
  intro entry
  rw [mem_toList_iff, mem_toList_iff, same]

section MapValues

variable {μ : Type}

def mapValues (f : ν → μ) (d : Dict κ ν) : Dict κ μ where
  toList := d.toList.map (fun entry => (entry.1, f entry.2))
  nodup := by
    rw [List.map_map]
    exact d.nodup

@[simp] theorem lookup_mapValues (f : ν → μ) (d : Dict κ ν) (k : κ) : (d.mapValues f).lookup k = (d.lookup k).map f := by
  unfold lookup KeyedList.get? mapValues
  rw [List.find?_map, Option.map_map, Option.map_map]
  rfl

theorem mapValues_set (f : ν → μ) (d : Dict κ ν) (k : κ) (v : ν) :
    (d.set k v).mapValues f = (d.mapValues f).set k (f v) := by
  have lists : ∀ list : List (κ × ν),
      (KeyedList.insertList Prod.fst (k, v) list).map (fun entry => (entry.1, f entry.2)) =
        KeyedList.insertList Prod.fst (k, f v) (list.map (fun entry => (entry.1, f entry.2))) := by
    intro list
    induction list with
    | nil => rfl
    | cons entry rest ih =>
      rw [List.map_cons, KeyedList.insertList, KeyedList.insertList]
      split
      · rfl
      · rw [List.map_cons, ih]
  exact KeyedList.ext (lists d.toList)

end MapValues

end Dict

end Foundation
