import Mathlib.Data.List.GetD
import Mathlib.Data.List.MinMax
import Mathlib.Data.List.Range
import Mathlib.Data.List.Count
import Mathlib.Order.Bounds.Basic

namespace Foundation.SlotQueue

variable {τ : Type} [LinearOrder τ]

def busy (times : List τ) (t : τ) : ℕ := times.countP (t < ·)

theorem busy_cons (x : τ) (times : List τ) (t : τ) :
    busy (x :: times) t = busy times t + if t < x then 1 else 0 := by
  simp [busy, List.countP_cons]

theorem busy_snoc (times : List τ) (x t : τ) :
    busy (times ++ [x]) t = busy times t + if t < x then 1 else 0 := by
  simp [busy, List.countP_append, List.countP_cons]

variable [Zero τ]

def earliest (slots : List τ) : Option ℕ :=
  (List.range slots.length).argmin (fun i => slots.getD i 0)

theorem earliest_of_ne_nil {slots : List τ} (nonempty : slots ≠ []) : ∃ i, earliest slots = some i := by
  apply Option.ne_none_iff_exists'.mp
  intro none
  have empty := List.argmin_eq_none.mp none
  exact nonempty (List.length_eq_zero_iff.mp (List.range_eq_nil.mp empty))

theorem earliest_lt {slots : List τ} {i : ℕ} (found : earliest slots = some i) : i < slots.length :=
  List.mem_range.mp (List.argmin_mem found)

theorem earliest_le {slots : List τ} {i : ℕ} (found : earliest slots = some i) {s : τ}
    (member : s ∈ slots) : slots.getD i 0 ≤ s := by
  obtain ⟨j, bound, rfl⟩ := List.mem_iff_getElem.mp member
  have least := List.le_of_mem_argmin (List.mem_range.mpr bound) found
  rwa [List.getD_eq_getElem _ _ bound] at least

theorem earliest_mem {slots : List τ} {i : ℕ} (found : earliest slots = some i) :
    slots.getD i 0 ∈ slots := by
  rw [List.getD_eq_getElem _ _ (earliest_lt found)]
  exact List.getElem_mem _

theorem earliest_min? {slots : List τ} {i : ℕ} (found : earliest slots = some i) :
    slots.min? = some (slots.getD i 0) :=
  List.min?_eq_some_iff.mpr ⟨earliest_mem found, fun _ member => earliest_le found member⟩

theorem busy_set (slots : List τ) {i : ℕ} (bound : i < slots.length) (x t : τ) :
    busy (slots.set i x) t + (if t < slots.getD i 0 then 1 else 0) =
      busy slots t + if t < x then 1 else 0 := by
  induction slots generalizing i with
  | nil => simp at bound
  | cons s rest ih =>
    cases i with
    | zero => simp only [List.set_cons_zero, busy_cons, List.getD_cons_zero]; omega
    | succ i =>
      have tail := ih (by simpa using bound)
      simp only [List.set_cons_succ, busy_cons, List.getD_cons_succ]
      omega

theorem busy_lt_iff {slots : List τ} {i : ℕ} (found : earliest slots = some i) (t : τ) :
    busy slots t < slots.length ↔ slots.getD i 0 ≤ t := by
  constructor
  · intro free
    by_contra early
    have full : busy slots t = slots.length := List.countP_eq_length.mpr (fun s member =>
      decide_eq_true (lt_of_lt_of_le (lt_of_not_ge early) (earliest_le found member)))
    omega
  · intro free
    by_contra full
    have all : busy slots t = slots.length := le_antisymm List.countP_le_length (by omega)
    have late := List.countP_eq_length.mp all _ (earliest_mem found)
    exact absurd free (not_le_of_gt (by simpa using late))

/-- A few slot times stand for the whole history of completions: from the origin on, the busy
    slots are the unfinished requests, up to the number of slots. -/
def Tracks (slots history : List τ) : Prop :=
  ∀ t, 0 ≤ t → busy slots t = min slots.length (busy history t)

theorem tracks_initial (count : ℕ) : Tracks (List.replicate count (0 : τ)) [] := by
  intro t nonneg
  have free : busy (List.replicate count (0 : τ)) t = 0 :=
    List.countP_eq_zero.mpr (fun s member => by simp [(List.mem_replicate.mp member).2, nonneg])
  rw [free]
  simp [busy]

theorem Tracks.book {slots history : List τ} {i : ℕ} {x : τ} (tracks : Tracks slots history)
    (found : earliest slots = some i) (later : slots.getD i 0 ≤ x) :
    Tracks (slots.set i x) (history ++ [x]) := by
  intro t nonneg
  have before := tracks t nonneg
  have moved := busy_set slots (earliest_lt found) x t
  have free := busy_lt_iff found t
  rw [busy_snoc, List.length_set]
  by_cases arrived : slots.getD i 0 ≤ t
  · have room := free.mpr arrived
    simp only [not_lt_of_ge arrived, if_false] at moved
    split at moved <;> simp only [*, if_true, if_false] at moved ⊢ <;> omega
  · have full := mt free.mp arrived
    simp only [lt_of_not_ge arrived, lt_of_lt_of_le (lt_of_not_ge arrived) later, if_true] at moved ⊢
    omega

theorem Tracks.start_least {slots history : List τ} {i : ℕ} (tracks : Tracks slots history)
    (found : earliest slots = some i) {now : τ} (nonneg : 0 ≤ now) :
    IsLeast {t | now ≤ t ∧ busy history t < slots.length} (max now (slots.getD i 0)) := by
  have served : ∀ t, now ≤ t → (busy history t < slots.length ↔ slots.getD i 0 ≤ t) := by
    intro t le
    rw [← busy_lt_iff found, tracks t (nonneg.trans le)]
    omega
  constructor
  · exact ⟨le_max_left _ _, (served _ (le_max_left _ _)).mpr (le_max_right _ _)⟩
  · rintro t ⟨le, free⟩
    exact max_le le ((served t le).mp free)

/-- Of two queues with as many servers, one that has at no time more of them busy than the other. -/
structure Lighter (light heavy : List τ) : Prop where
  length : light.length = heavy.length
  busy : ∀ t, busy light t ≤ busy heavy t

omit [Zero τ] in
theorem Lighter.refl (slots : List τ) : Lighter slots slots := ⟨rfl, fun _ => le_refl _⟩

section Lighter

variable {light heavy : List τ} {i j : ℕ} {x y : τ}

theorem Lighter.earliest_le (lighter : Lighter light heavy) (found : earliest light = some i)
    (other : earliest heavy = some j) : light.getD i 0 ≤ heavy.getD j 0 := by
  have free := (busy_lt_iff other (heavy.getD j 0)).mpr (le_refl _)
  apply (busy_lt_iff found _).mp
  rw [lighter.length]
  exact lt_of_le_of_lt (lighter.busy _) free

theorem Lighter.book_heavy (lighter : Lighter light heavy) (other : earliest heavy = some j)
    (later : heavy.getD j 0 ≤ y) : Lighter light (heavy.set j y) := by
  constructor
  · rw [List.length_set, lighter.length]
  · intro t
    have before := lighter.busy t
    have moved := busy_set heavy (earliest_lt other) y t
    by_cases early : t < heavy.getD j 0
    · simp only [early, lt_of_lt_of_le early later, if_true] at moved
      omega
    · simp only [early, if_false] at moved
      omega

theorem Lighter.book (lighter : Lighter light heavy) (found : earliest light = some i)
    (other : earliest heavy = some j) (later : heavy.getD j 0 ≤ y) (le : x ≤ y) :
    Lighter (light.set i x) (heavy.set j y) := by
  constructor
  · rw [List.length_set, List.length_set, lighter.length]
  · intro t
    have before := lighter.busy t
    have moved := busy_set heavy (earliest_lt other) y t
    by_cases early : t < heavy.getD j 0
    · have full : SlotQueue.busy heavy t = heavy.length := by
        have most : SlotQueue.busy heavy t ≤ heavy.length := List.countP_le_length
        have none := mt (busy_lt_iff other t).mp (not_le_of_gt early)
        omega
      have most : SlotQueue.busy (light.set i x) t ≤ (light.set i x).length := List.countP_le_length
      rw [List.length_set, lighter.length] at most
      simp only [early, lt_of_lt_of_le early later, if_true] at moved
      omega
    · have movedLight := busy_set light (earliest_lt found) x t
      have arrived : ¬ t < light.getD i 0 :=
        not_lt_of_ge ((lighter.earliest_le found other).trans (le_of_not_gt early))
      simp only [early, if_false] at moved
      simp only [arrived, if_false] at movedLight
      by_cases running : t < x
      · simp only [running, lt_of_lt_of_le running le, if_true] at moved movedLight
        omega
      · simp only [running, if_false] at movedLight
        omega

end Lighter

structure Booking (τ : Type) where
  slot : ℕ
  start : τ
  finish : τ

def Booking.Covers (interval : Booking τ) (t : τ) : Prop := interval.start ≤ t ∧ t < interval.finish

instance (interval : Booking τ) (t : τ) : Decidable (interval.Covers t) :=
  inferInstanceAs (Decidable (_ ∧ _))

structure Booked (slots : List τ) (intervals : List (Booking τ)) : Prop where
  ended : ∀ r ∈ intervals, r.slot < slots.length ∧ r.finish ≤ slots.getD r.slot 0
  apart : intervals.Pairwise (fun r s => r.slot = s.slot → r.finish ≤ s.start)

theorem Booked.book {slots : List τ} {intervals : List (Booking τ)} (booked : Booked slots intervals)
    {i : ℕ} (bound : i < slots.length) {start finish : τ} (free : slots.getD i 0 ≤ start)
    (forward : start ≤ finish) : Booked (slots.set i finish) (intervals ++ [⟨i, start, finish⟩]) := by
  constructor
  · intro r member
    rw [List.length_set]
    rcases List.mem_append.mp member with earlier | current
    · obtain ⟨inside, ended⟩ := booked.ended r earlier
      refine ⟨inside, ?_⟩
      by_cases same : i = r.slot
      · subst same
        simpa [List.getD, bound] using ended.trans (free.trans forward)
      · simpa [List.getD, List.getElem?_set_ne same] using ended
    · rw [List.mem_singleton.mp current]
      exact ⟨bound, by simp [List.getD, bound]⟩
  · refine List.pairwise_append.mpr ⟨booked.apart, by simp, ?_⟩
    intro r earlier s current same
    rw [List.mem_singleton.mp current] at same ⊢
    have ended := (booked.ended r earlier).2
    rw [same] at ended
    exact ended.trans free

theorem Booked.covering_le {slots : List τ} {intervals : List (Booking τ)}
    (booked : Booked slots intervals) (t : τ) :
    (intervals.filter (fun r => r.Covers t)).length ≤ slots.length := by
  have distinct : ((intervals.filter (fun r => r.Covers t)).map Booking.slot).Nodup := by
    rw [List.Nodup, List.pairwise_map]
    refine (booked.apart.filter _).imp_of_mem ?_
    intro r s left right apart same
    have running : r.Covers t := by simpa using (List.mem_filter.mp left).2
    have starting : s.Covers t := by simpa using (List.mem_filter.mp right).2
    exact absurd (apart same) (not_le_of_gt (lt_of_le_of_lt starting.1 running.2))
  have inside : ∀ i ∈ (intervals.filter (fun r => r.Covers t)).map Booking.slot,
      i ∈ List.range slots.length := by
    intro i member
    obtain ⟨r, kept, rfl⟩ := List.mem_map.mp member
    exact List.mem_range.mpr (booked.ended r (List.mem_filter.mp kept).1).1
  have card := (List.subperm_of_subset distinct inside).length_le
  simpa using card

end Foundation.SlotQueue
