import Headway.Mean.Segment
import Headway.Proofs.Instant
import Headway.Proofs.Observation.NewestFirst

/-!
# The event with which a leg began

An event completes a leg that began with the latest event it can follow (`Event.follows`). A search
from the newest event on finds that one; of several at the latest time it finds the first that was
written (`IsNewestFirst.find?_isLatest`). So the partner of an event depends on what was written and
in which order, and not on how the list is kept (`Event.partner?_eq_some`).
-/

namespace Headway

/-! ## The latest event -/

/-- No event of a list is later, and those written before are earlier. -/
def IsLatest (x : Event) (events : List Event) : Prop :=
  ∃ before after, events = before ++ x :: after ∧ (∀ y ∈ before, y.time < x.time) ∧
    ∀ y ∈ after, y.time ≤ x.time

namespace IsLatest

variable {x y : Event} {events : List Event} {p : Event → Bool}

/-- The latest event is the first that is not before itself, and no event is later. -/
theorem iff_find? : IsLatest x events ↔
    events.find? (fun y => x.time ≤ y.time) = some x ∧ ∀ y ∈ events, y.time ≤ x.time := by
  rw [List.find?_eq_some_iff_append]
  constructor
  · rintro ⟨before, after, rfl, hbefore, hafter⟩
    refine ⟨⟨by simp [Instant.le_refl], before, after, rfl, fun y hy => ?_⟩, fun y hy => ?_⟩
    · simpa [Instant.not_le] using hbefore y hy
    · rcases List.mem_append.mp hy with hy | hy
      · exact Instant.le_of_lt (hbefore y hy)
      · rcases List.mem_cons.mp hy with rfl | hy
        · exact Instant.le_refl _
        · exact hafter y hy
  · rintro ⟨⟨-, before, after, rfl, hbefore⟩, hle⟩
    refine ⟨before, after, rfl, fun y hy => ?_, fun y hy => hle y (by simp [hy])⟩
    simpa [Instant.not_le] using hbefore y hy

theorem mem (h : IsLatest x events) : x ∈ events := by
  obtain ⟨before, after, rfl, -, -⟩ := h
  simp

theorem le (h : IsLatest x events) (hy : y ∈ events) : y.time ≤ x.time := (iff_find?.mp h).2 y hy

theorem unique (h : IsLatest x events) (h' : IsLatest y events) : x = y := by
  have htime : x.time = y.time := Instant.le_antisymm (h'.le h.mem) (h.le h'.mem)
  have hx := (iff_find?.mp h).1
  rw [htime, (iff_find?.mp h').1] at hx
  exact (Option.some.inj hx).symm

theorem singleton (x : Event) : IsLatest x [x] := ⟨[], [], rfl, by simp, by simp⟩

theorem exists_of_mem (hy : y ∈ events) : ∃ x, IsLatest x events := by
  induction events generalizing y with
  | nil => cases hy
  | cons first rest ih =>
    cases rest with
    | nil => exact ⟨first, [], [], rfl, by simp, by simp⟩
    | cons second rest =>
      obtain ⟨x, hx⟩ := ih List.mem_cons_self
      by_cases hlt : first.time < x.time
      · obtain ⟨before, after, hsplit, hbefore, hafter⟩ := hx
        exact ⟨x, first :: before, after, by rw [hsplit]; rfl,
          List.forall_mem_cons.mpr ⟨hlt, hbefore⟩, hafter⟩
      · refine ⟨first, [], second :: rest, rfl, by simp, fun z hz => ?_⟩
        exact Instant.le_trans (hx.le hz) (Instant.le_of_not_lt hlt)

theorem eq_nil_or_exists (events : List Event) : events = [] ∨ ∃ x, IsLatest x events := by
  cases events with
  | nil => exact Or.inl rfl
  | cons first rest => exact Or.inr (exists_of_mem List.mem_cons_self)

/-- The latest event is also the latest of some of the events, when it is among them. -/
theorem filter (h : IsLatest x events) (hx : p x = true) : IsLatest x (events.filter p) := by
  obtain ⟨before, after, rfl, hbefore, hafter⟩ := h
  refine ⟨before.filter p, after.filter p, by simp [hx], fun y hy => ?_, fun y hy => ?_⟩
  · exact hbefore y (List.mem_filter.mp hy).1
  · exact hafter y (List.mem_filter.mp hy).1

/-- The latest of some events is the latest of all when those left out are before it. -/
theorem of_filter (h : IsLatest x (events.filter p))
    (hout : ∀ y ∈ events, p y = false → y.time < x.time) : IsLatest x events := by
  have hmem := (List.mem_filter.mp h.mem).1
  obtain ⟨y, hy⟩ := exists_of_mem hmem
  cases hp : p y with
  | true => rwa [h.unique (hy.filter hp)]
  | false => exact absurd (hy.le hmem) (Instant.not_le.mpr (hout y hy.mem hp))

theorem filter_and {q : Event → Bool} (h : IsLatest x (events.filter p)) (hx : q x = true) :
    IsLatest x (events.filter fun y => p y && q y) := by
  have hq := h.filter hx
  rw [List.filter_filter] at hq
  simpa only [Bool.and_comm] using hq

theorem of_filter_and {q : Event → Bool} (h : IsLatest x (events.filter fun y => p y && q y))
    (hout : ∀ y ∈ events, p y = true → q y = false → y.time < x.time) :
    IsLatest x (events.filter p) := by
  apply IsLatest.of_filter (p := q)
  · rw [List.filter_filter]
    simpa only [Bool.and_comm] using h
  · intro y hy
    obtain ⟨hmem, hp⟩ := List.mem_filter.mp hy
    exact hout y hmem hp

end IsLatest

namespace IsNewestFirst

variable {events written : List Event} {p : Event → Bool} {x : Event}

theorem mem_iff (h : IsNewestFirst events written) {y : Event} : y ∈ events ↔ y ∈ written :=
  h.perm.mem_iff

theorem find?_eq_none_iff (h : IsNewestFirst events written) :
    events.find? p = none ↔ written.filter p = [] := by
  rw [List.find?_eq_none, List.filter_eq_nil_iff]
  exact forall_congr' fun y => by rw [h.mem_iff]

/-- Whatever comes before the first match in the list does not match, and whatever comes after it is
not later. -/
theorem time_le_of_find? (h : IsNewestFirst events written) (hx : events.find? p = some x)
    {y : Event} (hy : y ∈ written) (hp : p y = true) : y.time ≤ x.time := by
  obtain ⟨-, newer, older, rfl, hnewer⟩ := List.find?_eq_some_iff_append.mp hx
  rcases List.mem_append.mp (h.mem_iff.mpr hy) with hmem | hmem
  · have := hnewer y hmem
    rw [hp] at this
    cases this
  · obtain ⟨-, hsorted, -⟩ := List.pairwise_append.mp h.sorted
    rcases List.mem_cons.mp hmem with rfl | hmem
    · exact Instant.le_refl _
    · exact (List.pairwise_cons.mp hsorted).1 y hmem

theorem find?_isLatest (h : IsNewestFirst events written) (hx : events.find? p = some x) :
    IsLatest x (written.filter p) := by
  -- the matches at the time of `x` stand in the order of writing, and `x` is the first of them
  have hties : ∃ rest, (written.filter p).filter (fun y => y.time = x.time) = x :: rest := by
    obtain ⟨rest, hrest⟩ : ∃ rest, events.filter p = x :: rest := by
      rw [← List.head?_filter] at hx
      exact List.head?_eq_some_iff.mp hx
    have hswap (ys : List Event) : (ys.filter p).filter (fun y => y.time = x.time) =
        (ys.filter fun y => y.time = x.time).filter p := by
      rw [List.filter_filter, List.filter_filter]
      congr 1
      funext y
      exact Bool.and_comm _ _
    refine ⟨rest.filter fun y => y.time = x.time, ?_⟩
    rw [hswap, ← h.ties x.time, ← hswap, hrest]
    simp
  obtain ⟨rest, hrest⟩ := hties
  obtain ⟨before, after, hsplit, hbefore, -, -⟩ := List.filter_eq_cons_iff.mp hrest
  have hle {y : Event} (hy : y ∈ written.filter p) : y.time ≤ x.time := by
    obtain ⟨hwritten, hp⟩ := List.mem_filter.mp hy
    exact h.time_le_of_find? hx hwritten hp
  refine ⟨before, after, hsplit, ?_, ?_⟩
  · intro y hy
    have hyx : y.time ≤ x.time := hle (by rw [hsplit]; simp [hy])
    have hne : y.time ≠ x.time := by simpa using hbefore y hy
    rw [← Instant.not_le]
    exact fun hxy => hne (Instant.le_antisymm hyx hxy)
  · intro y hy
    exact hle (by rw [hsplit]; simp [hy])

/-- A search from the newest event on finds the latest match. -/
theorem find?_eq_some_iff (h : IsNewestFirst events written) :
    events.find? p = some x ↔ IsLatest x (written.filter p) := by
  refine ⟨h.find?_isLatest, fun hx => ?_⟩
  cases hfound : events.find? p with
  | none =>
    have hmem := hx.mem
    rw [h.find?_eq_none_iff.mp hfound] at hmem
    cases hmem
  | some y => rw [(h.find?_isLatest hfound).unique hx]

end IsNewestFirst

/-! ## Partners -/

namespace Event

/-- An event can complete a leg that began with a candidate: on the same run of the same vehicle,
not later, and a departure from the stop path before for an arrival, or an arrival at the same stop
for a departure. -/
def follows (e candidate : Event) : Bool :=
  candidate.vehicleId = e.vehicleId && candidate.frequencyStart = e.frequencyStart &&
    candidate.time ≤ e.time &&
      match e.kind with
      | .arrival => candidate.isDeparture && candidate.stopPathIndex + 1 = e.stopPathIndex
      | .departure => candidate.isArrival && candidate.stopId = e.stopId

theorem partner?_eq (e : Event) (history : List Event) :
    e.partner? history = history.find? e.follows := by
  cases hkind : e.kind with
  | arrival =>
    have hfollows : e.arrivesAfter = e.follows := by
      funext c
      simp only [arrivesAfter, follows, hkind, isArrival, decide_true, Bool.true_and]
      grind
    rw [← hfollows]
    simp [partner?, completes, isArrival, hkind, previousDeparture?]
  | departure =>
    have hfollows : e.departsAfter = e.follows := by
      funext c
      simp only [departsAfter, follows, hkind, isDeparture, decide_true, Bool.true_and]
      grind
    rw [← hfollows]
    simp [partner?, completes, isArrival, hkind, previousArrival?]

variable {e : Event} {history written : List Event}

theorem partner?_eq_none (h : IsNewestFirst history written) (hnone : e.partner? history = none) :
    written.filter e.follows = [] := by
  rw [partner?_eq] at hnone
  exact h.find?_eq_none_iff.mp hnone

theorem partner?_eq_some (h : IsNewestFirst history written) {begun : Event}
    (hsome : e.partner? history = some begun) : IsLatest begun (written.filter e.follows) := by
  rw [partner?_eq] at hsome
  exact h.find?_isLatest hsome

end Event

end Headway
