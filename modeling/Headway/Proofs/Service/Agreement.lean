import Headway.Proofs.Mean.Store
import Headway.Proofs.Observation.EventLog
import Headway.Proofs.Service.Recording
import Headway.Service.Prediction

/-!
# Memories that show the same

Two memories agree when everything that can be read in them is the same and they will age alike. A
memory agrees with what an eviction leaves of it (`Memory.Agrees.evict_left`), and every operation
does the same on memories that agree: it gives the same notices, records and answer, and leaves
memories that agree again.
-/

namespace Headway

variable {R : Type}

namespace SegmentMeans

/-- Two means of one key space keep the same and will age alike. -/
structure Agrees (a b : SegmentMeans R) : Prop where
  space : a.space = b.space
  store : a.store.Agrees b.store

theorem Agrees.refl (a : SegmentMeans R) : Agrees a a := ⟨rfl, .refl _⟩

theorem Agrees.evict_left {a b : SegmentMeans R} (h : Agrees a b) : Agrees a.evict b :=
  ⟨h.space, h.store.evict_left⟩

end SegmentMeans

namespace Memory

/-- Two memories show the same and will age alike. -/
structure Agrees (a b : Memory R) : Prop where
  trips : a.trips.log.Agrees b.trips.log
  daysToPopulate : a.trips.daysToPopulate = b.trips.daysToPopulate
  stops : EventLog.Agrees a.stops b.stops
  scheduleMeans : a.scheduleMeans.Agrees b.scheduleMeans
  frequencyMeans : a.frequencyMeans.Agrees b.frequencyMeans
  filterErrors : a.filterErrors = b.filterErrors
  dwellModels : a.dwellModels = b.dwellModels
  holds : a.holds = b.holds

namespace Agrees

theorem refl (a : Memory R) : Agrees a a where
  trips := .refl _
  daysToPopulate := rfl
  stops := .refl _
  scheduleMeans := .refl _
  frequencyMeans := .refl _
  filterErrors := rfl
  dwellModels := rfl
  holds := rfl

variable {a b : Memory R}

theorem evict_left (h : Agrees a b) : Agrees a.evict b :=
  { h with
    trips := h.trips.evict_left
    stops := h.stops.evict_left
    scheduleMeans := h.scheduleMeans.evict_left
    frequencyMeans := h.frequencyMeans.evict_left }

theorem means (h : Agrees a b) (byFrequency : Bool) :
    (a.means byFrequency).Agrees (b.means byFrequency) := by
  cases byFrequency with
  | false => exact h.scheduleMeans
  | true => exact h.frequencyMeans

theorem withMeans (h : Agrees a b) {x y : SegmentMeans R} (hxy : x.Agrees y) (byFrequency : Bool) :
    Agrees (a.withMeans byFrequency x) (b.withMeans byFrequency y) := by
  cases byFrequency with
  | false => exact { h with scheduleMeans := hxy }
  | true => exact { h with frequencyMeans := hxy }

theorem file_stops (h : Agrees a b) (today : Day) (e : Event) (day : Day) :
    Agrees { a with stops := a.stops.file today e day }
      { b with stops := b.stops.file today e day } :=
  { h with stops := h.stops.push today _ e }

theorem fileBack (today : Day) (e : Event) (start : Option Int) (n : Nat) (day : Day)
    {x y : EventLog TripKey} (h : x.Agrees y) :
    (TripHistory.fileBack today e start n day x).Agrees
      (TripHistory.fileBack today e start n day y) := by
  induction n generalizing day x y with
  | zero => exact h
  | succ n ih =>
    have hpush := h.push today ⟨e.tripId, day, start⟩ e
    simp only [TripHistory.fileBack]
    cases day.addDays? (-1) with
    | none => exact hpush
    | some earlier => exact ih earlier hpush

/-- Filing under a run pushes on both sides as often, since both file an event equally far back. -/
theorem file_trips (h : Agrees a b) (today : Day) (e : Event) (start : Option Int) (day : Day) :
    Agrees { a with trips := a.trips.file today e start day }
      { b with trips := b.trips.file today e start day } where
  trips := by
    unfold TripHistory.file
    rw [h.daysToPopulate]
    exact fileBack today e start _ day h.trips
  daysToPopulate := h.daysToPopulate
  stops := h.stops
  scheduleMeans := h.scheduleMeans
  frequencyMeans := h.frequencyMeans
  filterErrors := h.filterErrors
  dwellModels := h.dwellModels
  holds := h.holds

theorem meanOf? (h : Agrees a b) (k : SegmentKey) : a.meanOf? k = b.meanOf? k :=
  (h.means k.isBucketed).store.get? k

theorem takeSample [Scalar R] (h : Agrees a b) (today : Day) (byFrequency : Bool)
    (key : SegmentKey) (millis : Int) (day : Day) :
    Agrees (Service.takeSample a today byFrequency key millis day).1
        (Service.takeSample b today byFrequency key millis day).1 ∧
      (Service.takeSample a today byFrequency key millis day).2 =
        (Service.takeSample b today byFrequency key millis day).2 := by
  have hm := h.means byFrequency
  constructor
  · apply h.withMeans
    exact ⟨hm.space, hm.store.update today key _ day⟩
  · exact congrArg (SegmentMeans.Updated.mk key) (hm.store.update_snd today key _ day)

end Agrees

end Memory

namespace Step

variable {α β : Type}

/-- Two steps do and answer the same, and leave memories that agree. -/
structure Agrees (s t : Step R α) : Prop where
  memory : s.memory.Agrees t.memory
  notices : s.notices = t.notices
  records : s.records = t.records
  result : s.result = t.result

namespace Agrees

variable {a b : Memory R}

theorem done (h : a.Agrees b) (x : α) : Agrees (Step.done a x) (Step.done b x) :=
  ⟨h, rfl, rfl, rfl⟩

theorem fail (h : a.Agrees b) (f : Failure R) :
    Agrees (Step.fail a f : Step R α) (Step.fail b f) :=
  ⟨h, rfl, rfl, rfl⟩

theorem notify (h : a.Agrees b) (notices : List (Notice R)) :
    Agrees (Step.notify a notices) (Step.notify b notices) :=
  ⟨h, rfl, rfl, rfl⟩

theorem ofLocal (h : a.Agrees b) (x : Except NoLocalTime α) :
    Agrees (Step.ofLocal a x) (Step.ofLocal b x) :=
  ⟨h, rfl, rfl, rfl⟩

theorem map {s t : Step R α} (h : Agrees s t) (f : α → β) : Agrees (s.map f) (t.map f) :=
  ⟨h.memory, h.notices, h.records, congrArg (Except.map f) h.result⟩

theorem andThen {s t : Step R α} {f g : α → Memory R → Step R β} (h : Agrees s t)
    (hfg : ∀ x a b, a.Agrees b → Agrees (f x a) (g x b)) :
    Agrees (s.andThen f) (t.andThen g) := by
  cases hs : s.result with
  | error e =>
    have ht : t.result = .error e := h.result.symm.trans hs
    rw [Step.andThen_of_error hs, Step.andThen_of_error ht]
    exact ⟨h.memory, h.notices, h.records, rfl⟩
  | ok x =>
    have ht : t.result = .ok x := h.result.symm.trans hs
    have hx := hfg x s.memory t.memory h.memory
    rw [Step.andThen_of_ok hs, Step.andThen_of_ok ht]
    exact ⟨hx.memory, by rw [h.notices, hx.notices], by rw [h.records, hx.records], hx.result⟩

end Agrees

end Step

end Headway
