import Headway.Proofs.Dwell.Bounds
import Headway.Proofs.Mean.Bounds
import Headway.Proofs.Service.Postconditions
import Headway.Proofs.Service.Recording

/-!
# What a memory holds

In exact arithmetic every mean that a memory holds lies within the bounds on admitted samples, no
filter error is negative, and the dwell models rest on admitted dwell times (`Memory.Within`).
A fresh memory is so, and recording an event keeps it so: what goes into the means and the models
has been judged before.
-/

namespace Headway

/-! ## Filter errors -/

/-- No error is negative. -/
def FilterErrors.Nonneg (errors : FilterErrors ℝ) : Prop :=
  ∀ k e, Table.get? errors k = some e → 0 ≤ e.error

theorem FilterErrors.Nonneg.write {errors : FilterErrors ℝ} (h : errors.Nonneg) (k : PathKey)
    {error : ℝ} (herror : 0 ≤ error) : (errors.write k error).Nonneg := by
  intro k' e he
  rw [FilterErrors.write, Table.alter, Table.get?_put] at he
  split at he
  · cases hk : Table.get? errors k with
    | none =>
      rw [hk] at he
      cases he
      exact herror
    | some old =>
      rw [hk] at he
      simp only [FilterErrors.updated, Option.some.injEq] at he
      split at he
      · rw [← he]
        exact h k old hk
      · rw [← he]
        exact herror
  · exact h k' e he

/-! ## Samples -/

theorem FilterSettings.completion_eq_sample {f : FilterSettings} {e : Event}
    {history : List Event} {millis : Int} (h : f.completion e history = .sample millis) :
    millis ∈ Set.Icc (f.least e.completes) (f.greatest e.completes) := by
  unfold FilterSettings.completion at h
  split at h
  · cases h
  · split at h
    · cases h
    · rename_i hadmitted
      cases h
      exact f.admitted_mem_Icc hadmitted

theorem Service.completionOf_eq_sample {R : Type} {svc : Service R} {m : Memory R} {e : Event}
    {run : Option TripKey} {millis : Int} (h : svc.completionOf m e run = .sample millis) :
    millis ∈ Set.Icc (svc.settings.filters.least e.completes)
      (svc.settings.filters.greatest e.completes) := by
  unfold Service.completionOf at h
  split at h
  · exact FilterSettings.completion_eq_sample h
  · cases h

theorem KeySpace.leg_of_key {space : KeySpace} {clock : ServiceClock} {tripId : String}
    {index : Nat} {leg : Leg} {t : Instant} {k : SegmentKey}
    (h : space.key clock tripId index leg t = .ok k) : k.leg = leg := by
  cases space with
  | schedule =>
    cases h
    rfl
  | frequency =>
    rw [KeySpace.key] at h
    cases hb : clock.bucket t with
    | error _ =>
      rw [hb] at h
      cases h
    | ok b =>
      rw [hb] at h
      cases h
      rfl

/-! ## The invariant -/

/-- Every mean lies within the bounds on admitted samples of its leg. -/
abbrev MeanStore.Admitted (f : FilterSettings) (s : MeanStore ℝ) : Prop :=
  s.Within (fun leg => f.least leg) fun leg => f.greatest leg

namespace Memory

/-- Means and dwell models rest on admitted samples, and no filter error is negative. -/
structure Within (s : Settings ℝ) (m : Memory ℝ) : Prop where
  scheduleMeans : m.scheduleMeans.store.Admitted s.filters
  frequencyMeans : m.frequencyMeans.store.Admitted s.filters
  filterErrors : m.filterErrors.Nonneg
  dwellModels : m.dwellModels.Within s.dwell (s.filters.least .dwell) (s.filters.greatest .dwell)

theorem within_new (s : Settings ℝ) : (Memory.new s).Within s where
  scheduleMeans := MeanStore.within_new _
  frequencyMeans := MeanStore.within_new _
  filterErrors := by
    intro k e he
    cases he
  dwellModels := by
    intro k m hm
    cases hm

namespace Within

variable {s : Settings ℝ} {m : Memory ℝ}

theorem means (h : m.Within s) (byFrequency : Bool) :
    (m.means byFrequency).store.Admitted s.filters := by
  cases byFrequency with
  | false => exact h.scheduleMeans
  | true => exact h.frequencyMeans

theorem withMeans (h : m.Within s) (byFrequency : Bool) {x : SegmentMeans ℝ}
    (hx : x.store.Admitted s.filters) :
    (m.withMeans byFrequency x).Within s := by
  cases byFrequency with
  | false => exact { h with scheduleMeans := hx }
  | true => exact { h with frequencyMeans := hx }

theorem evict (h : m.Within s) : m.evict.Within s :=
  { h with
    scheduleMeans := h.scheduleMeans.evict
    frequencyMeans := h.frequencyMeans.evict }

theorem takeSample (h : m.Within s) (today : Day) (byFrequency : Bool) {key : SegmentKey}
    {millis : Int} (day : Day)
    (hmillis : millis ∈ Set.Icc (s.filters.least key.leg) (s.filters.greatest key.leg)) :
    (Service.takeSample m today byFrequency key millis day).1.Within s := by
  apply h.withMeans
  apply (h.means byFrequency).update
  exact ⟨Int.cast_le.mpr hmillis.1, Int.cast_le.mpr hmillis.2⟩

end Within

end Memory

/-! ## Recording -/

namespace Service

variable (svc : Service ℝ) {m : Memory ℝ}

theorem fileAtStop_keeps (h : m.Within svc.settings) (now : Instant) (e : Event) :
    (svc.fileAtStop now e m).Keeps (Memory.Within svc.settings) fun _ => True := by
  rw [fileAtStop_eq]
  apply (Step.Keeps.ofLocal_any h _).andThen
  intro day m h _
  exact .done { h with } trivial

theorem fileInTrip_keeps (h : m.Within svc.settings) (now : Instant) (trip : Trip) (e : Event) :
    (svc.fileInTrip now trip e m).Keeps (Memory.Within svc.settings) fun _ => True := by
  rw [fileInTrip_eq]
  apply (Step.Keeps.ofLocal_any h _).andThen
  intro known m h _
  cases known with
  | none => exact ⟨h, fun _ _ => trivial⟩
  | some start =>
    apply (Step.Keeps.ofLocal_any h _).andThen
    intro day m h _
    exact .done { h with } trivial

theorem takeMean_keeps (h : m.Within svc.settings) (now : Instant) (trip : Trip) (e : Event)
    (run : Option TripKey) :
    (svc.takeMean now trip e run m).Keeps (Memory.Within svc.settings) fun _ => True := by
  rw [takeMean_eq]
  apply (Step.Keeps.notify h _).andThen
  intro _ m h _
  cases hsample : svc.completionOf _ e run with
  | nothing => exact .done h trivial
  | rejected reason => exact .done h trivial
  | sample millis =>
    -- the sample was judged for the leg that the event completes, and its key names that leg
    have hmillis := completionOf_eq_sample hsample
    apply (Step.Keeps.ofLocal (P := fun k => k.leg = e.completes) h
      fun _ hk => KeySpace.leg_of_key hk).andThen
    intro key m h hkey
    apply (Step.Keeps.ofLocal_any h _).andThen
    intro day m h _
    rw [← hkey] at hmillis
    exact .done (h.takeSample now.day trip.byFrequency day hmillis) trivial

theorem takeDwell_keeps (h : m.Within svc.settings) (e : Event) :
    (svc.takeDwell e m).Keeps (Memory.Within svc.settings) fun _ => True := by
  unfold takeDwell
  apply (Step.Keeps.ofLocal h fun lesson hlesson => hlesson).andThen
  intro lesson m h hlesson
  apply Step.Keeps.notify
  refine { h with dwellModels := h.dwellModels.learn e ?_ }
  rintro dwellMs headwayMs rfl
  exact DwellTraining.lessonOf_eq_sample hlesson

theorem record_keeps (h : m.Within svc.settings) (now : Instant) (e : Event) :
    (svc.record now e m).Keeps (Memory.Within svc.settings) fun _ => True := by
  unfold record
  split
  · exact ⟨h, fun _ _ => trivial⟩
  · apply (svc.fileAtStop_keeps h now e).andThen
    intro stopKey m h _
    cases svc.trip? e.tripId with
    | none => exact (Step.Keeps.notify h _).map fun _ _ => trivial
    | some trip =>
      apply (svc.fileInTrip_keeps h now trip e).andThen
      intro tripKey m h _
      apply (svc.takeMean_keeps h now trip e tripKey).andThen
      intro updated m h _
      apply (svc.takeDwell_keeps h e).andThen
      intro _ m h _
      exact .done { h with } trivial

theorem hold_keeps (h : m.Within svc.settings) (e : Event)
    (predictions : List ArrivalPrediction) :
    (svc.hold e predictions m).Keeps (Memory.Within svc.settings) fun _ => True := by
  unfold hold
  apply (Step.Keeps.ofLocal_any h _).andThen
  intro hold m h _
  cases hold with
  | none => exact .done h trivial
  | some held => exact .done { h with } trivial

end Service

end Headway
