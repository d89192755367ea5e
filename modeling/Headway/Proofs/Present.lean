import Headway.Proofs.Mean.Restarts
import Headway.Proofs.Observation.Filings

/-!
# The present is kept

What belongs to the present is never lost from a store by what is filed under other days, however
far in the future they are. A store never takes a day for the latest that was more than one day past
the clock's when it was observed. So while the clock does not go back, the latest day is at most
tomorrow, and a day ages out only when it lies more days before tomorrow than are kept.

`EventLog.KeepsPresent` and `MeanStore.KeepsPresent` say so for lists of events and for means, and
hold after any run (`EventLog.Tracks.keepsPresent`, `MeanStore.Tracks.keepsPresent`).
-/

namespace Headway

/-! ## Event logs -/

theorem Filing.observed_eq_observeAll {κ : Type} [OnDay κ] (r : Retention)
    (filings : List (Filing κ)) : observed r filings = r.observeAll (filings.map days) := by
  rw [observed, Retention.observeAll, List.foldl_map]
  rfl

namespace EventLog

variable {κ : Type} [DecidableEq κ] [OnDay κ]

/-- The latest day of a log is the last of those observed that were at most one day past the
clock's. Under every key whose day lies at most as many days before tomorrow as are kept, all that
was ever filed is still there, is read, and stays when the log drops what has expired. -/
structure KeepsPresent (log : EventLog κ) (days : Nat) (filings : List (Filing κ))
    (today : Day) : Prop where
  latest : log.retention.LatestOf (Retention.admitted (filings.map Filing.days))
  lists : ∀ k, today.number + 1 - days ≤ (OnDay.day k).number → Filing.under filings k ≠ [] →
    ∃ events, log.lists.get? k = some events ∧ IsNewestFirst events (Filing.under filings k)
  get? : ∀ k events, today.number + 1 - days ≤ (OnDay.day k).number →
    log.lists.get? k = some events →
      log.get? k = some events ∧ log.evict.lists.get? k = some events

theorem Tracks.keepsPresent {days : Nat} {log : EventLog κ} {filings : List (Filing κ)}
    {today : Day} (h : Tracks days log filings) (hclock : ∀ f ∈ filings, f.today ≤ today) :
    log.KeepsPresent days filings today := by
  have hretention := h.retention_eq
  rw [Filing.observed_eq_observeAll] at hretention
  have hlive (k : κ) (hk : today.number + 1 - days ≤ (OnDay.day k).number) :
      log.retention.isLive (OnDay.day k) = true := by
    rw [hretention]
    apply Retention.isLive_of_present (fun x hx => ?_) hk
    obtain ⟨f, hf, rfl⟩ := List.mem_map.mp hx
    exact hclock f hf
  refine ⟨?_, fun k hk hne => ?_, fun k events hk hevents => ?_⟩
  · rw [hretention]
    exact Retention.latestOf_observeAll days _
  · obtain ⟨events, hevents⟩ := Option.isSome_iff_exists.mp ((h.isSome k (hlive k hk)).mpr hne)
    have hsorted := h.newestFirst k (hlive k hk)
    rw [hevents] at hsorted
    rw [EventLog.get?, if_pos (hlive k hk)] at hevents
    exact ⟨events, hevents, hsorted⟩
  · have hget : log.get? k = some events := by rw [EventLog.get?, if_pos (hlive k hk), hevents]
    refine ⟨hget, ?_⟩
    rw [EventLog.evict, Table.get?_retain, hevents, Option.filter_some, if_pos (hlive k hk)]

end EventLog

/-! ## Means -/

namespace MeanStore

variable {R : Type}

/-- The day that the clock shows and the day of a sample. -/
def Sample.days (w : Sample R) : Day × Day := (w.today, w.day)

theorem observed_reverse_eq_observeAll (days : Nat) (samples : List (Sample R)) :
    observed days samples.reverse = (Retention.new days).observeAll (samples.map Sample.days) := by
  suffices hlog : ∀ log : List (Sample R),
      observed days log = (Retention.new days).observeAll (log.reverse.map Sample.days) by
    rw [hlog, List.reverse_reverse]
  intro log
  induction log with
  | nil => rfl
  | cons w past ih =>
    rw [List.reverse_cons, List.map_append, Retention.observeAll, List.foldl_append, observed, ih]
    rfl

theorem exists_largestDay? {w : Sample R} {log : List (Sample R)} (hw : w ∈ log) :
    ∃ d, largestDay? w.key log = some d ∧ w.day ≤ d := by
  induction log with
  | nil => cases hw
  | cons v past ih =>
    rw [largestDay?]
    rcases List.mem_cons.mp hw with rfl | hpast
    · rw [if_pos rfl]
      refine ⟨_, rfl, ?_⟩
      cases largestDay? w.key past with
      | none => exact Int.le_refl _
      | some d => exact Day.le_latest_right d w.day
    · obtain ⟨d, hd, hle⟩ := ih hpast
      rw [hd]
      split
      · exact ⟨_, rfl, Int.le_trans hle (Day.le_latest_left d v.day)⟩
      · exact ⟨d, rfl, hle⟩

variable [Scalar R]

/-- The latest day of a store is the last of those observed that were at most one day past the
clock's. A segment with a sample of a day that lies at most as many days before tomorrow as are kept
still has its mean. Every mean whose latest day is such a day is read, and stays when the store
drops what has expired. -/
structure KeepsPresent (s : MeanStore R) (days : Nat) (samples : List (Sample R))
    (today : Day) : Prop where
  latest : s.retention.LatestOf (Retention.admitted (samples.map Sample.days))
  entries : ∀ w ∈ samples, today.number + 1 - days ≤ w.day.number →
    ∃ entry, s.entries.get? w.key = some entry ∧ w.day ≤ entry.lastDay ∧
      entry.mean = Mean.ofSamples (sinceRestart days w.key samples.reverse)
  get? : ∀ k entry, today.number + 1 - days ≤ entry.lastDay.number →
    s.entries.get? k = some entry →
      s.get? k = some entry.mean ∧ s.evict.entries.get? k = some entry

theorem Tracks.keepsPresent {days : Nat} {s : MeanStore R} {samples : List (Sample R)}
    {today : Day} (h : Tracks days s samples.reverse) (hclock : ∀ w ∈ samples, w.today ≤ today) :
    s.KeepsPresent days samples today := by
  have hretention := h.retention_eq
  rw [observed_reverse_eq_observeAll] at hretention
  have hlive (day : Day) (hday : today.number + 1 - days ≤ day.number) :
      s.retention.isLive day = true := by
    rw [hretention]
    apply Retention.isLive_of_present (fun x hx => ?_) hday
    obtain ⟨w, hw, rfl⟩ := List.mem_map.mp hx
    exact hclock w hw
  refine ⟨?_, fun w hw hday => ?_, fun k entry hday hentry => ?_⟩
  · rw [hretention]
    exact Retention.latestOf_observeAll days _
  · obtain ⟨d, hlargest, hle⟩ := exists_largestDay? (List.mem_reverse.mpr hw)
    have hkept := h.kept?_eq w.key
    have hd := hlive d (Int.le_trans hday hle)
    rw [h.retention_eq] at hd
    rw [lasting?, hlargest, Option.map_some, Option.filter_some, if_pos hd, kept?,
      Option.filter_eq_some_iff] at hkept
    exact ⟨_, hkept.1, hle, rfl⟩
  · have hkept := hlive entry.lastDay hday
    refine ⟨?_, ?_⟩
    · rw [MeanStore.get?, hentry, Option.filter_some, if_pos hkept, Option.map_some]
    · rw [MeanStore.evict, Table.get?_retain, hentry, Option.filter_some, if_pos hkept]

end MeanStore

end Headway
