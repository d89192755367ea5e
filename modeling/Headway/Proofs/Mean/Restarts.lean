import Headway.Proofs.Mean.Exact
import Headway.Proofs.Mean.Store
import Headway.Proofs.Runs

/-!
# Means of the samples since the last restart

A store of means is run through any calls: samples for any segments and days, by a clock that may
show any day, reads, and evictions at any moment. Which mean a segment has in the end depends on
the samples alone (`means_since_restart`). A sample restarts the mean of its segment when it is the
first one, or when the latest day of the samples before it is no longer kept once the day of the
sample has been observed. The mean is that of the samples from the last restart on, and it can be
read as long as the latest day of all samples of the segment, those before the restart included, is
kept.

Samples are listed newest first.
-/

namespace Headway

namespace MeanStore

/-- A sample of a segment on a day, taken in while the clock shows another day. -/
structure Sample (R : Type) where
  today : Day
  key : SegmentKey
  value : R
  day : Day

section
variable {R : Type}

/-- The retention after the days of some samples have been observed. -/
def observed (days : Nat) : List (Sample R) → Retention
  | [] => Retention.new days
  | w :: past => (observed days past).observe w.today w.day

/-- The latest day of the samples of a segment. -/
def largestDay? (k : SegmentKey) : List (Sample R) → Option Day
  | [] => none
  | w :: past =>
    if w.key = k then
      some (match largestDay? k past with | none => w.day | some d => Day.latest d w.day)
    else largestDay? k past

/-- A sample restarts the mean of its segment after others. -/
def restarts (days : Nat) (w : Sample R) (past : List (Sample R)) : Bool :=
  match largestDay? w.key past with
  | none => true
  | some d => !(observed days (w :: past)).isLive d

/-- The samples of a segment from the last restart on, in the order in which they were taken in. -/
def sinceRestart (days : Nat) (k : SegmentKey) : List (Sample R) → List R
  | [] => []
  | w :: past =>
    if w.key = k then
      if restarts days w past then [w.value] else sinceRestart days k past ++ [w.value]
    else sinceRestart days k past

/-- A segment has samples, and the latest of their days is kept. -/
def readable (days : Nat) (k : SegmentKey) (log : List (Sample R)) : Bool :=
  match largestDay? k log with
  | none => false
  | some d => (observed days log).isLive d

end

section
variable {R : Type} [Scalar R]

/-- Takes in a sample. -/
def take (s : MeanStore R) (w : Sample R) : MeanStore R := (s.update w.today w.key w.value w.day).1

/-- The store after a list of calls. -/
def run (days : Nat) (calls : List (StoreCall (Sample R) SegmentKey)) : MeanStore R :=
  StoreCall.run take evict (new days) calls

/-- The entry that a segment has if nothing ever expires but by a restart. -/
def lasting? (days : Nat) (k : SegmentKey) (log : List (Sample R)) : Option (MeanEntry R) :=
  (largestDay? k log).map fun d => ⟨Mean.ofSamples (sinceRestart days k log), d⟩

theorem lasting?_cons_self (days : Nat) (w : Sample R) (past : List (Sample R)) :
    lasting? days w.key (w :: past) =
      some (updatedEntry (lasting? days w.key past) (observed days (w :: past)) w.value w.day) := by
  rw [lasting?, lasting?, largestDay?, sinceRestart, if_pos rfl, if_pos rfl, restarts]
  cases largestDay? w.key past with
  | none => rfl
  | some d =>
    cases h : (observed days (w :: past)).isLive d with
    | true =>
      simp only [updatedEntry, base, lastDay, Option.map_some, h, Bool.not_true,
        Bool.false_eq_true, ↓reduceIte]
      rw [Mean.ofSamples_append]
      rfl
    | false =>
      simp only [updatedEntry, base, lastDay, Option.map_some, h, Bool.not_false, ↓reduceIte,
        Bool.false_eq_true]
      rfl

theorem lasting?_cons_of_ne (days : Nat) {w : Sample R} {k : SegmentKey} (h : w.key ≠ k)
    (past : List (Sample R)) : lasting? days k (w :: past) = lasting? days k past := by
  rw [lasting?, lasting?, largestDay?, sinceRestart, if_neg h, if_neg h]

/-- The invariant of a run: what is kept of a segment is its lasting entry, while the latest day is
within reach. -/
structure Tracks (days : Nat) (s : MeanStore R) (log : List (Sample R)) : Prop where
  retention_eq : s.retention = observed days log
  kept?_eq : ∀ k, s.kept? k =
    (lasting? days k log).filter fun e => (observed days log).isLive e.lastDay

namespace Tracks

variable {days : Nat} {s : MeanStore R} {log : List (Sample R)}

theorem new (days : Nat) : Tracks days (new days : MeanStore R) [] := ⟨rfl, fun _ => rfl⟩

theorem evict (h : Tracks days s log) : Tracks days s.evict log :=
  ⟨h.retention_eq, fun k => (kept?_evict s k).trans (h.kept?_eq k)⟩

theorem take (h : Tracks days s log) (w : Sample R) : Tracks days (s.take w) (w :: log) where
  retention_eq := congrArg (fun r => Retention.observe r w.today w.day) h.retention_eq
  kept?_eq k := by
    rw [MeanStore.take, kept?_update, h.retention_eq, h.kept?_eq, h.kept?_eq, observed]
    by_cases hk : w.key = k
    · subst hk
      rw [if_pos rfl, lasting?_cons_self, ← filter_updatedEntry, filter_observe,
        filter_updatedEntry]
      rfl
    · rw [if_neg hk, filter_observe, lasting?_cons_of_ne days hk]

theorem get?_eq (h : Tracks days s log) (k : SegmentKey) :
    s.get? k =
      if readable days k log then some (Mean.ofSamples (sinceRestart days k log)) else none := by
  rw [MeanStore.get?_eq, h.kept?_eq, lasting?, readable]
  cases largestDay? k log with
  | none => rfl
  | some d =>
    cases hd : (observed days log).isLive d with
    | true => simp [Option.filter, hd]
    | false => simp [Option.filter, hd]

theorem update_snd (h : Tracks days s log) (w : Sample R) :
    (s.update w.today w.key w.value w.day).2 =
      Mean.ofSamples (sinceRestart days w.key (w :: log)) := by
  have hself := lasting?_cons_self days w log
  rw [lasting?, largestDay?, if_pos rfl, Option.map_some, Option.some.injEq] at hself
  rw [MeanStore.update_snd, h.kept?_eq, h.retention_eq, ← base_filter, filter_observe, base_filter]
  exact (congrArg MeanEntry.mean hself).symm

end Tracks

theorem tracks_run (days : Nat) (calls : List (StoreCall (Sample R) SegmentKey)) :
    Tracks days (run days calls) (StoreCall.writes calls).reverse := by
  refine StoreCall.run_of_steps (fun s ws => Tracks days s ws.reverse) (Tracks.new days) ?_
    (fun _ _ h => h.evict) calls
  intro s ws w h
  rw [List.reverse_append]
  exact h.take w

/-- After any run, the mean of a segment is that of its samples since the last restart, and there is
one exactly as long as the latest day of its samples is kept. Every sample answers the mean of the
samples since the last restart, itself included, and changes the entry of no other segment. The mean
of samples has their number as its count, and in exact arithmetic it is their sum over their number,
whatever their order. -/
theorem means_since_restart (days : Nat) (calls : List (StoreCall (Sample R) SegmentKey)) :
    (∀ k, (run days calls).get? k =
      if readable days k (StoreCall.writes calls).reverse then
        some (Mean.ofSamples (sinceRestart days k (StoreCall.writes calls).reverse))
      else none) ∧
    (∀ w : Sample R,
      ((run days calls).update w.today w.key w.value w.day).2 =
        Mean.ofSamples (sinceRestart days w.key (w :: (StoreCall.writes calls).reverse)) ∧
      ∀ k, k = w.key ∨ ((run days calls).update w.today w.key w.value w.day).1.entries.get? k =
        (run days calls).entries.get? k) ∧
    (∀ samples : List R, (Mean.ofSamples samples).count = samples.length) ∧
    (∀ samples : List ℝ, (Mean.ofSamples samples).value = samples.sum / samples.length) ∧
    (∀ samples others : List ℝ, samples.Perm others →
      Mean.ofSamples samples = Mean.ofSamples others) := by
  have htracks := tracks_run days calls
  refine ⟨htracks.get?_eq, fun w => ⟨htracks.update_snd w, fun k => ?_⟩, Mean.count_ofSamples,
    Mean.value_ofSamples, fun _ _ => Mean.ofSamples_perm⟩
  by_cases hk : k = w.key
  · exact Or.inl hk
  · exact Or.inr (entries_update_of_ne _ _ _ _ (Ne.symm hk))

end

end MeanStore

end Headway
