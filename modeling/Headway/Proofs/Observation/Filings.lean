import Headway.Proofs.Observation.Histories

/-!
# Filings in either order

Filing events under different keys in either order leaves the same lists (`EventLog.fileAll_comm`).
The days for which a log keeps its lists are shared by all keys. But days are observed in any order
and any number of times with the same result, so a list reads the same whether or not other lists
were written before it on the same days (`EventLog.get?_fileAll_fileAll`).
-/

namespace Headway

/-! ## Days -/

namespace Filing

variable {κ : Type} [OnDay κ]

/-- The day that the clock shows and the day under which an event is filed. -/
def days (f : Filing κ) : Day × Day := (f.today, OnDay.day f.key)

theorem observed_cons (r : Retention) (f : Filing κ) (fs : List (Filing κ)) :
    observed r (f :: fs) = observed (r.observe f.today (OnDay.day f.key)) fs := rfl

theorem observe_observed (r : Retention) (fs : List (Filing κ)) (today day : Day) :
    (observed r fs).observe today day = observed (r.observe today day) fs := by
  induction fs generalizing r with
  | nil => rfl
  | cons f rest ih => rw [observed_cons, ih, Retention.observe_comm, ← observed_cons]

theorem observed_comm (r : Retention) (fs gs : List (Filing κ)) :
    observed (observed r fs) gs = observed (observed r gs) fs := by
  induction gs generalizing r with
  | nil => rfl
  | cons g rest ih => rw [observed_cons, observe_observed, ih, ← observed_cons]

theorem observe_observed_of_mem (r : Retention) {fs : List (Filing κ)} {x : Day × Day}
    (hx : x ∈ fs.map days) : (observed r fs).observe x.1 x.2 = observed r fs := by
  induction fs generalizing r with
  | nil => cases hx
  | cons f rest ih =>
    rw [observed_cons]
    rcases List.mem_cons.mp hx with rfl | hx
    · rw [observe_observed]
      exact congrArg (observed · rest) (r.observe_self _ _)
    · exact ih _ hx

/-- Days that are observed again add nothing. -/
theorem observed_observed (r : Retention) {fs gs : List (Filing κ)}
    (h : gs.map days ⊆ fs.map days) : observed (observed r gs) fs = observed r fs := by
  rw [observed_comm]
  -- after `fs`, each day of `gs` is one that was observed before
  induction gs with
  | nil => rfl
  | cons g rest ih =>
    obtain ⟨hg, hrest⟩ := List.cons_subset.mp h
    rw [observed_cons, ← observe_observed, ih hrest]
    exact observe_observed_of_mem r hg

end Filing

/-! ## Lists -/

namespace EventLog

variable {κ : Type} [DecidableEq κ] [OnDay κ]

/-- The list of a key after more events were filed under it. -/
def filedInto (events : Option (List Event)) (more : List Event) : Option (List Event) :=
  more.foldl (fun events e => some (insertNewestFirst e (events.getD []))) events

theorem retention_fileAll (log : EventLog κ) (fs : List (Filing κ)) :
    (log.fileAll fs).retention = Filing.observed log.retention fs := by
  induction fs generalizing log with
  | nil => rfl
  | cons f rest ih => exact ih (log.file f)

theorem get?_lists_fileAll (log : EventLog κ) (fs : List (Filing κ)) (k : κ) :
    (log.fileAll fs).lists.get? k = filedInto (log.lists.get? k) (Filing.under fs k) := by
  induction fs generalizing log with
  | nil => rfl
  | cons f rest ih =>
    have hfile : (log.file f).lists.get? k =
        if f.key = k then some (insertNewestFirst f.event ((log.lists.get? k).getD []))
        else log.lists.get? k := by
      rw [file, push, Table.alter, Table.get?_put]
      by_cases hk : f.key = k
      · rw [if_pos hk, if_pos hk, hk]
      · rw [if_neg hk, if_neg hk]
    have hrest : (log.fileAll (f :: rest)).lists.get? k =
        filedInto ((log.file f).lists.get? k) (Filing.under rest k) := ih (log.file f)
    rw [hrest, hfile, Filing.under_cons]
    by_cases hk : f.key = k
    · simp [hk, filedInto]
    · simp [hk]

/-- Two logs have the same lists, readable or not, and will age alike. -/
structure Same (a b : EventLog κ) : Prop where
  retention : a.retention = b.retention
  lists : ∀ k, a.lists.get? k = b.lists.get? k

theorem fileAll_comm (log : EventLog κ) {fs gs : List (Filing κ)}
    (h : ∀ k, Filing.under fs k = [] ∨ Filing.under gs k = []) :
    Same ((log.fileAll fs).fileAll gs) ((log.fileAll gs).fileAll fs) where
  retention := by
    simp only [retention_fileAll]
    exact Filing.observed_comm _ _ _
  lists k := by
    simp only [get?_lists_fileAll]
    rcases h k with hk | hk
    · rw [hk]
      rfl
    · rw [hk]
      rfl

theorem get?_fileAll_fileAll (log : EventLog κ) {fs gs : List (Filing κ)} {k : κ}
    (hk : Filing.under gs k = []) (hdays : gs.map Filing.days ⊆ fs.map Filing.days) :
    ((log.fileAll gs).fileAll fs).get? k = (log.fileAll fs).get? k := by
  have hlists : ((log.fileAll gs).fileAll fs).lists.get? k = (log.fileAll fs).lists.get? k := by
    simp only [get?_lists_fileAll, hk]
    rfl
  rw [get?, get?, hlists, retention_fileAll, retention_fileAll, retention_fileAll,
    Filing.observed_observed _ hdays]

end EventLog

/-! ## Runs and stops -/

/-- What an event files under its stop. -/
def StopHistory.filingsOf (today : Day) (e : Event) (day : Day) : List (Filing StopKey) :=
  [⟨today, ⟨e.stopId, day⟩, e⟩]

theorem StopHistory.file_eq_fileAll (history : StopHistory) (today : Day) (e : Event) (day : Day) :
    history.file today e day = EventLog.fileAll history (filingsOf today e day) := rfl

theorem StopHistory.under_filingsOf (today : Day) (e : Event) (day : Day) {k : StopKey}
    (h : e.stopId ≠ k.stopId) : Filing.under (filingsOf today e day) k = [] := by
  have hk : (⟨e.stopId, day⟩ : StopKey) ≠ k := fun hk => h (congrArg StopKey.stopId hk)
  simp [filingsOf, Filing.under_cons, hk]

namespace TripHistory

/-- What an event files under its run, if the start of the run is known. -/
def filingsOf (today : Day) (e : Event) (populated : Nat) (day : Day) :
    Option (Option Int) → List (Filing TripKey)
  | some start => filingsBack today e start populated day
  | none => []

theorem under_filingsOf (today : Day) (e : Event) (populated : Nat) (day : Day)
    (start : Option (Option Int)) {k : TripKey} (h : e.tripId ≠ k.tripId) :
    Filing.under (filingsOf today e populated day start) k = [] := by
  cases start with
  | none => rfl
  | some start =>
    rw [filingsOf, under_filingsBack, if_neg]
    exact fun hrun => h hrun.1.1

theorem days_filingsBack (today : Day) (e e' : Event) (start start' : Option Int) (populated : Nat)
    (day : Day) :
    (filingsBack today e start populated day).map Filing.days =
      (filingsBack today e' start' populated day).map Filing.days := by
  -- the days go back one by one, whatever is filed under them
  induction populated generalizing day with
  | zero => rfl
  | succ n ih =>
    rw [filingsBack, filingsBack]
    cases day.addDays? (-1) with
    | none => rfl
    | some earlier =>
      simp only [List.map_cons, ih earlier]
      rfl

/-- An event that is filed under its run observes all the days that others do on its day. -/
theorem days_filingsOf_subset (today : Day) (e e' : Event) (populated : Nat) (day : Day)
    (start : Option Int) (start' : Option (Option Int)) :
    (filingsOf today e' populated day start').map Filing.days ⊆
      (filingsOf today e populated day (some start)).map Filing.days := by
  cases start' with
  | none => exact List.nil_subset _
  | some start' =>
    rw [filingsOf, filingsOf, days_filingsBack today e' e start' start]
    exact List.Subset.refl _

end TripHistory

end Headway
