import Headway.Mean.Store
import Headway.Proofs.Retention

/-!
# What a store of means keeps

An entry whose latest day is out of reach plays no part any more: a sample for its segment starts a
new mean, and the later of the two days is kept only if the new one is. So it makes no difference
whether such an entry is changed in place or was dropped before (`MeanStore.kept?_update`), and
stores that keep the same entries go on keeping the same ones (`MeanStore.Agrees.update`).

Samples of two segments on one day may be taken in either order (`MeanStore.update_comm`).
-/

namespace Headway

namespace MeanStore

variable {R : Type}

/-- The entry of a segment while its latest day is kept. -/
def kept? (s : MeanStore R) (k : SegmentKey) : Option (MeanEntry R) :=
  (s.entries.get? k).filter fun e => s.retention.isLive e.lastDay

theorem get?_eq (s : MeanStore R) (k : SegmentKey) : s.get? k = (s.kept? k).map MeanEntry.mean :=
  rfl

theorem mem_keys_iff (s : MeanStore R) {k : SegmentKey} :
    k ∈ s.keys ↔ (s.kept? k).isSome = true := by
  rw [Option.isSome_iff_exists]
  simp only [keys, List.mem_map, List.mem_filter, kept?, Option.filter_eq_some_iff,
    Table.get?_eq_some_iff]
  constructor
  · rintro ⟨⟨_, e⟩, he, rfl⟩
    exact ⟨e, he⟩
  · rintro ⟨e, he⟩
    exact ⟨(k, e), he, rfl⟩

theorem nodup_keys (s : MeanStore R) : s.keys.Nodup :=
  s.entries.nodup.sublist (List.filter_sublist.map Prod.fst)

theorem kept?_evict (s : MeanStore R) (k : SegmentKey) : s.evict.kept? k = s.kept? k := by
  simp only [kept?, evict, Table.get?_retain]
  cases s.entries.get? k with
  | none => rfl
  | some e => by_cases h : s.retention.isLive e.lastDay = true <;> simp [Option.filter, h]

/-- What is kept after a day was observed is kept of what was kept before. -/
theorem filter_observe (entry : Option (MeanEntry R)) (r : Retention) (today day : Day) :
    ((entry.filter fun e => r.isLive e.lastDay).filter
        fun e => (r.observe today day).isLive e.lastDay) =
      entry.filter fun e => (r.observe today day).isLive e.lastDay := by
  cases entry with
  | none => rfl
  | some e =>
    by_cases h : (r.observe today day).isLive e.lastDay = true
    · simp [Option.filter, h, Retention.isLive_of_isLive_observe h]
    · by_cases h' : r.isLive e.lastDay = true <;> simp [Option.filter, h, h']

variable [Scalar R]

theorem base_filter (entry : Option (MeanEntry R)) (r : Retention) :
    base (entry.filter fun e => r.isLive e.lastDay) r = base entry r := by
  cases entry with
  | none => rfl
  | some e => by_cases h : r.isLive e.lastDay = true <;> simp [Option.filter, base, h]

/-- An entry that is out of reach leaves no trace in the one that takes its place, unless that is
out of reach as well. -/
theorem filter_updatedEntry (entry : Option (MeanEntry R)) (r : Retention) (x : R) (day : Day) :
    ((some (updatedEntry (entry.filter fun e => r.isLive e.lastDay) r x day)).filter
        fun e => r.isLive e.lastDay) =
      (some (updatedEntry entry r x day)).filter fun e => r.isLive e.lastDay := by
  cases entry with
  | none => rfl
  | some e =>
    cases h : r.isLive e.lastDay with
    | true => simp [Option.filter, h]
    | false =>
      have hgone : (some e).filter (fun e => r.isLive e.lastDay) = none := by
        simp [Option.filter, h]
      have hbase : base (some e) r = base none r := by rw [← base_filter, hgone]
      rw [hgone, updatedEntry, updatedEntry, hbase]
      cases hday : r.isLive day with
      | true =>
        have hlatest : lastDay (some e) day = day := Retention.latest_eq_right h hday
        rw [hlatest]
        rfl
      | false =>
        have hlatest : r.isLive (lastDay (some e) day) = false := by
          rw [lastDay, Retention.isLive_latest, h, hday]
          rfl
        have hnew : r.isLive (lastDay (none : Option (MeanEntry R)) day) = false := hday
        rw [Option.filter_some, Option.filter_some, hlatest, hnew]
        rfl

theorem kept?_update (s : MeanStore R) (today : Day) (k : SegmentKey) (x : R) (day : Day)
    (k' : SegmentKey) :
    (s.update today k x day).1.kept? k' =
      (if k = k' then
        some (updatedEntry (s.kept? k) (s.retention.observe today day) x day)
      else s.kept? k').filter fun e => (s.retention.observe today day).isLive e.lastDay := by
  have hput : (s.update today k x day).1.kept? k' =
      (if k = k' then
        some (updatedEntry (s.entries.get? k) (s.retention.observe today day) x day)
      else s.entries.get? k').filter fun e =>
        (s.retention.observe today day).isLive e.lastDay := by
    rw [kept?, update, Table.get?_put]
  have hkept (j : SegmentKey) :
      ((s.entries.get? j).filter fun e => (s.retention.observe today day).isLive e.lastDay) =
        (s.kept? j).filter fun e => (s.retention.observe today day).isLive e.lastDay :=
    (filter_observe _ s.retention today day).symm
  rw [hput]
  split
  · rw [← filter_updatedEntry, hkept, filter_updatedEntry]
  · rw [hkept]

theorem update_snd (s : MeanStore R) (today : Day) (k : SegmentKey) (x : R) (day : Day) :
    (s.update today k x day).2 = (base (s.kept? k) (s.retention.observe today day)).add x := by
  rw [← base_filter, kept?, filter_observe, base_filter]
  rfl

theorem entries_update_of_ne (s : MeanStore R) (today : Day) {k k' : SegmentKey} (x : R) (day : Day)
    (h : k ≠ k') : (s.update today k x day).1.entries.get? k' = s.entries.get? k' :=
  Table.get?_put_of_ne _ _ h

/-- Two stores keep the same and will age alike. -/
structure Agrees (a b : MeanStore R) : Prop where
  retention : a.retention = b.retention
  kept? : ∀ k, a.kept? k = b.kept? k

namespace Agrees

omit [Scalar R]

theorem refl (a : MeanStore R) : Agrees a a := ⟨rfl, fun _ => rfl⟩

theorem get? {a b : MeanStore R} (h : Agrees a b) (k : SegmentKey) : a.get? k = b.get? k := by
  rw [get?_eq, get?_eq, h.kept?]

theorem mem_keys {a b : MeanStore R} (h : Agrees a b) (k : SegmentKey) :
    k ∈ a.keys ↔ k ∈ b.keys := by
  rw [mem_keys_iff, mem_keys_iff, h.kept?]

theorem evict_left {a b : MeanStore R} (h : Agrees a b) : Agrees a.evict b :=
  ⟨h.retention, fun k => (kept?_evict a k).trans (h.kept? k)⟩

theorem update [Scalar R] {a b : MeanStore R} (h : Agrees a b) (today : Day) (k : SegmentKey)
    (x : R) (day : Day) :
    Agrees (a.update today k x day).1 (b.update today k x day).1 where
  retention := congrArg (fun r => Retention.observe r today day) h.retention
  kept? k' := by rw [kept?_update, kept?_update, h.retention, h.kept?, h.kept?]

theorem update_snd [Scalar R] {a b : MeanStore R} (h : Agrees a b) (today : Day) (k : SegmentKey)
    (x : R) (day : Day) : (a.update today k x day).2 = (b.update today k x day).2 := by
  rw [MeanStore.update_snd, MeanStore.update_snd, h.retention, h.kept?]

end Agrees

/-! ## Samples of different segments -/

/-- Two stores have the same entries, kept or not, and will age alike. -/
structure Same (a b : MeanStore R) : Prop where
  retention : a.retention = b.retention
  entries : ∀ k, a.entries.get? k = b.entries.get? k

omit [Scalar R] in
theorem Same.refl (a : MeanStore R) : Same a a := ⟨rfl, fun _ => rfl⟩

theorem entries_update (s : MeanStore R) (today : Day) (k : SegmentKey) (x : R) (day : Day)
    (k' : SegmentKey) :
    (s.update today k x day).1.entries.get? k' =
      if k = k' then some (updatedEntry (s.entries.get? k) (s.retention.observe today day) x day)
      else s.entries.get? k' :=
  Table.get?_put _ _ _ _

/-- A sample of another segment on the same day does not show in the entry of a segment. -/
theorem updatedEntry_update (s : MeanStore R) (today : Day) {k k' : SegmentKey} (x x' : R)
    (day : Day) (h : k ≠ k') :
    updatedEntry ((s.update today k x day).1.entries.get? k')
        ((s.update today k x day).1.retention.observe today day) x' day =
      updatedEntry (s.entries.get? k') (s.retention.observe today day) x' day := by
  have hretention : (s.update today k x day).1.retention.observe today day =
      s.retention.observe today day := s.retention.observe_self today day
  rw [entries_update_of_ne s today x day h, hretention]

theorem update_comm (s : MeanStore R) (today : Day) {k k' : SegmentKey} (x x' : R) (day : Day)
    (h : k ≠ k') :
    Same ((s.update today k x day).1.update today k' x' day).1
      ((s.update today k' x' day).1.update today k x day).1 where
  retention := rfl
  entries j := by
    rw [entries_update, updatedEntry_update s today x x' day h, entries_update, entries_update,
      updatedEntry_update s today x' x day h.symm, entries_update]
    by_cases hk : k = j
    · rw [if_neg fun hk' => h (hk.trans hk'.symm), if_pos hk, if_pos hk]
    · rw [if_neg hk, if_neg hk]

theorem update_update_snd (s : MeanStore R) (today : Day) {k k' : SegmentKey} (x x' : R) (day : Day)
    (h : k ≠ k') :
    ((s.update today k x day).1.update today k' x' day).2 = (s.update today k' x' day).2 :=
  congrArg MeanEntry.mean (updatedEntry_update s today x x' day h)

end MeanStore

end Headway
