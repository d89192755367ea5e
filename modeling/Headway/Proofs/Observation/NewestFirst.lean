import Headway.Observation.EventLog

/-!
# Lists newest first

A list is the newest-first form of the events written when it has the same events, no event stands
before a later one, and events of one time stand in the order in which they were written. There is
exactly one such list (`IsNewestFirst.unique`), and inserting an event gives the one with that event
written last (`IsNewestFirst.insert`).
-/

namespace Headway

/-- A list has the events written, the latest first, and those of one time in the order of
writing. -/
structure IsNewestFirst (events written : List Event) : Prop where
  perm : events.Perm written
  sorted : events.Pairwise fun a b => b.time ≤ a.time
  ties : ∀ t, events.filter (fun e => e.time = t) = written.filter fun e => e.time = t

theorem perm_insertNewestFirst (e : Event) (events : List Event) :
    (insertNewestFirst e events).Perm (e :: events) := by
  induction events with
  | nil => exact List.Perm.refl _
  | cons f rest ih =>
    unfold insertNewestFirst
    split
    · exact (ih.cons f).trans (List.Perm.swap e f rest)
    · exact List.Perm.refl _

/-- Inserting an event leaves those of every time in their order, with the new one last. -/
theorem filter_insertNewestFirst {e : Event} {events : List Event}
    (h : events.Pairwise fun a b => b.time ≤ a.time) (t : Instant) :
    (insertNewestFirst e events).filter (fun x => x.time = t) =
      events.filter (fun x => x.time = t) ++ [e].filter fun x => x.time = t := by
  induction events with
  | nil => simp [insertNewestFirst]
  | cons f rest ih =>
    obtain ⟨hf, hrest⟩ := List.pairwise_cons.mp h
    unfold insertNewestFirst
    split
    · simp only [List.filter_cons, ih hrest]
      split
      · rw [List.cons_append]
      · rfl
    · rename_i hnle
      by_cases ht : e.time = t
      · -- every event behind the place of insertion is earlier, so none has the time of `e`
        have hnone : (f :: rest).filter (fun x => x.time = t) = [] := by
          rw [List.filter_eq_nil_iff]
          intro x hx hxt
          have hxe : x.time = e.time := (of_decide_eq_true hxt).trans ht.symm
          rcases List.mem_cons.mp hx with rfl | hx
          · exact hnle (hxe ▸ Instant.le_refl _)
          · exact hnle (hxe ▸ hf x hx)
        rw [List.filter_cons, hnone]
        simp [ht]
      · simp [ht]

namespace IsNewestFirst

theorem nil : IsNewestFirst [] [] := ⟨List.Perm.refl _, List.Pairwise.nil, fun _ => rfl⟩

theorem insert {events written : List Event} (h : IsNewestFirst events written) (e : Event) :
    IsNewestFirst (insertNewestFirst e events) (written ++ [e]) where
  perm := (perm_insertNewestFirst e events).trans
    ((h.perm.cons e).trans (List.perm_append_singleton e written).symm)
  sorted := pairwise_insertNewestFirst h.sorted
  ties t := by rw [filter_insertNewestFirst h.sorted, h.ties, List.filter_append]

/-- A sorted list is known by its events of each time. -/
theorem eq_of_filter_eq {a b : List Event} (ha : a.Pairwise fun x y => y.time ≤ x.time)
    (hb : b.Pairwise fun x y => y.time ≤ x.time)
    (h : ∀ t, a.filter (fun e => e.time = t) = b.filter fun e => e.time = t) : a = b := by
  induction a generalizing b with
  | nil =>
    cases b with
    | nil => rfl
    | cons y rest =>
      have hy := h y.time
      simp at hy
  | cons x as ih =>
    cases b with
    | nil =>
      have hx := h x.time
      simp at hx
    | cons y bs =>
      obtain ⟨hx, has⟩ := List.pairwise_cons.mp ha
      obtain ⟨hy, hbs⟩ := List.pairwise_cons.mp hb
      have hmem {u : Event} {us vs : List Event}
          (huv : us.filter (fun e => e.time = u.time) = vs.filter fun e => e.time = u.time)
          (hu : u ∈ us) : u ∈ vs := by
        have hin : u ∈ us.filter fun e => e.time = u.time := by simp [hu]
        rw [huv] at hin
        exact (List.mem_filter.mp hin).1
      have hxy : x.time ≤ y.time := by
        rcases List.mem_cons.mp (hmem (h x.time) List.mem_cons_self) with heq | hin
        · exact heq ▸ Instant.le_refl _
        · exact hy x hin
      have hyx : y.time ≤ x.time := by
        rcases List.mem_cons.mp (hmem (h y.time).symm List.mem_cons_self) with heq | hin
        · exact heq ▸ Instant.le_refl _
        · exact hx y hin
      have htime : y.time = x.time := Instant.le_antisymm hyx hxy
      have hhead := h x.time
      simp only [List.filter_cons, htime, decide_true, ↓reduceIte, List.cons.injEq] at hhead
      obtain ⟨rfl, -⟩ := hhead
      have htails : as = bs := by
        refine ih has hbs fun t => ?_
        have ht := h t
        rw [List.filter_cons, List.filter_cons] at ht
        split at ht
        · exact (List.cons.inj ht).2
        · exact ht
      rw [htails]

/-- The events written have one newest-first form. -/
theorem unique {a b written : List Event} (ha : IsNewestFirst a written)
    (hb : IsNewestFirst b written) : a = b :=
  eq_of_filter_eq ha.sorted hb.sorted fun t => (ha.ties t).trans (hb.ties t).symm

end IsNewestFirst

end Headway
