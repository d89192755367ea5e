import Headway.Calendar.Instant

/-!
# Choosing and moving instants

The earliest of several instants is one of them that is not after any other, and the latest is one
that is not before any other, in whatever order they come (`Instant.earliest?_eq_some_iff`,
`Instant.latest?_eq_some_iff`).

Outside leap seconds an added number of milliseconds is the one by which the millisecond count grows
and the one that is read back as the distance (`Instant.millis_addMillis?`,
`Instant.millisSince_addMillis?`).
-/

namespace Headway

namespace Instant

/-! ## Order -/

theorem le_of_lt {a b : Instant} (h : a < b) : a ≤ b := by
  rw [lt_def] at h
  rw [le_def]
  omega

theorem le_of_not_lt {a b : Instant} (h : ¬ a < b) : b ≤ a := by
  rw [lt_def] at h
  rw [le_def]
  omega

/-! ## The first of several by an order -/

/-- A choice between two instants is the one that stands first in an order. -/
structure Picks (pick : Instant → Instant → Instant) (before : Instant → Instant → Prop) :
    Prop where
  one : ∀ a b, pick a b = a ∨ pick a b = b
  left : ∀ a b, before (pick a b) a
  right : ∀ a b, before (pick a b) b
  refl : ∀ a, before a a
  trans : ∀ {a b c}, before a b → before b c → before a c
  antisymm : ∀ {a b}, before a b → before b a → a = b

/-- Goes through a list with a choice between two. -/
def pickFrom (pick : Instant → Instant → Instant) (found : Option Instant) (ts : List Instant) :
    Option Instant :=
  ts.foldl (fun found t => match found with | none => some t | some u => some (pick u t)) found

namespace Picks

variable {pick : Instant → Instant → Instant} {before : Instant → Instant → Prop}

theorem exists_pickFrom_some (h : Picks pick before) (u : Instant) (ts : List Instant) :
    ∃ t ∈ u :: ts, (∀ v ∈ u :: ts, before t v) ∧ pickFrom pick (some u) ts = some t := by
  induction ts generalizing u with
  | nil => exact ⟨u, List.mem_singleton_self u, by simpa using h.refl u, rfl⟩
  | cons w rest ih =>
    obtain ⟨t, ht, hbefore, hfold⟩ := ih (pick u w)
    obtain ⟨hpick, hrest⟩ := List.forall_mem_cons.mp hbefore
    refine ⟨t, ?_, ?_, hfold⟩
    · rcases List.mem_cons.mp ht with rfl | hin
      · rcases h.one u w with hu | hw
        · simp [hu]
        · simp [hw]
      · exact List.mem_cons_of_mem u (List.mem_cons_of_mem w hin)
    · refine List.forall_mem_cons.mpr ⟨h.trans hpick (h.left u w), ?_⟩
      exact List.forall_mem_cons.mpr ⟨h.trans hpick (h.right u w), hrest⟩

theorem pickFrom_eq_none_iff (h : Picks pick before) {ts : List Instant} :
    pickFrom pick none ts = none ↔ ts = [] := by
  cases ts with
  | nil => exact ⟨fun _ => rfl, fun _ => rfl⟩
  | cons u rest =>
    obtain ⟨t, -, -, hfold⟩ := h.exists_pickFrom_some u rest
    have hsome : pickFrom pick none (u :: rest) = some t := hfold
    simp [hsome]

theorem pickFrom_eq_some_iff (h : Picks pick before) {ts : List Instant} {t : Instant} :
    pickFrom pick none ts = some t ↔ t ∈ ts ∧ ∀ v ∈ ts, before t v := by
  cases ts with
  | nil => simp [pickFrom]
  | cons u rest =>
    obtain ⟨s, hs, hbefore, hfold⟩ := h.exists_pickFrom_some u rest
    have hsome : pickFrom pick none (u :: rest) = some s := hfold
    rw [hsome, Option.some.injEq]
    constructor
    · rintro rfl
      exact ⟨hs, hbefore⟩
    · rintro ⟨ht, hfirst⟩
      exact h.antisymm (hbefore t ht) (hfirst s hs)

end Picks

/-! ## The earliest and the latest -/

theorem le_of_not_le {a b : Instant} (h : ¬ a ≤ b) : b ≤ a := (le_total a b).resolve_left h

theorem picks_earlier : Picks earlier (· ≤ ·) where
  one a b := by
    unfold earlier
    split
    · exact Or.inl rfl
    · exact Or.inr rfl
  left a b := by
    unfold earlier
    split
    · exact le_refl a
    · rename_i h
      exact le_of_not_le h
  right a b := by
    unfold earlier
    split
    · assumption
    · exact le_refl b
  refl := le_refl
  trans := le_trans
  antisymm := le_antisymm

theorem picks_latest : Picks latest fun a b => b ≤ a where
  one a b := by
    unfold latest
    split
    · exact Or.inr rfl
    · exact Or.inl rfl
  left a b := by
    unfold latest
    split
    · assumption
    · exact le_refl a
  right a b := by
    unfold latest
    split
    · exact le_refl b
    · rename_i h
      exact le_of_not_le h
  refl := le_refl
  trans h h' := le_trans h' h
  antisymm h h' := le_antisymm h' h

theorem earliest?_eq_none_iff {ts : List Instant} : earliest? ts = none ↔ ts = [] :=
  picks_earlier.pickFrom_eq_none_iff

theorem earliest?_eq_some_iff {ts : List Instant} {t : Instant} :
    earliest? ts = some t ↔ t ∈ ts ∧ ∀ u ∈ ts, t ≤ u :=
  picks_earlier.pickFrom_eq_some_iff

theorem latest?_eq_none_iff {ts : List Instant} : latest? ts = none ↔ ts = [] :=
  picks_latest.pickFrom_eq_none_iff

theorem latest?_eq_some_iff {ts : List Instant} {t : Instant} :
    latest? ts = some t ↔ t ∈ ts ∧ ∀ u ∈ ts, u ≤ t :=
  picks_latest.pickFrom_eq_some_iff

/-! ## Moving an instant -/

theorem nano_lt_of_not_isLeap {t : Instant} (h : t.isLeap = false) : t.nano < 1000000000 := by
  simpa [isLeap] using h

theorem millis_addMillis? {t u : Instant} {ms : Int} (h : t.isLeap = false)
    (hu : t.addMillis? ms = some u) : u.millis = t.millis + ms := by
  obtain ⟨hnanos, -⟩ := nanos_addMillis? h hu
  simp only [nanos] at hnanos
  unfold millis
  omega

theorem millisSince_addMillis? {t u : Instant} {ms : Int} (h : t.isLeap = false)
    (hu : t.addMillis? ms = some u) : u.millisSince t = ms := by
  obtain ⟨hnanos, hleap⟩ := nanos_addMillis? h hu
  have hsince : u.nanosSince t = ms * 1000000 := by
    simp only [nanos] at hnanos
    simp only [nanosSince, h, hleap, Bool.false_eq_true, and_false, if_false]
    omega
  rw [millisSince, hsince]
  exact Int.mul_tdiv_cancel ms (by omega)

theorem millisSince_self (t : Instant) : t.millisSince t = 0 := by
  have hsince : t.nanosSince t = 0 := by simp [nanosSince]
  rw [millisSince, hsince]
  rfl

theorem millis_le_millis {a b : Instant} (h : a ≤ b) (ha : a.isLeap = false) :
    a.millis ≤ b.millis := by
  have hnano := nano_lt_of_not_isLeap ha
  rw [le_def] at h
  unfold millis
  omega

end Instant

end Headway
