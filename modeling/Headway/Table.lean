/-!
# Tables with one entry per key

A table is a list of key and value pairs in which no key occurs twice; the invariant is part of the
type, so `size` counts keys. New keys go to the end, and a key that is written again keeps its
place.

The view of a table is `get?`. `get?_put`, `get?_erase` and `get?_retain` say what each operation
does to it, and `mem_keys_iff` relates the list of keys to it.
-/

namespace Headway

universe u v

/-- Finitely many keys with one value each. -/
structure Table (κ : Type u) (α : Type v) where
  entries : List (κ × α)
  nodup : (entries.map Prod.fst).Nodup

namespace Table

variable {κ : Type u} {α : Type v} [DecidableEq κ]

/-- Looks a key up in a list of entries. -/
def find? (k : κ) : List (κ × α) → Option α
  | [] => none
  | e :: rest => if e.1 = k then some e.2 else find? k rest

/-- Replaces the value at `k`, or adds an entry for `k` at the end. -/
def write (k : κ) (a : α) : List (κ × α) → List (κ × α)
  | [] => [(k, a)]
  | e :: rest => if e.1 = k then (k, a) :: rest else e :: write k a rest

theorem find?_write (k k' : κ) (a : α) (es : List (κ × α)) :
    find? k' (write k a es) = if k = k' then some a else find? k' es := by
  induction es with
  | nil => simp [write, find?]
  | cons e rest ih =>
    by_cases h : e.1 = k
    · by_cases h' : k = k'
      · simp [write, find?, h, h']
      · have : ¬ e.1 = k' := fun he => h' (h.symm.trans he)
        simp [write, find?, h, h']
    · by_cases h' : k = k'
      · subst h'
        simp [write, find?, h, ih]
      · simp [write, find?, h, h', ih]

theorem map_fst_write (k : κ) (a : α) (es : List (κ × α)) :
    (write k a es).map Prod.fst =
      if k ∈ es.map Prod.fst then es.map Prod.fst else es.map Prod.fst ++ [k] := by
  induction es with
  | nil => simp [write]
  | cons e rest ih =>
    by_cases h : e.1 = k
    · simp [write, h]
    · have h' : ¬ k = e.1 := fun he => h he.symm
      by_cases hk : k ∈ rest.map Prod.fst
      · simp only [write, h, ↓reduceIte, List.map_cons, ih, hk, List.mem_cons, h', or_true]
      · simp only [write, h, ↓reduceIte, List.map_cons, ih, hk, List.mem_cons, h', or_false,
          List.cons_append]

theorem find?_eq_none_iff {k : κ} {es : List (κ × α)} :
    find? k es = none ↔ k ∉ es.map Prod.fst := by
  induction es with
  | nil => simp [find?]
  | cons e rest ih =>
    by_cases h : e.1 = k
    · simp [find?, h]
    · have h' : ¬ k = e.1 := fun he => h he.symm
      rw [find?, if_neg h, ih, List.map_cons, List.mem_cons, not_or]
      exact ⟨fun hr => ⟨h', hr⟩, fun hr => hr.2⟩

theorem find?_eq_some_iff {k : κ} {a : α} {es : List (κ × α)}
    (hn : (es.map Prod.fst).Nodup) : find? k es = some a ↔ (k, a) ∈ es := by
  induction es with
  | nil => simp [find?]
  | cons e rest ih =>
    rw [List.map_cons, List.nodup_cons] at hn
    obtain ⟨hfresh, hrest⟩ := hn
    by_cases h : e.1 = k
    · have hout : (k, a) ∉ rest := fun hm =>
        hfresh (h ▸ List.mem_map.mpr ⟨(k, a), hm, rfl⟩)
      rw [find?, if_pos h, List.mem_cons]
      constructor
      · intro ha
        exact Or.inl (Prod.ext h.symm (Option.some.inj ha).symm)
      · rintro (he | hm)
        · rw [← he]
        · exact absurd hm hout
    · rw [find?, if_neg h, ih hrest, List.mem_cons]
      constructor
      · exact Or.inr
      · rintro (he | hm)
        · exact absurd (congrArg Prod.fst he).symm h
        · exact hm

/-- The table without entries. -/
def empty : Table κ α := ⟨[], List.nodup_nil⟩

instance : Inhabited (Table κ α) := ⟨empty⟩

/-- The value at a key, if there is one. -/
def get? (t : Table κ α) (k : κ) : Option α := find? k t.entries

/-- Writes the value at a key. -/
def put (t : Table κ α) (k : κ) (a : α) : Table κ α where
  entries := write k a t.entries
  nodup := by
    rw [map_fst_write]
    split
    · exact t.nodup
    · rename_i hk
      refine List.nodup_append.mpr ⟨t.nodup, by simp, ?_⟩
      intro x hx y hy
      rw [List.mem_singleton] at hy
      exact fun he => hk (hy ▸ he ▸ hx)

/-- Keeps the entries that satisfy a test. -/
def retain (t : Table κ α) (keep : κ → α → Bool) : Table κ α where
  entries := t.entries.filter fun e => keep e.1 e.2
  nodup := t.nodup.sublist (List.filter_sublist.map Prod.fst)

/-- Removes the entry of a key. -/
def erase (t : Table κ α) (k : κ) : Table κ α := t.retain fun k' _ => k' != k

/-- Changes the value at a key, or starts from none. -/
def alter (t : Table κ α) (k : κ) (f : Option α → α) : Table κ α := t.put k (f (t.get? k))

/-- The keys, in the order in which they were first written. -/
def keys (t : Table κ α) : List κ := t.entries.map Prod.fst

/-- The values, in the order of `keys`. -/
def values (t : Table κ α) : List α := t.entries.map Prod.snd

/-- The number of keys. -/
def size (t : Table κ α) : Nat := t.entries.length

/-- Has no entries. -/
def isEmpty (t : Table κ α) : Bool := t.entries.isEmpty

/-- Reads a list of entries, of which the last for each key counts. -/
def ofList (es : List (κ × α)) : Table κ α := es.foldl (fun t e => t.put e.1 e.2) empty

/-! ## Laws of the view -/

@[simp] theorem get?_empty (k : κ) : (empty : Table κ α).get? k = none := rfl

theorem get?_put (t : Table κ α) (k k' : κ) (a : α) :
    (t.put k a).get? k' = if k = k' then some a else t.get? k' :=
  find?_write k k' a t.entries

@[simp] theorem get?_put_self (t : Table κ α) (k : κ) (a : α) : (t.put k a).get? k = some a := by
  simp [get?_put]

theorem get?_put_of_ne (t : Table κ α) {k k' : κ} (a : α) (h : k ≠ k') :
    (t.put k a).get? k' = t.get? k' := by
  simp [get?_put, h]

theorem get?_eq_some_iff (t : Table κ α) {k : κ} {a : α} :
    t.get? k = some a ↔ (k, a) ∈ t.entries :=
  find?_eq_some_iff t.nodup

theorem get?_eq_none_iff (t : Table κ α) {k : κ} : t.get? k = none ↔ k ∉ t.keys :=
  find?_eq_none_iff

theorem mem_keys_iff (t : Table κ α) {k : κ} : k ∈ t.keys ↔ ∃ a, t.get? k = some a := by
  constructor
  · intro h
    cases hk : t.get? k with
    | none => exact absurd h (t.get?_eq_none_iff.mp hk)
    | some a => exact ⟨a, rfl⟩
  · rintro ⟨a, ha⟩
    exact List.mem_map.mpr ⟨(k, a), t.get?_eq_some_iff.mp ha, rfl⟩

theorem get?_retain (t : Table κ α) (keep : κ → α → Bool) (k : κ) :
    (t.retain keep).get? k = (t.get? k).filter (keep k) := by
  cases hk : t.get? k with
  | none =>
    rw [Option.filter_none]
    rw [get?_eq_none_iff]
    intro hm
    obtain ⟨a, ha⟩ := (t.retain keep).mem_keys_iff.mp hm
    have hin := (t.retain keep).get?_eq_some_iff.mp ha
    rw [t.get?_eq_some_iff.mpr (List.mem_filter.mp hin).1] at hk
    cases hk
  | some a =>
    have hin := t.get?_eq_some_iff.mp hk
    by_cases hp : keep k a = true
    · rw [Option.filter_some, if_pos hp, get?_eq_some_iff]
      exact List.mem_filter.mpr ⟨hin, hp⟩
    · rw [Option.filter_some, if_neg hp, get?_eq_none_iff]
      intro hm
      obtain ⟨b, hb⟩ := (t.retain keep).mem_keys_iff.mp hm
      have hkeep := List.mem_filter.mp ((t.retain keep).get?_eq_some_iff.mp hb)
      rw [t.get?_eq_some_iff.mpr hkeep.1, Option.some.injEq] at hk
      exact hp (hk ▸ hkeep.2)

theorem get?_erase (t : Table κ α) (k k' : κ) :
    (t.erase k).get? k' = if k = k' then none else t.get? k' := by
  rw [erase, get?_retain]
  by_cases h : k = k'
  · subst h
    cases t.get? k <;> simp [Option.filter]
  · have h' : ¬ k' = k := fun he => h he.symm
    cases t.get? k' <;> simp [Option.filter, h, h']

end Table

end Headway
