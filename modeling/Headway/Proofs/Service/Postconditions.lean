import Headway.Forecast.Attempt
import Headway.Service.Step

/-!
# Postconditions

What holds of every value that an attempt ends with (`Attempt.Gives`), and of every answer of a step
that keeps an invariant of the memory, also when it fails (`Step.Keeps`). Of a step that does not
fail (`Step.Completes`) the memory and the answer may be known as well (`Step.Yields`). These go
through the parts of a sequence one by one.
-/

namespace Headway

variable {R α β : Type}

namespace Attempt

variable {P : α → Prop} {Q : β → Prop}

/-- Every value of an attempt satisfies `P`. -/
def Gives (P : α → Prop) (x : Attempt R α) : Prop := ∀ a, x.outcome = .ok (some a) → P a

theorem gives_value {a : α} (h : P a) : Gives P (value a : Attempt R α) := by
  intro b hb
  cases hb
  exact h

theorem gives_noData : Gives P (noData : Attempt R α) := by
  intro a ha
  cases ha

theorem gives_ofOption {x : Option α} (h : ∀ a, x = some a → P a) :
    Gives P (ofOption x : Attempt R α) := by
  intro a ha
  exact h a (Except.ok.inj ha)

theorem gives_ofLocal {x : Except NoLocalTime α} (h : ∀ a, x = .ok a → P a) :
    Gives P (ofLocal x : Attempt R α) := by
  intro a ha
  cases x with
  | error _ => cases ha
  | ok b =>
    cases ha
    exact h a rfl

theorem gives_guard (condition : Bool) :
    Gives (fun _ => condition = true) (guard condition : Attempt R Unit) := by
  intro _ h
  cases condition with
  | false => cases h
  | true => rfl

theorem gives_bind {x : Attempt R α} {f : α → Attempt R β} (hx : Gives P x)
    (hf : ∀ a, P a → Gives Q (f a)) : Gives Q (x >>= f) := by
  intro b hb
  change (x.andThen f).outcome = _ at hb
  unfold andThen at hb
  cases h : x.outcome with
  | error e =>
    rw [h] at hb
    cases hb
  | ok found =>
    cases found with
    | none =>
      rw [h] at hb
      cases hb
    | some a =>
      rw [h] at hb
      exact hf a (hx a h) b hb

/-- A sequence that ends with a value has one from its first part. -/
theorem exists_of_bind {x : Attempt R α} {f : α → Attempt R β} {b : β}
    (h : (x >>= f).outcome = .ok (some b)) :
    ∃ a, x.outcome = .ok (some a) ∧ (f a).outcome = .ok (some b) := by
  change (x.andThen f).outcome = _ at h
  unfold andThen at h
  split at h
  · rename_i a ha
    exact ⟨a, ha, h⟩
  · cases h
  · cases h

/-- Nothing needs to be known of the first part when the second is as wanted after any value. -/
theorem gives_bind_of_forall {x : Attempt R α} {f : α → Attempt R β} (hf : ∀ a, Gives Q (f a)) :
    Gives Q (x >>= f) :=
  gives_bind (P := fun _ => True) (fun _ _ => trivial) fun a _ => hf a

end Attempt

namespace Step

variable {I : Memory R → Prop} {P : α → Prop} {Q : β → Prop}

/-- A step leaves a memory that satisfies `I`, and its answer satisfies `P`. -/
structure Keeps (I : Memory R → Prop) (P : α → Prop) (s : Step R α) : Prop where
  memory : I s.memory
  result : ∀ a, s.result = .ok a → P a

namespace Keeps

theorem done {m : Memory R} (hm : I m) {a : α} (ha : P a) : Keeps I P (Step.done m a) := by
  refine ⟨hm, ?_⟩
  intro b hb
  cases hb
  exact ha

theorem fail {m : Memory R} (hm : I m) (f : Failure R) : Keeps I P (Step.fail m f) := by
  refine ⟨hm, ?_⟩
  intro b hb
  cases hb

theorem notify {m : Memory R} (hm : I m) (notices : List (Notice R)) :
    Keeps I (fun _ => True) (Step.notify m notices) := ⟨hm, fun _ _ => trivial⟩

theorem ofLocal {m : Memory R} (hm : I m) {x : Except NoLocalTime α} (hx : ∀ a, x = .ok a → P a) :
    Keeps I P (Step.ofLocal m x) := by
  refine ⟨hm, ?_⟩
  intro a ha
  cases x with
  | error _ => cases ha
  | ok b =>
    cases ha
    exact hx a rfl

theorem ofLocal_any {m : Memory R} (hm : I m) (x : Except NoLocalTime α) :
    Keeps I (fun _ => True) (Step.ofLocal m x) := ofLocal hm fun _ _ => trivial

theorem map {s : Step R α} (hs : Keeps I P s) {f : α → β} (hf : ∀ a, P a → Q (f a)) :
    Keeps I Q (s.map f) := by
  refine ⟨hs.memory, ?_⟩
  intro b hb
  change s.result.map f = _ at hb
  cases h : s.result with
  | error e =>
    rw [h] at hb
    cases hb
  | ok a =>
    rw [h] at hb
    cases hb
    exact hf a (hs.result a h)

theorem andThen {s : Step R α} {f : α → Memory R → Step R β} (hs : Keeps I P s)
    (hf : ∀ a m, I m → P a → Keeps I Q (f a m)) : Keeps I Q (s.andThen f) := by
  cases h : s.result with
  | error e =>
    rw [Step.andThen_of_error h]
    refine ⟨hs.memory, ?_⟩
    intro b hb
    cases hb
  | ok a =>
    rw [Step.andThen_of_ok h]
    have ha := hf a s.memory hs.memory (hs.result a h)
    exact ⟨ha.memory, ha.result⟩

end Keeps

/-- The records of a sequence are those of its parts. -/
theorem mem_records_andThen {s : Step R α} {f : α → Memory R → Step R β}
    {record : PredictionRecord} (h : record ∈ (s.andThen f).records) :
    record ∈ s.records ∨ ∃ a m, record ∈ (f a m).records := by
  cases hs : s.result with
  | error e =>
    rw [Step.andThen_of_error hs] at h
    exact Or.inl h
  | ok a =>
    rw [Step.andThen_of_ok hs] at h
    exact (List.mem_append.mp h).imp id fun hf => ⟨a, s.memory, hf⟩

/-- A step has an answer, and leaves a memory that satisfies `I`. -/
structure Completes (I : Memory R → Prop) (s : Step R α) : Prop where
  memory : I s.memory
  result : ∃ a, s.result = .ok a

/-- A step leaves a memory and has an answer. -/
structure Yields (s : Step R α) (m : Memory R) (a : α) : Prop where
  memory : s.memory = m
  result : s.result = .ok a

namespace Yields

variable {m m' : Memory R} {a : α} {b : β}

theorem done (m : Memory R) (a : α) : Yields (Step.done m a) m a := ⟨rfl, rfl⟩

theorem notify (m : Memory R) (notices : List (Notice R)) : Yields (Step.notify m notices) m () :=
  ⟨rfl, rfl⟩

theorem ofLocal (m : Memory R) {x : Except NoLocalTime α} (hx : x = .ok a) :
    Yields (Step.ofLocal m x) m a := by
  subst hx
  exact ⟨rfl, rfl⟩

theorem andThen {s : Step R α} {f : α → Memory R → Step R β} (hs : Yields s m a)
    (hf : Yields (f a m) m' b) : Yields (s.andThen f) m' b := by
  obtain ⟨rfl, ha⟩ := hs
  rw [Step.andThen_of_ok ha]
  exact ⟨hf.memory, hf.result⟩

theorem completes {s : Step R α} (hs : Yields s m a) (hm : I m) : Completes I s := by
  obtain ⟨rfl, ha⟩ := hs
  exact ⟨hm, a, ha⟩

end Yields

end Step

end Headway
