import Headway.Forecast.Estimate
import Headway.Service.Memory

/-!
# Steps of a service

One operation of a service: the memory after it, the notices and prediction records that it gave,
and its answer. A step that fails keeps what was done before the failure.
-/

namespace Headway

/-- What an operation did, and what it answered. -/
structure Step (R α : Type) where
  memory : Memory R
  notices : List (Notice R)
  records : List PredictionRecord
  result : Except (Failure R) α

namespace Step

variable {R α β : Type}

/-- Answers without doing anything. -/
def done (memory : Memory R) (a : α) : Step R α := ⟨memory, [], [], .ok a⟩

/-- Fails without doing anything. -/
def fail (memory : Memory R) (f : Failure R) : Step R α := ⟨memory, [], [], .error f⟩

/-- Goes on after an answer; a failure ends the operation. -/
def andThen (s : Step R α) (f : α → Memory R → Step R β) : Step R β :=
  match s.result with
  | .ok a =>
    let t := f a s.memory
    ⟨t.memory, s.notices ++ t.notices, s.records ++ t.records, t.result⟩
  | .error e => ⟨s.memory, s.notices, s.records, .error e⟩

/-- Changes the answer. -/
def map (f : α → β) (s : Step R α) : Step R β :=
  ⟨s.memory, s.notices, s.records, s.result.map f⟩

/-- Gives notices. -/
def notify (memory : Memory R) (notices : List (Notice R)) : Step R Unit :=
  ⟨memory, notices, [], .ok ()⟩

/-- Takes a value that depends on local time. -/
def ofLocal (memory : Memory R) (x : Except NoLocalTime α) : Step R α :=
  ⟨memory, [], [], orNoLocalTime x⟩

theorem andThen_of_ok {s : Step R α} {a : α} (h : s.result = .ok a)
    (f : α → Memory R → Step R β) :
    s.andThen f =
      ⟨(f a s.memory).memory, s.notices ++ (f a s.memory).notices,
        s.records ++ (f a s.memory).records, (f a s.memory).result⟩ := by
  rw [andThen, h]

theorem andThen_of_error {s : Step R α} {e : Failure R} (h : s.result = .error e)
    (f : α → Memory R → Step R β) :
    s.andThen f = ⟨s.memory, s.notices, s.records, .error e⟩ := by
  rw [andThen, h]

theorem andThen_result (s : Step R α) (f : α → Memory R → Step R β) :
    (s.andThen f).result = s.result.bind fun a => (f a s.memory).result := by
  cases h : s.result with
  | ok a => rw [andThen_of_ok h, Except.bind]
  | error e => rw [andThen_of_error h, Except.bind]

@[simp] theorem andThen_done (memory : Memory R) (a : α) (f : α → Memory R → Step R β) :
    (done memory a).andThen f = f a memory := by
  simp [andThen, done]

@[simp] theorem andThen_fail (memory : Memory R) (e : Failure R) (f : α → Memory R → Step R β) :
    (fail memory e).andThen f = fail memory e := rfl

end Step

end Headway
