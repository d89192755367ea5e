import Headway.Notice

/-!
# Attempts

An attempt at an estimate ends in one of three ways: with a value, without data, or with a failure.
On the way it may give notices. Attempts are combined in sequence, and the first that has no value
ends the combination; its notices stand.
-/

namespace Headway

/-- The notices given and the way an attempt ended; `none` means without data. -/
structure Attempt (R α : Type) where
  notices : List (Notice R)
  outcome : Except (Failure R) (Option α)

namespace Attempt

variable {R α β : Type}

/-- Ends with a value. -/
def value (a : α) : Attempt R α := ⟨[], .ok (some a)⟩

/-- Ends without data. -/
def noData : Attempt R α := ⟨[], .ok none⟩

/-- Goes on after a value. -/
def andThen (x : Attempt R α) (f : α → Attempt R β) : Attempt R β :=
  match x.outcome with
  | .ok (some a) => ⟨x.notices ++ (f a).notices, (f a).outcome⟩
  | .ok none => ⟨x.notices, .ok none⟩
  | .error e => ⟨x.notices, .error e⟩

instance : Monad (Attempt R) where
  pure := value
  bind := andThen

/-- Gives notices. -/
def notify (notices : List (Notice R)) : Attempt R Unit := ⟨notices, .ok (some ())⟩

/-- Takes a value that may be missing. -/
def ofOption (x : Option α) : Attempt R α := ⟨[], .ok x⟩

/-- Takes a value that depends on local time. -/
def ofLocal (x : Except NoLocalTime α) : Attempt R α := ⟨[], orNoLocalTime (x.map some)⟩

/-- Goes on only if a condition holds. -/
def guard (condition : Bool) : Attempt R Unit := if condition then value () else noData

end Attempt

end Headway
