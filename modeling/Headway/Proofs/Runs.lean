/-!
# Runs of a store

A store is written to, read, and told to drop what has expired. A run is any list of such calls.
What the starting state has and every write and eviction keeps is true after every run
(`StoreCall.run_of_steps`), where a property may speak of the state and of all writes so far.
-/

namespace Headway

/-- One call of a store: a write, a read of one key or of all keys, or an eviction. -/
inductive StoreCall (ω κ : Type) where
  | write (w : ω)
  | get (k : κ)
  | keys
  | evict

namespace StoreCall

variable {ω κ σ : Type}

/-- What is written by a list of calls. -/
def writes (calls : List (StoreCall ω κ)) : List ω :=
  calls.filterMap fun
    | write w => some w
    | _ => none

theorem mem_writes {calls : List (StoreCall ω κ)} {w : ω} : w ∈ writes calls ↔ write w ∈ calls := by
  rw [writes, List.mem_filterMap]
  constructor
  · rintro ⟨call, hcall, hw⟩
    cases call with
    | write v => exact Option.some.inj hw ▸ hcall
    | _ => cases hw
  · exact fun hw => ⟨write w, hw, rfl⟩

/-- The state after a call, given how to write and how to evict. -/
def after (put : σ → ω → σ) (drop : σ → σ) (s : σ) : StoreCall ω κ → σ
  | write w => put s w
  | get _ => s
  | keys => s
  | evict => drop s

/-- The state after a list of calls. -/
def run (put : σ → ω → σ) (drop : σ → σ) (s : σ) (calls : List (StoreCall ω κ)) : σ :=
  calls.foldl (after put drop) s

theorem run_append_of_steps {put : σ → ω → σ} {drop : σ → σ} {P : σ → List ω → Prop}
    (hput : ∀ s ws w, P s ws → P (put s w) (ws ++ [w]))
    (hdrop : ∀ s ws, P s ws → P (drop s) ws) {s : σ} {ws : List ω} (h : P s ws)
    (calls : List (StoreCall ω κ)) : P (run put drop s calls) (ws ++ writes calls) := by
  induction calls generalizing s ws with
  | nil => simpa [run, writes] using h
  | cons call rest ih =>
    cases call with
    | write w =>
      have hrest := ih (hput s ws w h)
      rwa [List.append_assoc] at hrest
    | get _ => exact ih h
    | keys => exact ih h
    | evict => exact ih (hdrop s ws h)

/-- What holds at the start, is kept by a write and is kept by an eviction holds after every run. -/
theorem run_of_steps {put : σ → ω → σ} {drop : σ → σ} {s : σ} (P : σ → List ω → Prop)
    (hnew : P s []) (hput : ∀ s ws w, P s ws → P (put s w) (ws ++ [w]))
    (hdrop : ∀ s ws, P s ws → P (drop s) ws) (calls : List (StoreCall ω κ)) :
    P (run put drop s calls) (writes calls) :=
  run_append_of_steps hput hdrop hnew calls

end StoreCall

end Headway
