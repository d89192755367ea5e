import Headway.Proofs.Observation.NewestFirst
import Headway.Proofs.Retention

/-!
# What can be read in an event log

A list that can be read after a push could be read before it, because the latest day only moves
forward. So what an event log shows after a push depends on nothing but what it showed before
(`EventLog.get?_push`): a list that is out of reach plays no part any more, whether or not an
eviction has dropped it. Two logs that show the same therefore go on showing the same
(`EventLog.Agrees.push`).
-/

namespace Headway

namespace EventLog

variable {κ : Type} [OnDay κ]

theorem nodup_keys (log : EventLog κ) : log.keys.Nodup := log.lists.nodup.filter _

variable [DecidableEq κ]

@[simp] theorem retention_push (log : EventLog κ) (today : Day) (k : κ) (e : Event) :
    (log.push today k e).retention = log.retention.observe today (OnDay.day k) := rfl

@[simp] theorem get?_new (days : Nat) (k : κ) : (new days : EventLog κ).get? k = none := by
  unfold get?
  split <;> rfl

theorem get?_eq_none_of_not_live {log : EventLog κ} {k : κ}
    (h : log.retention.isLive (OnDay.day k) = false) : log.get? k = none := by
  rw [get?, h]
  rfl

theorem isLive_of_get? {log : EventLog κ} {k : κ} {events : List Event}
    (h : log.get? k = some events) : log.retention.isLive (OnDay.day k) = true := by
  cases hk : log.retention.isLive (OnDay.day k) with
  | true => rfl
  | false =>
    rw [get?_eq_none_of_not_live hk] at h
    cases h

theorem get?_push (log : EventLog κ) (today : Day) (k : κ) (e : Event) (k' : κ) :
    (log.push today k e).get? k' =
      if (log.retention.observe today (OnDay.day k)).isLive (OnDay.day k') then
        if k = k' then some (insertNewestFirst e ((log.get? k').getD [])) else log.get? k'
      else none := by
  by_cases hlive : (log.retention.observe today (OnDay.day k)).isLive (OnDay.day k') = true
  · have hbefore := Retention.isLive_of_isLive_observe hlive
    rw [if_pos hlive, get?, retention_push, if_pos hlive, get?, if_pos hbefore, push, Table.alter,
      Table.get?_put]
    by_cases hk : k = k'
    · rw [if_pos hk, if_pos hk, hk]
    · rw [if_neg hk, if_neg hk]
  · rw [if_neg hlive]
    exact get?_eq_none_of_not_live (by simpa using hlive)

/-- Two logs show the same and will age alike. -/
structure Agrees (a b : EventLog κ) : Prop where
  retention : a.retention = b.retention
  get? : ∀ k, a.get? k = b.get? k

namespace Agrees

theorem refl (a : EventLog κ) : Agrees a a := ⟨rfl, fun _ => rfl⟩

theorem evict_left {a b : EventLog κ} (h : Agrees a b) : Agrees a.evict b :=
  ⟨h.retention, fun k => (get?_evict a k).trans (h.get? k)⟩

theorem push {a b : EventLog κ} (h : Agrees a b) (today : Day) (k : κ) (e : Event) :
    Agrees (a.push today k e) (b.push today k e) where
  retention := by rw [retention_push, retention_push, h.retention]
  get? k' := by rw [get?_push, get?_push, h.retention, h.get?]

theorem mem_keys {a b : EventLog κ} (h : Agrees a b) (k : κ) : k ∈ a.keys ↔ k ∈ b.keys := by
  rw [mem_keys_iff, mem_keys_iff, h.get?]

end Agrees

end EventLog

end Headway
