import SetProtocol.Foundation.Trace

/-!
# Events that keep their distance

Some actions of a transition system are events: each has a key, a time and a period.  The state remembers for
every key the time of the last event.  An event is admitted only when its period has passed since then, and
is remembered from then on.  As a remembered time never falls, any two events of one key are apart by the
period of the later one, no matter what happens in between and whether the clock is monotone.  An action is
either quiet, and the remembered times stay as they are, or an event, whose own time is overwritten.
-/

namespace SetProtocol

structure TimedEvent (κ : Type) where
  key : κ
  time : ℕ
  period : ℕ
deriving DecidableEq

namespace Cooldown

variable {σ α κ : Type} {step : σ → α → Outcome σ}

/-- The events of a trace, oldest first. -/
def events (event : σ → α → Option (TimedEvent κ)) (trace : List (σ × α)) : List (TimedEvent κ) :=
  trace.filterMap fun entry ↦ event entry.1 entry.2

/-- The period of the later event has passed since the earlier one, if both have the same key. -/
def Apart (e e' : TimedEvent κ) : Prop :=
  e.key = e'.key → e.time + e'.period ≤ e'.time

/-- What one action does to the remembered times. -/
structure Remembers (event : σ → α → Option (TimedEvent κ)) (last : σ → κ → ℕ) (s : σ) (a : α) (s' : σ) :
    Prop where
  mono : ∀ k, last s k ≤ last s' k
  admitted : ∀ e, event s a = some e → last s e.key + e.period ≤ e.time ∧ e.time ≤ last s' e.key

variable {event : σ → α → Option (TimedEvent κ)} {last : σ → κ → ℕ} {I : σ → Prop} {A : α → Prop}
  {s s' : σ} {trace : List (σ × α)}

theorem remembers_of_quiet {a : α} (hevent : event s a = none) (hlast : last s' = last s) :
    Remembers event last s a s' := by
  refine ⟨fun k ↦ Nat.le_of_eq (congrFun hlast k).symm, fun e he ↦ ?_⟩
  rw [hevent] at he
  cases he

theorem remembers_of_event [DecidableEq κ] {a : α} {e : TimedEvent κ} (hevent : event s a = some e)
    (hready : last s e.key + e.period ≤ e.time)
    (hlast : last s' = Function.update (last s) e.key e.time) : Remembers event last s a s' := by
  refine ⟨fun k ↦ ?_, fun e' he' ↦ ?_⟩
  · by_cases hk : k = e.key
    · rw [hk, hlast, Function.update_self]
      exact Nat.le_trans (Nat.le_add_right _ _) hready
    · have hkept : last s' k = last s k := by rw [hlast, Function.update_of_ne hk]
      exact Nat.le_of_eq hkept.symm
  · obtain rfl := Option.some.inj (hevent.symm.trans he')
    have hremembered : last s' e.key = e.time := by rw [hlast, Function.update_self]
    exact ⟨hready, Nat.le_of_eq hremembered.symm⟩

/-- The times are read from records, and a record is replaced by one with the same time. -/
theorem comp_update_same {ι : Type} [DecidableEq κ] {time : ι → ℕ} {records : κ → ι} {k : κ} {record : ι}
    (h : time record = time (records k)) : time ∘ Function.update records k record = time ∘ records := by
  rw [Function.comp_update, h]
  exact Function.update_eq_self k (time ∘ records)

/-- A loop of quiet edits. -/
theorem foldl_same {β : Type} {edit : σ → β → σ} (hedit : ∀ s b, last (edit s b) = last s) (bs : List β)
    (s : σ) : last (bs.foldl edit s) = last s := by
  induction bs generalizing s with
  | nil => rfl
  | cons b bs ih => exact (ih (edit s b)).trans (hedit s b)

/-- A loop of quiet edits that may fail. -/
theorem foldlM_same {β : Type} {edit : σ → β → Outcome σ} {bs : List β}
    (hedit : ∀ s b s', edit s b = .ok s' → last s' = last s) (h : bs.foldlM edit s = .ok s') :
    last s' = last s :=
  Outcome.foldlM_invariant (P := fun v ↦ last v = last s)
    (fun v b v' hok hv ↦ (hedit v b v' hok).trans hv) h rfl

/-- Events that lie ahead of a state respect what it remembers.  Only actions that satisfy `A` are
performed. -/
theorem events_apart (h : Trace step s trace s')
    (hstep : ∀ s a s', step s a = .ok s' → A a → I s → I s' ∧ Remembers event last s a s')
    (hactions : ∀ entry ∈ trace, A entry.2) (hs : I s) :
    (events event trace).Pairwise Apart ∧
      ∀ e ∈ events event trace, last s e.key + e.period ≤ e.time := by
  induction h with
  | nil s => simp [events]
  | @cons s t s' a trace hok hrun ih =>
    rw [List.forall_mem_cons] at hactions
    obtain ⟨hIt, hmono, hadmitted⟩ := hstep s a t hok hactions.1 hs
    obtain ⟨hpairwise, hlater⟩ := ih hactions.2 hIt
    have hlater' : ∀ e ∈ events event trace, last s e.key + e.period ≤ e.time := fun e he ↦
      Nat.le_trans (Nat.add_le_add_right (hmono e.key) _) (hlater e he)
    cases hevent : event s a with
    | none =>
      have hevents : events event ((s, a) :: trace) = events event trace := by
        simp [events, hevent]
      rw [hevents]
      exact ⟨hpairwise, hlater'⟩
    | some e =>
      have hevents : events event ((s, a) :: trace) = e :: events event trace := by
        simp [events, hevent]
      obtain ⟨hready, hremembered⟩ := hadmitted e hevent
      rw [hevents, List.pairwise_cons, List.forall_mem_cons]
      refine ⟨⟨?_, hpairwise⟩, hready, hlater'⟩
      intro e' he' hkey
      calc e.time + e'.period ≤ last t e.key + e'.period := Nat.add_le_add_right hremembered _
        _ = last t e'.key + e'.period := by rw [hkey]
        _ ≤ e'.time := hlater e' he'

end Cooldown

end SetProtocol
