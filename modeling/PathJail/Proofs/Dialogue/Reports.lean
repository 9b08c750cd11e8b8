import PathJail.Dialogue

/-!
# What a dialogue reports

A dialogue leaves events in the log between its calls. A condition on events that holds of a
dialogue, by recursion on its tree, holds of every event of every run: it does not matter what the
host answered before, or whether the interrupt flag was up.

* `Reports`        — a condition on all events of a dialogue.
* `Reports.bind`   — one dialogue after another; there is one rule for each single step beside it.
* `Reports.run`    — the events of a run against a concrete host.
* `run_notes`, `events_notes_bind` — events that are left in a row.
-/

namespace PathJail

variable {α β : Type} {E : Event → Prop}

namespace Dialogue

/-- On every course each event that is left in the log satisfies `E`. -/
def Reports (E : Event → Prop) : Dialogue α → Prop
  | .done _ => True
  | .ask _ next => ∀ reply, (next reply).Reports E
  | .poll next => ∀ raised, (next raised).Reports E
  | .note event next => E event ∧ next.Reports E

/-- What the second dialogue reports may depend on the result of the first, so its part is asked for
every result. -/
theorem Reports.bind {d : Dialogue α} {f : α → Dialogue β} (hFirst : d.Reports E)
    (hSecond : ∀ a, (f a).Reports E) : (d >>= f).Reports E := by
  induction d with
  | done value => exact hSecond value
  | ask call next ih => exact fun reply => ih reply (hFirst reply)
  | poll next ih => exact fun raised => ih raised (hFirst raised)
  | note event next ih => exact ⟨hFirst.1, ih hFirst.2⟩

/-- A list of events is reported as it is. -/
theorem reports_notes {events : List Event} (h : ∀ event ∈ events, E event) :
    (notes events).Reports E := by
  induction events with
  | nil => exact trivial
  | cons event events ih =>
    have hRest : ∀ later ∈ events, E later := fun later hLater =>
      h later (List.mem_cons_of_mem event hLater)
    exact ⟨h event List.mem_cons_self, ih hRest⟩

/-- The events of a run are among those of the dialogue. -/
theorem Reports.run {σ : Type} {d : Dialogue α} (h : d.Reports E) (host : Host σ) (state : σ) :
    ∀ event ∈ (d.run host state).events, E event := by
  induction d generalizing state with
  | done value => exact nofun
  | ask call next ih => exact ih _ (h _) _
  | poll next ih => exact ih _ (h _) _
  | note event next ih =>
    intro later hLater
    rcases List.mem_cons.mp hLater with rfl | hRest
    · exact h.1
    · exact ih h.2 state later hRest

/-- A list of events makes no call and leaves itself in the log. -/
theorem run_notes {σ : Type} (events : List Event) (host : Host σ) (state : σ) :
    (notes events).run host state = ⟨(), [], events, state⟩ := by
  induction events with
  | nil => rfl
  | cons event events ih =>
    rw [show notes (event :: events) = .note event (notes events) from rfl, run, ih]

end Dialogue

-- ---------------------------------------------------------------------------
-- Attempts
-- ---------------------------------------------------------------------------

namespace Attempt

/-- On every course of the attempt each event satisfies `E`. -/
def Reports (E : Event → Prop) (x : Attempt α) : Prop := x.run.Reports E

theorem reports_pure (a : α) : Reports E (pure a : Attempt α) := trivial

theorem reports_throw (e : Error) : Reports E (throw e : Attempt α) := trivial

theorem reports_ofExcept (made : Except Error α) : Reports E (ofExcept made) := trivial

theorem reports_poll : Reports E poll := fun _ => trivial

/-- A call reports nothing by itself, whatever is answered. -/
theorem reports_reply (call : Call) : Reports E (reply call) := fun _ => trivial

theorem reports_ask (call : Call) : Reports E (ask call) := fun _ => trivial

theorem reports_note {event : Event} (h : E event) : Reports E (note event) := ⟨h, trivial⟩

/-- Behind a failure nothing is reported. -/
theorem Reports.bind {x : Attempt α} {f : α → Attempt β} (hFirst : Reports E x)
    (hSecond : ∀ a, Reports E (f a)) : Reports E (x >>= f) := by
  rw [Reports, ExceptT.run_bind]
  refine Dialogue.Reports.bind hFirst fun result => ?_
  cases result with
  | error e => exact trivial
  | ok a => exact hSecond a

/-- What would follow a failure reports nothing. -/
theorem reports_throw_bind (e : Error) (f : α → Attempt β) : Reports E (throw e >>= f) := trivial

/-- What is made of the result is not reported. -/
theorem Reports.map {x : Attempt α} (h : Reports E x) (g : α → β) : Reports E (g <$> x) := by
  rw [← bind_pure_comp]
  exact h.bind fun a => reports_pure (g a)

/-- A list of events is reported by an attempt as it is by a dialogue. -/
theorem reports_notes {events : List Event} (h : ∀ event ∈ events, E event) :
    Reports E (notes events) := by
  rw [Reports, notes, ExceptT.run_lift, ← bind_pure_comp]
  exact (Dialogue.reports_notes h).bind fun _ => trivial

/-- Events that are left first come first in the log. -/
theorem events_notes_bind {σ : Type} (events : List Event) (f : Unit → Attempt β) (host : Host σ)
    (state : σ) : (Dialogue.run host (ExceptT.run (notes events >>= f)) state).events =
      events ++ ((f ()).run.run host state).events := by
  have hRun : ExceptT.run (notes events >>= f) = Dialogue.notes events >>= fun _ => (f ()).run := by
    rw [ExceptT.run_bind, notes, ExceptT.run_lift, ← bind_pure_comp, bind_assoc]
    rfl
  rw [hRun, Run.run_bind, Dialogue.run_notes]

end Attempt

end PathJail
