import PathJail.Proofs.Dialogue.Courses

/-!
# What a dialogue comes to with one host

Against a concrete host a dialogue has one course, the run. What counts of a run is its result and
its calls: the state in which it leaves the host follows from the calls alone, since nothing else
changes a host (`Host.after`). So the run of one operation behind another is the run of the second
from the state that the calls of the first lead to.

* `Host.after`           — the state of a host behind a list of calls.
* `Dialogue.Yields`      — result and calls of a run; `Attempt.Yields` the same of an attempt.
* `Attempt.yields_ok_iff` — a success of two attempts in a row, taken apart.
-/

namespace PathJail

variable {σ α β : Type} {host : Host σ} {state : σ} {calls first second : List Call}

/-- The state in which a host is behind these calls. -/
def Host.after (host : Host σ) (state : σ) (calls : List Call) : σ :=
  calls.foldl (fun state call => (host.answer call state).2) state

@[simp] theorem Host.after_nil (host : Host σ) (state : σ) : host.after state [] = state := rfl

/-- Calls can be made in two portions. -/
theorem Host.after_append (host : Host σ) (state : σ) (first second : List Call) :
    host.after state (first ++ second) = host.after (host.after state first) second :=
  List.foldl_append

namespace Dialogue

/-- Held with the host from this state on, the dialogue has this result and makes these calls. -/
structure Yields (d : Dialogue α) (host : Host σ) (state : σ) (value : α) (calls : List Call) :
    Prop where
  value : (d.run host state).value = value
  calls : (d.run host state).calls = calls

/-- A run comes to what the run comes to. -/
theorem yields_run (d : Dialogue α) (host : Host σ) (state : σ) :
    d.Yields host state (d.run host state).value (d.run host state).calls :=
  ⟨rfl, rfl⟩

/-- A host leads a dialogue to one result, by one list of calls. -/
theorem Yields.unique {d : Dialogue α} {a b : α} (hFirst : d.Yields host state a first)
    (hSecond : d.Yields host state b second) : a = b ∧ first = second :=
  ⟨hFirst.value.symm.trans hSecond.value, hFirst.calls.symm.trans hSecond.calls⟩

theorem Yields.ends {d : Dialogue α} {a : α} (h : d.Yields host state a calls) : d.Ends a :=
  h.value ▸ ends_run host d state

/-- What is made of the result leaves the calls and the log as they are. -/
theorem run_map (f : α → β) (d : Dialogue α) (host : Host σ) (state : σ) :
    (f <$> d).run host state =
      { d.run host state with value := f (d.run host state).value } := by
  rw [map_eq_pure_bind, Run.run_bind]
  simp [run]

/-- Only calls change the host. -/
theorem state_run (d : Dialogue α) (host : Host σ) (state : σ) :
    (d.run host state).state = host.after state (d.run host state).calls := by
  induction d generalizing state with
  | done value => rfl
  | ask call next ih => exact ih _ _
  | poll next ih => exact ih _ _
  | note event next ih => exact ih _

@[simp] theorem yields_done {a b : α} :
    (Dialogue.done a).Yields host state b calls ↔ b = a ∧ calls = [] :=
  ⟨fun h => ⟨h.value.symm, h.calls.symm⟩, fun h => ⟨h.1.symm, h.2.symm⟩⟩

/-- Runs are put one behind the other, and the calls with them. -/
theorem Yields.bind {d : Dialogue α} {f : α → Dialogue β} {a : α} {b : β}
    (hFirst : d.Yields host state a first)
    (hSecond : (f a).Yields host (host.after state first) b second) :
    (d >>= f).Yields host state b (first ++ second) := by
  obtain ⟨rfl, rfl⟩ := hFirst
  rw [← state_run] at hSecond
  constructor
  · rw [Run.run_bind]
    exact hSecond.value
  · rw [Run.run_bind]
    exact congrArg _ hSecond.calls

/-- A run of two dialogues can be taken apart at the place where the second one begins. -/
theorem yields_bind_iff {d : Dialogue α} {f : α → Dialogue β} {b : β} :
    (d >>= f).Yields host state b calls ↔ ∃ a first second, d.Yields host state a first ∧
      (f a).Yields host (host.after state first) b second ∧ calls = first ++ second := by
  constructor
  · intro h
    have hRun := Run.run_bind host d f state
    refine ⟨_, _, _, yields_run d host state, ⟨?_, rfl⟩, ?_⟩
    · rw [← h.value, hRun, ← state_run]
    · rw [← h.calls, hRun, ← state_run]
  · rintro ⟨a, first, second, hFirst, hSecond, rfl⟩
    exact hFirst.bind hSecond

end Dialogue

-- ---------------------------------------------------------------------------
-- Attempts
-- ---------------------------------------------------------------------------

namespace Attempt

/-- The attempt has this result with the host, and makes these calls. -/
def Yields (x : Attempt α) (host : Host σ) (state : σ) (result : Except Error α)
    (calls : List Call) : Prop :=
  x.run.Yields host state result calls

variable {result : Except Error α}

/-- An attempt that has its value asks for nothing. -/
@[simp] theorem yields_pure (a : α) :
    (pure a : Attempt α).Yields host state result calls ↔ result = .ok a ∧ calls = [] :=
  Dialogue.yields_done

@[simp] theorem yields_throw (e : Error) :
    (throw e : Attempt α).Yields host state result calls ↔ result = .error e ∧ calls = [] :=
  Dialogue.yields_done

@[simp] theorem yields_ofExcept (made : Except Error α) :
    (ofExcept made).Yields host state result calls ↔ result = made ∧ calls = [] :=
  Dialogue.yields_done

@[simp] theorem yields_poll {raised : Except Error Bool} :
    poll.Yields host state raised calls ↔ raised = .ok (host.raised state) ∧ calls = [] :=
  ⟨fun h => ⟨h.value.symm, h.calls.symm⟩, fun h => ⟨h.1.symm, h.2.symm⟩⟩

@[simp] theorem yields_note (event : Event) {result : Except Error Unit} :
    (note event).Yields host state result calls ↔ result = .ok () ∧ calls = [] :=
  ⟨fun h => ⟨h.value.symm, h.calls.symm⟩, fun h => ⟨h.1.symm, h.2.symm⟩⟩

/-- The host is asked once, and its answer is the result, also when it is a failure. -/
theorem yields_reply (call : Call) (host : Host σ) (state : σ) :
    (reply call).Yields host state (.ok (host.answer call state).1) [call] :=
  ⟨rfl, rfl⟩

/-- The host is asked once, and a failure of its own becomes one of the attempt. -/
theorem yields_ask (call : Call) (host : Host σ) (state : σ) :
    (ask call).Yields host state ((host.answer call state).1.mapError Error.host) [call] := by
  refine ⟨?_, rfl⟩
  simp only [ask, ExceptT.run_mk, Dialogue.run]
  cases (host.answer call state).1 <;> rfl

theorem yields_notes (events : List Event) : (notes events).Yields host state (.ok ()) [] := by
  have hNotes : (Dialogue.notes events).Yields host state () [] := by
    induction events with
    | nil => exact ⟨rfl, rfl⟩
    | cons event events ih => exact ⟨rfl, ih.calls⟩
  have hLift : (notes events).run = Dialogue.notes events >>= fun _ => .done (.ok ()) := by
    rw [notes, ExceptT.run_lift, ← bind_pure_comp]
    rfl
  rw [Yields, hLift, ← List.append_nil []]
  exact hNotes.bind ⟨rfl, rfl⟩

/-- One attempt behind a success of another. -/
theorem Yields.bind {x : Attempt α} {f : α → Attempt β} {a : α} {result : Except Error β}
    (hFirst : x.Yields host state (.ok a) first)
    (hSecond : (f a).Yields host (host.after state first) result second) :
    Attempt.Yields (x >>= f) host state result (first ++ second) := by
  rw [Yields, ExceptT.run_bind]
  exact Dialogue.Yields.bind hFirst hSecond

/-- A failure ends the attempt. -/
theorem Yields.bind_error {x : Attempt α} {f : α → Attempt β} {e : Error}
    (hFirst : x.Yields host state (.error e) calls) :
    Attempt.Yields (x >>= f) host state (.error e) calls := by
  rw [Yields, ExceptT.run_bind, ← List.append_nil calls]
  exact Dialogue.Yields.bind hFirst (Dialogue.yields_done.mpr ⟨rfl, rfl⟩)

/-- Two attempts in a row succeed when both do. -/
theorem yields_ok_iff {x : Attempt α} {f : α → Attempt β} {b : β} :
    Attempt.Yields (x >>= f) host state (.ok b) calls ↔
      ∃ a first second, x.Yields host state (.ok a) first ∧
        (f a).Yields host (host.after state first) (.ok b) second ∧ calls = first ++ second := by
  constructor
  · intro h
    rw [Yields, ExceptT.run_bind] at h
    obtain ⟨made, first, second, hFirst, hSecond, rfl⟩ := Dialogue.yields_bind_iff.mp h
    cases made with
    | error e => exact absurd (Dialogue.yields_done.mp hSecond).1 (by simp)
    | ok a => exact ⟨a, first, second, hFirst, hSecond, rfl⟩
  · rintro ⟨a, first, second, hFirst, hSecond, rfl⟩
    exact hFirst.bind hSecond

/-- A conversation without calls leaves the host as it is, so what follows goes on from the same
state. -/
theorem Yields.then {x : Attempt α} {f : α → Attempt β} {a : α} {result : Except Error β}
    (hFirst : x.Yields host state (.ok a) []) (hSecond : (f a).Yields host state result calls) :
    Attempt.Yields (x >>= f) host state result calls :=
  hFirst.bind hSecond

-- What stands behind a single step.

variable {f : α → Attempt β} {b : β}

/-- Behind a computed value the attempt goes on with it. -/
theorem ofExcept_ok_bind (a : α) : (ofExcept (.ok a) >>= f) = f a := rfl

theorem ofExcept_error_bind (e : Error) : (ofExcept (.error e) >>= f) = throw e := rfl

/-- A success behind something computed shows that this was a value. -/
theorem yields_ofExcept_bind {made : Except Error α} :
    Attempt.Yields (ofExcept made >>= f) host state (.ok b) calls ↔
      ∃ a, made = .ok a ∧ (f a).Yields host state (.ok b) calls := by
  cases made with
  | error e => simp [ofExcept_error_bind]
  | ok a => simp [ofExcept_ok_bind]

/-- An event changes neither the result nor the calls of what follows. -/
theorem yields_note_bind {event : Event} {f : Unit → Attempt β} {result : Except Error β} :
    Attempt.Yields (note event >>= f) host state result calls ↔
      (f ()).Yields host state result calls :=
  ⟨fun h => ⟨h.value, h.calls⟩, fun h => ⟨h.value, h.calls⟩⟩

/-- A success behind a call that may fail: the attempt goes on with the answer of the host. -/
theorem yields_reply_bind {call : Call} {f : Except HostError call.Reply → Attempt β} :
    Attempt.Yields (reply call >>= f) host state (.ok b) calls ↔ ∃ second,
      (f (host.answer call state).1).Yields host (host.after state [call]) (.ok b) second ∧
        calls = call :: second := by
  have hReply := yields_reply call host state
  constructor
  · intro h
    obtain ⟨answer, first, second, hAnswer, hRest, rfl⟩ := yields_ok_iff.mp h
    obtain rfl := hAnswer.calls.symm.trans hReply.calls
    obtain rfl := Except.ok.inj (hAnswer.value.symm.trans hReply.value)
    exact ⟨second, hRest, rfl⟩
  · rintro ⟨second, hRest, rfl⟩
    exact hReply.bind hRest

/-- A success behind a call shows that the host answered with a value. -/
theorem yields_ask_bind {call : Call} {f : call.Reply → Attempt β} :
    Attempt.Yields (ask call >>= f) host state (.ok b) calls ↔ ∃ value second,
      (host.answer call state).1 = .ok value ∧
        (f value).Yields host (host.after state [call]) (.ok b) second ∧
          calls = call :: second := by
  have hAsk := yields_ask call host state
  constructor
  · intro h
    obtain ⟨value, first, second, hValue, hRest, rfl⟩ := yields_ok_iff.mp h
    obtain rfl := hValue.calls.symm.trans hAsk.calls
    have hAnswer := hAsk.value.symm.trans hValue.value
    cases hGiven : (host.answer call state).1 with
    | error failure =>
      rw [hGiven] at hAnswer
      cases hAnswer
    | ok given =>
      rw [hGiven] at hAnswer
      obtain rfl := Except.ok.inj hAnswer
      exact ⟨given, second, rfl, hRest, rfl⟩
  · rintro ⟨value, second, hAnswer, hRest, rfl⟩
    rw [hAnswer] at hAsk
    exact hAsk.bind hRest

end Attempt

end PathJail
