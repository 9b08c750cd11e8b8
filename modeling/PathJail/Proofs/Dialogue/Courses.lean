import PathJail.Dialogue

/-!
# What a dialogue can come to

A dialogue is a tree: behind a call there is one branch for each answer of the host, behind a look
at the interrupt flag one for each of its states. A course of the dialogue is one way through it.
Whatever a concrete host answers, and whenever the flag is up, the conversation takes one of the
courses, so what is shown of all courses holds of every host.

* `Asks`, `Ends`           — the calls that some course makes, and the results that some course has.
* `asks_run`, `ends_run`   — the run against a concrete host is a course.
* `Every`                  — a condition on all calls and all results, by recursion on the tree.
* `every_bind`             — one dialogue after another; with it and the rules for single steps
  `simp` takes an operation apart into what is to be shown of its calls and its result.
-/

namespace PathJail

namespace Dialogue

variable {α β : Type}

-- ---------------------------------------------------------------------------
-- Courses
-- ---------------------------------------------------------------------------

/-- Some course of the dialogue makes the call. -/
inductive Asks : Dialogue α → Call → Prop
  | here (call : Call) (next) : Asks (.ask call next) call
  | ask {call : Call} {asked : Call} {next} (reply) : Asks (next reply) call →
      Asks (.ask asked next) call
  | poll {call : Call} {next} (raised : Bool) : Asks (next raised) call → Asks (.poll next) call
  | note {call : Call} {event next} : Asks next call → Asks (.note event next) call

/-- Some course of the dialogue has the result. -/
inductive Ends : Dialogue α → α → Prop
  | done (value : α) : Ends (.done value) value
  | ask {value : α} {asked : Call} {next} (reply) : Ends (next reply) value →
      Ends (.ask asked next) value
  | poll {value : α} {next} (raised : Bool) : Ends (next raised) value → Ends (.poll next) value
  | note {value : α} {event next} : Ends next value → Ends (.note event next) value

/-- A call that a run makes is one that the dialogue asks for. -/
theorem asks_run {σ : Type} {host : Host σ} {d : Dialogue α} {state : σ} {call : Call}
    (h : call ∈ (d.run host state).calls) : d.Asks call := by
  induction d generalizing state with
  | done value => simp [run] at h
  | ask asked next ih =>
    rw [run, List.mem_cons] at h
    rcases h with rfl | h
    · exact .here _ next
    · exact .ask _ (ih _ h)
  | poll next ih => exact .poll _ (ih _ h)
  | note event next ih => exact .note (ih h)

/-- The result of a run is one that the dialogue can end with. -/
theorem ends_run {σ : Type} (host : Host σ) (d : Dialogue α) (state : σ) :
    d.Ends (d.run host state).value := by
  induction d generalizing state with
  | done value => exact .done value
  | ask asked next ih => exact .ask _ (ih _ _)
  | poll next ih => exact .poll _ (ih _ _)
  | note event next ih => exact .note (ih _)

/-- Courses are put one behind the other. -/
theorem Ends.bind {d : Dialogue α} {f : α → Dialogue β} {a : α} {b : β} (hFirst : d.Ends a)
    (hSecond : (f a).Ends b) : (d >>= f).Ends b := by
  induction hFirst with
  | done value => exact hSecond
  | ask reply _ ih => exact .ask reply (ih hSecond)
  | poll raised _ ih => exact .poll raised (ih hSecond)
  | note _ ih => exact .note (ih hSecond)

/-- What the first of two dialogues asks, and then the second behind a result of the first. -/
theorem Asks.bind {d : Dialogue α} {f : α → Dialogue β} {call : Call} (h : d.Asks call) :
    (d >>= f).Asks call := by
  induction h with
  | here call next => exact .here call _
  | ask reply _ ih => exact .ask reply ih
  | poll raised _ ih => exact .poll raised ih
  | note _ ih => exact .note ih

/-- What the second dialogue asks for is asked for behind every course of the first. -/
theorem Ends.asks_bind {d : Dialogue α} {f : α → Dialogue β} {a : α} {call : Call} (h : d.Ends a)
    (hSecond : (f a).Asks call) : (d >>= f).Asks call := by
  induction h with
  | done value => exact hSecond
  | ask reply _ ih => exact .ask reply (ih hSecond)
  | poll raised _ ih => exact .poll raised (ih hSecond)
  | note _ ih => exact .note (ih hSecond)

theorem ends_notes (events : List Event) : (notes events).Ends () := by
  induction events with
  | nil => exact .done ()
  | cons event events ih => exact .note ih

-- ---------------------------------------------------------------------------
-- Conditions on all courses
-- ---------------------------------------------------------------------------

/-- On every course each call satisfies `C`, and the result satisfies `Q`. -/
def Every : Dialogue α → (Call → Prop) → (α → Prop) → Prop
  | .done value, _, Q => Q value
  | .ask call next, C, Q => C call ∧ ∀ reply, (next reply).Every C Q
  | .poll next, C, Q => ∀ raised, (next raised).Every C Q
  | .note _ next, C, Q => next.Every C Q

variable {C : Call → Prop}

/-- What holds of all calls of the tree holds of each one that is asked for. -/
theorem Every.asks {Q : α → Prop} {d : Dialogue α} (h : d.Every C Q) {call : Call}
    (hAsks : d.Asks call) : C call := by
  induction hAsks with
  | here call next => exact h.1
  | ask reply _ ih => exact ih (h.2 reply)
  | poll raised _ ih => exact ih (h raised)
  | note _ ih => exact ih h

/-- What holds of all results holds of the one that the dialogue ended with. -/
theorem Every.ends {Q : α → Prop} {d : Dialogue α} (h : d.Every C Q) {value : α}
    (hEnds : d.Ends value) : Q value := by
  induction hEnds with
  | done value => exact h
  | ask reply _ ih => exact ih (h.2 reply)
  | poll raised _ ih => exact ih (h raised)
  | note _ ih => exact ih h

/-- All results satisfy whatever follows from what they satisfy. -/
theorem Every.mono {Q R : α → Prop} {d : Dialogue α} (h : d.Every C Q) (hQ : ∀ a, Q a → R a) :
    d.Every C R := by
  induction d with
  | done value => exact hQ value h
  | ask call next ih => exact ⟨h.1, fun reply => ih reply (h.2 reply)⟩
  | poll next ih => exact fun raised => ih raised (h raised)
  | note event next ih => exact ih h

/-- Every result that is met on the way is one that some course has. -/
theorem every_ends (d : Dialogue α) : d.Every (fun _ => True) d.Ends := by
  induction d with
  | done value => exact .done value
  | ask call next ih => exact ⟨trivial, fun reply => (ih reply).mono fun _ => .ask reply⟩
  | poll next ih => exact fun raised => (ih raised).mono fun _ => .poll raised
  | note event next ih => exact ih.mono fun _ => .note

/-- Nothing is said of a dialogue by what is always so. -/
theorem every_true (d : Dialogue α) : d.Every (fun _ => True) fun _ => True :=
  d.every_ends.mono fun _ _ => trivial

@[simp] theorem every_done {Q : α → Prop} (value : α) : (Dialogue.done value).Every C Q ↔ Q value :=
  Iff.rfl

/-- **One dialogue behind another.** The second part is judged for each result of the first. -/
@[simp] theorem every_bind {Q : β → Prop} (d : Dialogue α) (f : α → Dialogue β) :
    (d >>= f).Every C Q ↔ d.Every C fun a => (f a).Every C Q := by
  induction d with
  | done value => exact Iff.rfl
  | ask call next ih => exact and_congr_right fun _ => forall_congr' ih
  | poll next ih => exact forall_congr' ih
  | note event next ih => exact ih

/-- Results that are made of others are made of results. -/
theorem Ends.of_map {f : α → β} {d : Dialogue α} {b : β} (h : (f <$> d).Ends b) :
    ∃ a, d.Ends a ∧ b = f a := by
  rw [map_eq_pure_bind] at h
  refine Every.ends (C := fun _ => True) (Q := fun b => ∃ a, d.Ends a ∧ b = f a) ?_ h
  rw [every_bind]
  exact d.every_ends.mono fun a ha => ⟨a, ha, rfl⟩

@[simp] theorem every_notes {Q : Unit → Prop} (events : List Event) :
    (notes events).Every C Q ↔ Q () := by
  induction events with
  | nil => exact Iff.rfl
  | cons event events ih => exact ih

end Dialogue

-- ---------------------------------------------------------------------------
-- Attempts
-- ---------------------------------------------------------------------------

namespace Attempt

variable {α β : Type} {C : Call → Prop}

/-- On every course each call satisfies `C`, and the value satisfies `Q` if the attempt succeeds. -/
def Every (x : Attempt α) (C : Call → Prop) (Q : α → Prop) : Prop :=
  x.run.Every C fun result => ∀ a, result = .ok a → Q a

theorem Every.mono {Q R : α → Prop} {x : Attempt α} (h : x.Every C Q) (hQ : ∀ a, Q a → R a) :
    x.Every C R :=
  Dialogue.Every.mono h fun _ hResult a ha => hQ a (hResult a ha)

/-- Each result of an attempt is one that it can end with. -/
theorem every_ends (x : Attempt α) : x.Every (fun _ => True) fun a => x.run.Ends (.ok a) := by
  refine x.run.every_ends.mono ?_
  rintro _ hEnds a rfl
  exact hEnds

theorem every_true (x : Attempt α) : x.Every (fun _ => True) fun _ => True :=
  x.every_ends.mono fun _ _ => trivial

@[simp] theorem every_pure {Q : α → Prop} (a : α) : (pure a : Attempt α).Every C Q ↔ Q a :=
  ⟨fun h => h a rfl, fun h _ hb => Except.ok.inj hb ▸ h⟩

@[simp] theorem every_throw {Q : α → Prop} (e : Error) :
    (throw e : Attempt α).Every C Q ↔ True :=
  iff_true_intro fun _ h => nomatch h

/-- Behind a failure nothing follows, so the second attempt is judged for the successes only. -/
@[simp] theorem every_bind {Q : β → Prop} (x : Attempt α) (f : α → Attempt β) :
    Every (x >>= f) C Q ↔ x.Every C fun a => (f a).Every C Q := by
  rw [Every, ExceptT.run_bind, Dialogue.every_bind, Every]
  constructor
  · intro h
    refine h.mono ?_
    rintro _ hResult a rfl
    exact hResult
  · intro h
    refine h.mono fun result hResult => ?_
    cases result with
    | error e => exact fun _ h => nomatch h
    | ok a => exact hResult a rfl

@[simp] theorem every_map {Q : β → Prop} (g : α → β) (x : Attempt α) :
    Every (g <$> x) C Q ↔ x.Every C fun a => Q (g a) := by
  rw [← bind_pure_comp, every_bind]
  simp only [every_pure]

-- The type of the answer depends on the call. It stays out of the index, since `simp` meets it in
-- its computed form.

@[simp] theorem every_reply {call : Call} {Q : Except HostError call.Reply → Prop} :
    @Every (no_index (Except HostError call.Reply)) (reply call) C Q ↔
      C call ∧ ∀ answer, Q answer :=
  and_congr_right fun _ => forall_congr' fun answer =>
    ⟨fun h => h answer rfl, fun h _ ha => Except.ok.inj ha ▸ h⟩

/-- A call whose failure is a failure of the attempt: every value is a result. -/
@[simp] theorem every_ask {call : Call} {Q : call.Reply → Prop} :
    @Every (no_index call.Reply) (ask call) C Q ↔ C call ∧ ∀ value, Q value := by
  refine and_congr_right fun _ => ⟨fun h value => h (.ok value) value rfl, fun h answer => ?_⟩
  cases answer with
  | error failure => exact fun _ ha => nomatch ha
  | ok value => exact fun _ ha => Except.ok.inj ha ▸ h value

@[simp] theorem every_poll {Q : Bool → Prop} : poll.Every C Q ↔ ∀ raised, Q raised :=
  forall_congr' fun raised => ⟨fun h => h raised rfl, fun h _ ha => Except.ok.inj ha ▸ h⟩

@[simp] theorem every_note {Q : Unit → Prop} (event : Event) : (note event).Every C Q ↔ Q () :=
  ⟨fun h => h () rfl, fun h _ _ => h⟩

@[simp] theorem every_notes {Q : Unit → Prop} (events : List Event) :
    (notes events).Every C Q ↔ Q () := by
  rw [Every, notes, ExceptT.run_lift, ← bind_pure_comp, Dialogue.every_bind,
    Dialogue.every_notes]
  exact ⟨fun h => h () rfl, fun h _ _ => h⟩

@[simp] theorem every_ofExcept {Q : α → Prop} (result : Except Error α) :
    (ofExcept result).Every C Q ↔ ∀ a, result = .ok a → Q a :=
  Iff.rfl

-- The same from the other side: a course is given by its answers, step by step.

/-- Of two attempts both succeed, or the second one fails. -/
theorem ends_bind {x : Attempt α} {f : α → Attempt β} {a : α} {result : Except Error β}
    (hFirst : x.run.Ends (.ok a)) (hSecond : (f a).run.Ends result) :
    (x >>= f).run.Ends result := by
  rw [ExceptT.run_bind]
  exact hFirst.bind hSecond

/-- What the second attempt asks for is asked for, once the first one has succeeded. -/
theorem asks_bind {x : Attempt α} {f : α → Attempt β} {a : α} {call : Call}
    (hFirst : x.run.Ends (.ok a)) (hSecond : (f a).run.Asks call) : (x >>= f).run.Asks call := by
  rw [ExceptT.run_bind]
  exact hFirst.asks_bind hSecond

theorem ends_reply (call : Call) (answer : Except HostError call.Reply) :
    (reply call).run.Ends (.ok answer) :=
  .ask answer (.done _)

theorem ends_ask (call : Call) (value : call.Reply) : (ask call).run.Ends (.ok value) :=
  .ask (.ok value) (.done _)

theorem ends_note (event : Event) : (note event).run.Ends (.ok ()) := .note (.done _)

theorem ends_notes (events : List Event) : (notes events).run.Ends (.ok ()) := by
  rw [notes, ExceptT.run_lift, ← bind_pure_comp]
  exact (Dialogue.ends_notes events).bind (.done _)

end Attempt

end PathJail
