import PathJail.Proofs.Dialogue.Runs

/-!
# Calls behind an interrupt

The interrupt flag belongs to the host, and it may go up with any call. What a dialogue still asks
for from then on is bounded by where it looks at the flag. The bound is read off the tree: behind
every call, with the flag up at every look that follows, there are to be at most so many calls on
each course. So it holds of every host, whenever its flag goes up.

* `Host.UpAlong`   — the flag is up, and stays up while some calls are made.
* `Dialogue.Halts` — with the flag up from here on, so many calls are left at most.
* `Dialogue.Heeds` — so many are left behind every call.
* `Halts.run`, `Heeds.run` — the runs with a concrete host.
* `halts_bind`, `Heeds.bind` — one dialogue after another.
-/

namespace PathJail

variable {σ α β : Type} {host : Host σ} {state : σ} {left room : Nat}

-- ---------------------------------------------------------------------------
-- The flag
-- ---------------------------------------------------------------------------

/-- The flag is up in this state, and stays up while these calls are made. -/
def Host.UpAlong (host : Host σ) (state : σ) (calls : List Call) : Prop :=
  ∀ before, before <+: calls → host.raised (host.after state before) = true

/-- The flag is up at the start. -/
theorem Host.UpAlong.raised {calls : List Call} (h : host.UpAlong state calls) :
    host.raised state = true :=
  h [] List.nil_prefix

/-- The flag is up from behind the first call on. -/
theorem Host.UpAlong.tail {call : Call} {calls : List Call}
    (h : host.UpAlong state (call :: calls)) : host.UpAlong (host.answer call state).2 calls :=
  fun before hBefore => h (call :: before) (List.cons_prefix_cons.mpr ⟨rfl, hBefore⟩)

namespace Dialogue

-- ---------------------------------------------------------------------------
-- Dialogues
-- ---------------------------------------------------------------------------

/-- While the flag is up, at most `left` calls are made, and what is left of them then and the
result are as `R` says. -/
def Halts : Dialogue α → Nat → (Nat → α → Prop) → Prop
  | .done value, left, R => R left value
  | .ask _ _, 0, _ => False
  | .ask _ next, left + 1, R => ∀ reply, (next reply).Halts left R
  | .poll next, left, R => (next true).Halts left R
  | .note _ next, left, R => next.Halts left R

/-- If the flag goes up during a call and stays up, at most `room` calls follow, and what is left of
them then and the result are as `R` says. -/
def Heeds : Dialogue α → Nat → (Nat → α → Prop) → Prop
  | .done _, _, _ => True
  | .ask _ next, room, R => ∀ reply, (next reply).Halts room R ∧ (next reply).Heeds room R
  | .poll next, room, R => ∀ raised, (next raised).Heeds room R
  | .note _ next, room, R => next.Heeds room R

variable {R R' : Nat → α → Prop} {d : Dialogue α}

/-- What is said of the end of a dialogue may be said more loosely. -/
theorem Halts.mono (h : d.Halts left R) (hR : ∀ left a, R left a → R' left a) :
    d.Halts left R' := by
  induction d generalizing left with
  | done value => exact hR left value h
  | ask call next ih =>
    cases left with
    | zero => exact h.elim
    | succ left => exact fun reply => ih reply (h reply)
  | poll next ih => exact ih true h
  | note event next ih => exact ih h

theorem Heeds.mono (h : d.Heeds room R) (hR : ∀ left a, R left a → R' left a) :
    d.Heeds room R' := by
  induction d with
  | done value => trivial
  | ask call next ih => exact fun reply => ⟨(h reply).1.mono hR, ih reply (h reply).2⟩
  | poll next ih => exact fun raised => ih raised (h raised)
  | note event next ih => exact ih h

/-- Of two dialogues, the second one has the calls that the first one leaves. -/
theorem halts_bind {R : Nat → β → Prop} (d : Dialogue α) (f : α → Dialogue β) :
    (d >>= f).Halts left R ↔ d.Halts left fun left a => (f a).Halts left R := by
  induction d generalizing left with
  | done value => exact Iff.rfl
  | ask call next ih =>
    cases left with
    | zero => exact Iff.rfl
    | succ left => exact forall_congr' fun reply => ih reply
  | poll next ih => exact ih true
  | note event next ih => exact ih

/-- The flag may go up during a call of the first dialogue, and then the second one halts, or during
one of the second. -/
theorem Heeds.bind {R : Nat → β → Prop} {f : α → Dialogue β}
    (h : d.Heeds room fun left a => (f a).Halts left R) (hNext : ∀ a, (f a).Heeds room R) :
    (d >>= f).Heeds room R := by
  induction d with
  | done value => exact hNext value
  | ask call next ih =>
    exact fun reply => ⟨(halts_bind (next reply) f).mpr (h reply).1, ih reply (h reply).2⟩
  | poll next ih => exact fun raised => ih raised (h raised)
  | note event next ih => exact ih h

/-- A dialogue without calls leaves all of them. -/
theorem halts_of_silent {Q : α → Prop} (h : d.Every (fun _ => False) Q) (left : Nat) :
    d.Halts left fun rest a => rest = left ∧ Q a := by
  induction d with
  | done value => exact ⟨rfl, h⟩
  | ask call next ih => exact h.1.elim
  | poll next ih => exact ih true (h true)
  | note event next ih => exact ih h

/-- In such a dialogue there is no call to heed the flag behind. -/
theorem heeds_of_silent {Q : α → Prop} (h : d.Every (fun _ => False) Q) (room : Nat)
    (R : Nat → α → Prop) : d.Heeds room R := by
  induction d with
  | done value => trivial
  | ask call next ih => exact h.1.elim
  | poll next ih => exact fun raised => ih raised (h raised)
  | note event next ih => exact ih h

-- ---------------------------------------------------------------------------
-- Runs
-- ---------------------------------------------------------------------------

/-- **With the flag up from the start.** -/
theorem Halts.run (h : d.Halts left R) (hUp : host.UpAlong state (d.run host state).calls) :
    ∃ rest, (d.run host state).calls.length + rest = left ∧ R rest (d.run host state).value := by
  induction d generalizing left state with
  | done value => exact ⟨left, Nat.zero_add left, h⟩
  | ask call next ih =>
    cases left with
    | zero => exact h.elim
    | succ left =>
      obtain ⟨rest, hLength, hRest⟩ := ih _ (h _) hUp.tail
      exact ⟨rest, by rw [← hLength]; exact Nat.succ_add _ rest, hRest⟩
  | poll next ih =>
    have hRaised := hUp.raised
    simp only [Dialogue.run, hRaised] at hUp ⊢
    exact ih true h hUp
  | note event next ih => exact ih h hUp

/-- Where no call is left, the flag need only be up at the start. -/
theorem Halts.run_zero (h : d.Halts 0 R) (hRaised : host.raised state = true) :
    (d.run host state).calls = [] ∧ R 0 (d.run host state).value := by
  induction d generalizing state with
  | done value => exact ⟨rfl, h⟩
  | ask call next ih => exact h.elim
  | poll next ih =>
    simp only [Dialogue.run, hRaised]
    exact ih true h hRaised
  | note event next ih => exact ih h hRaised

/-- **With the flag up from some call on.** By induction on the tree: the call is the first one, or
it is one of those behind it. -/
theorem Heeds.run (h : d.Heeds room R) {before after : List Call} {call : Call}
    (hCalls : (d.run host state).calls = before ++ call :: after)
    (hUp : host.UpAlong (host.after state (before ++ [call])) after) : after.length ≤ room := by
  induction d generalizing state before with
  | done value => cases before <;> cases hCalls
  | ask asked next ih =>
    cases before with
    | nil =>
      obtain ⟨rfl, rfl⟩ := List.cons.inj hCalls
      obtain ⟨rest, hLength, -⟩ := (h _).1.run hUp
      exact hLength ▸ Nat.le_add_right _ rest
    | cons first before =>
      obtain ⟨rfl, hRest⟩ := List.cons.inj hCalls
      exact ih _ (h _).2 hRest hUp
  | poll next ih => exact ih _ (h _) hCalls hUp
  | note event next ih => exact ih h hCalls hUp

end Dialogue

-- ---------------------------------------------------------------------------
-- Attempts
-- ---------------------------------------------------------------------------

namespace Attempt

/-- The same of an attempt. -/
def Halts (x : Attempt α) (left : Nat) (R : Nat → Except Error α → Prop) : Prop :=
  x.run.Halts left R

@[inherit_doc Halts]
def Heeds (x : Attempt α) (room : Nat) (R : Nat → Except Error α → Prop) : Prop :=
  x.run.Heeds room R

/-- What is to hold of the first of two attempts: the other one halts behind its success. -/
def ThenHalts (f : α → Attempt β) (R : Nat → Except Error β → Prop) (left : Nat) :
    Except Error α → Prop
  | .ok a => (f a).Halts left R
  | .error e => R left (.error e)

variable {R : Nat → Except Error α → Prop} {x : Attempt α} {f : α → Attempt β}

/-- Of two attempts, the second one has the calls that the first one leaves, if that succeeds. -/
theorem halts_bind {R : Nat → Except Error β → Prop} (x : Attempt α) (f : α → Attempt β) :
    Attempt.Halts (x >>= f) left R ↔ x.Halts left (ThenHalts f R) := by
  rw [Halts, ExceptT.run_bind, Dialogue.halts_bind]
  constructor
  · refine fun h => h.mono fun left result hResult => ?_
    cases result with
    | error e => exact hResult
    | ok a => exact hResult
  · refine fun h => Dialogue.Halts.mono h fun left result hResult => ?_
    cases result with
    | error e => exact hResult
    | ok a => exact hResult

/-- The flag may go up during a call of the first attempt, or during one of the second. -/
theorem Heeds.bind {R : Nat → Except Error β → Prop} (h : x.Heeds room (ThenHalts f R))
    (hNext : ∀ a, (f a).Heeds room R) : Attempt.Heeds (x >>= f) room R := by
  rw [Heeds, ExceptT.run_bind]
  refine Dialogue.Heeds.bind (Dialogue.Heeds.mono h fun left result hResult => ?_) fun result => ?_
  · cases result with
    | error e => exact hResult
    | ok a => exact hResult
  · cases result with
    | error e => trivial
    | ok a => exact hNext a

/-- All the calls are left behind an attempt that makes none. -/
theorem halts_of_silent {Q : α → Prop} (h : x.Every (fun _ => False) Q) (left : Nat) :
    x.Halts left fun rest _ => rest = left :=
  (Dialogue.halts_of_silent h left).mono fun _ _ hRest => hRest.1

/-- An attempt without calls, and what follows it. -/
theorem heeds_of_silent_bind {Q : α → Prop} {R : Nat → Except Error β → Prop}
    (h : x.Every (fun _ => False) Q) (hNext : ∀ a, (f a).Heeds room R) :
    Attempt.Heeds (x >>= f) room R :=
  Heeds.bind (Dialogue.heeds_of_silent h room _) hNext

-- Single steps.

theorem halts_poll {R : Nat → Except Error Bool → Prop} : poll.Halts left R ↔ R left (.ok true) :=
  Iff.rfl

theorem halts_note {event : Event} {R : Nat → Except Error Unit → Prop} :
    (note event).Halts left R ↔ R left (.ok ()) := Iff.rfl

theorem halts_notes {R : Nat → Except Error Unit → Prop} (events : List Event)
    (hR : R left (.ok ())) : (notes events).Halts left R := by
  have hSilent : (notes events).run.Every (fun _ => False) fun result => result = .ok () := by
    rw [notes, ExceptT.run_lift, ← bind_pure_comp, Dialogue.every_bind, Dialogue.every_notes]
    rfl
  refine (Dialogue.halts_of_silent hSilent left).mono ?_
  rintro _ _ ⟨rfl, rfl⟩
  exact hR

/-- A call is taken off those that are left, whatever becomes of it. -/
theorem halts_ask {call : Call} {R : Nat → Except Error call.Reply → Prop}
    (hFails : ∀ failure, R left (.error (.host failure))) (hAnswers : ∀ value, R left (.ok value)) :
    (ask call).Halts (left + 1) R := by
  intro answer
  cases answer with
  | error failure => exact hFails failure
  | ok value => exact hAnswers value

/-- Behind a single call, all the room there is is left. -/
theorem heeds_ask {call : Call} {R : Nat → Except Error call.Reply → Prop}
    (hFails : ∀ failure, R room (.error (.host failure))) (hAnswers : ∀ value, R room (.ok value)) :
    (ask call).Heeds room R := by
  intro answer
  cases answer with
  | error failure => exact ⟨hFails failure, trivial⟩
  | ok value => exact ⟨hAnswers value, trivial⟩

theorem halts_reply {call : Call} {R : Nat → Except Error (Except HostError call.Reply) → Prop}
    (hR : ∀ answer, R left (.ok answer)) : (reply call).Halts (left + 1) R := hR

theorem heeds_reply {call : Call} {R : Nat → Except Error (Except HostError call.Reply) → Prop}
    (hR : ∀ answer, R room (.ok answer)) : (reply call).Heeds room R :=
  fun answer => ⟨hR answer, trivial⟩

end Attempt

end PathJail
