import PathJail.Proofs.Dialogue.Courses

/-!
# Dialogues that go alike

Two dialogues go alike when nobody outside can tell them apart: they make the same calls, look at
the interrupt flag at the same points and leave the same events. Their results need not be the same,
but are related.

* `Dialogue.Alike`  — the relation on trees, with a rule for one dialogue after another.
* `Agree`           — the same failure, or values that are related.
* `Alike.run`       — against every host, the two runs differ in their results only.
-/

namespace PathJail

variable {α β γ δ : Type} {R : α → β → Prop} {S : γ → δ → Prop}

namespace Dialogue

/-- The same conversation, with related results. -/
inductive Alike (R : α → β → Prop) : Dialogue α → Dialogue β → Prop
  | done {a : α} {b : β} : R a b → Alike R (.done a) (.done b)
  | ask (call : Call) {next next'} : (∀ reply, Alike R (next reply) (next' reply)) →
      Alike R (.ask call next) (.ask call next')
  | poll {next next'} : (∀ raised, Alike R (next raised) (next' raised)) →
      Alike R (.poll next) (.poll next')
  | note (event : Event) {next next'} : Alike R next next' →
      Alike R (.note event next) (.note event next')

/-- A dialogue goes like itself, when its results are made into others. -/
theorem alike_map {f : α → β} (d : Dialogue α) (h : ∀ a, d.Ends a → R a (f a)) :
    d.Alike R (f <$> d) := by
  rw [map_eq_pure_bind]
  induction d with
  | done a => exact .done (h a (.done a))
  | ask call next ih => exact .ask call fun reply => ih reply fun a ha => h a (.ask reply ha)
  | poll next ih => exact .poll fun raised => ih raised fun a ha => h a (.poll raised ha)
  | note event next ih => exact .note event (ih fun a ha => h a (.note ha))

/-- Two dialogues that go alike lead into others that do. -/
theorem Alike.bind {d : Dialogue α} {e : Dialogue β} {f : α → Dialogue γ} {g : β → Dialogue δ}
    (h : d.Alike R e) (hNext : ∀ a b, R a b → (f a).Alike S (g b)) :
    (d >>= f).Alike S (e >>= g) := by
  induction h with
  | done hResult => exact hNext _ _ hResult
  | ask call _ ih => exact .ask call ih
  | poll _ ih => exact .poll ih
  | note event _ ih => exact .note event ih

theorem alike_refl (d : Dialogue α) : d.Alike Eq d := by
  have hMap := d.alike_map (R := Eq) (f := id) fun _ _ => rfl
  rwa [id_map] at hMap

/-- One dialogue, and two ways to go on behind it. -/
theorem alike_bind (d : Dialogue α) {f : α → Dialogue γ} {g : α → Dialogue δ}
    (hNext : ∀ a, (f a).Alike S (g a)) : (d >>= f).Alike S (d >>= g) :=
  d.alike_refl.bind fun a _ hSame => hSame ▸ hNext a

/-- Results may be compared less closely. -/
theorem Alike.mono {R' : α → β → Prop} {d : Dialogue α} {e : Dialogue β} (h : d.Alike R e)
    (hR : ∀ a b, R a b → R' a b) : d.Alike R' e := by
  induction h with
  | done hResult => exact .done (hR _ _ hResult)
  | ask call _ ih => exact .ask call ih
  | poll _ ih => exact .poll ih
  | note event _ ih => exact .note event ih

/-- Against every host the two runs differ in their results only. -/
theorem Alike.run {σ : Type} {d : Dialogue α} {e : Dialogue β} (h : d.Alike R e) (host : Host σ)
    (state : σ) : R (d.run host state).value (e.run host state).value ∧
      (d.run host state).calls = (e.run host state).calls ∧
      (d.run host state).events = (e.run host state).events ∧
      (d.run host state).state = (e.run host state).state := by
  induction h generalizing state with
  | done hResult => exact ⟨hResult, rfl, rfl, rfl⟩
  | ask call _ ih =>
    obtain ⟨hValue, hCalls, hEvents, hState⟩ := ih _ (host.answer call state).2
    exact ⟨hValue, congrArg _ hCalls, hEvents, hState⟩
  | poll _ ih => exact ih _ _
  | note event _ ih =>
    obtain ⟨hValue, hCalls, hEvents, hState⟩ := ih state
    exact ⟨hValue, hCalls, congrArg _ hEvents, hState⟩

end Dialogue

-- ---------------------------------------------------------------------------
-- Attempts
-- ---------------------------------------------------------------------------

/-- The same failure, or values that are related. -/
inductive Agree (R : α → β → Prop) : Except Error α → Except Error β → Prop
  | error (e : Error) : Agree R (.error e) (.error e)
  | ok {a : α} {b : β} : R a b → Agree R (.ok a) (.ok b)

namespace Attempt

/-- The same conversation; both fail with the same failure, or their values are related. -/
def Alike (R : α → β → Prop) (x : Attempt α) (y : Attempt β) : Prop :=
  x.run.Alike (Agree R) y.run

/-- Two attempts with values that correspond go alike. -/
theorem alike_pure {a : α} {b : β} (h : R a b) :
    Alike R (pure a : Attempt α) (pure b : Attempt β) :=
  .done (.ok h)

theorem alike_throw (e : Error) : Alike R (throw e : Attempt α) (throw e : Attempt β) :=
  .done (.error e)

/-- Two attempts that go alike lead into others that do; a failure of theirs is the same failure. -/
theorem Alike.bind {x : Attempt α} {y : Attempt β} {f : α → Attempt γ} {g : β → Attempt δ}
    (h : x.Alike R y) (hNext : ∀ a b, R a b → (f a).Alike S (g b)) :
    Alike S (x >>= f) (y >>= g) := by
  rw [Alike, ExceptT.run_bind, ExceptT.run_bind]
  refine Dialogue.Alike.bind h fun _ _ hResults => ?_
  cases hResults with
  | error e => exact .done (.error e)
  | ok hValues => exact hNext _ _ hValues

/-- One attempt, and two ways to go on behind it. -/
theorem alike_bind (x : Attempt α) {f : α → Attempt γ} {g : α → Attempt δ}
    (hNext : ∀ a, (f a).Alike S (g a)) : Alike S (x >>= f) (x >>= g) := by
  rw [Alike, ExceptT.run_bind, ExceptT.run_bind]
  refine x.run.alike_bind fun result => ?_
  cases result with
  | error e => exact .done (.error e)
  | ok a => exact hNext a

end Attempt

end PathJail
