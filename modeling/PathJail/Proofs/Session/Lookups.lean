import PathJail.Proofs.Dialogue.Runs
import PathJail.Proofs.Resolver.Crossing
import PathJail.Session.Request

/-!
# The lookups of a session

A lookup does not ask the host, and of the host's state it sees the interrupt flag alone. Where it
succeeds the flag was down, so lookups without aliases that were made in different states agree.

* `raised_of_lookup`                — the flag was down.
* `yields_find`, `yields_find_then` — a lookup and what follows its success.
* `unaliased`                       — the path that a requested path comes to when no alias is
  followed.
* `yields_observe`, `advance_yields_ok` — requests by the attempts that they make.
-/

namespace PathJail

variable {σ α : Type} {host : Host σ} {state : σ} {calls : List Call}

namespace Resolver

variable {r : Resolver} {raised follow : Bool} {path placed : Text}

/-- A path is placed only while the flag is down. -/
theorem raised_of_confine (h : r.confine raised path = .ok placed) : raised = false := by
  cases raised with
  | false => rfl
  | true =>
    rw [confine_eq] at h
    split at h
    · cases h
    split at h <;> cases h

/-- A path that cannot be placed cannot be looked up. -/
theorem lookup_of_confine_error {e : Error}
    (h : r.confine raised path = .error e) : r.lookup raised path follow = .error e := by
  rw [lookup, h]
  rfl

/-- Without aliases a lookup comes to the place. -/
theorem lookup_false_of_confine (h : r.confine raised path = .ok placed) :
    r.lookup raised path false = .ok ⟨placed, none⟩ := by
  rw [lookup_false, h]
  rfl

/-- **A lookup** takes no call, and finds the flag as the host has it. -/
theorem yields_find (r : Resolver) (path : Text) (follow : Bool) (host : Host σ)
    (state : σ) : (r.find path follow).Yields host state
      (r.lookup (host.raised state) path follow) [] := by
  refine Attempt.Yields.then (Attempt.yields_poll.mpr ⟨rfl, rfl⟩) ?_
  refine Attempt.Yields.then (Attempt.yields_notes _) ?_
  exact (Attempt.yields_ofExcept _).mpr ⟨rfl, rfl⟩

variable {f : Resolved → Attempt α}

/-- What follows a lookup that succeeds follows at once. -/
theorem yields_find_then {resolved : Resolved} {result : Except Error α}
    (h : r.lookup (host.raised state) path follow = .ok resolved)
    (hRest : (f resolved).Yields host state result calls) :
    Attempt.Yields (r.find path follow >>= f) host state result calls := by
  have hFind := r.yields_find path follow host state
  rw [h] at hFind
  exact hFind.then hRest

/-- What would follow a lookup that fails does not come about. -/
theorem yields_find_error {e : Error} (h : r.lookup (host.raised state) path follow = .error e) :
    Attempt.Yields (r.find path follow >>= f) host state (.error e) [] := by
  have hFind := r.yields_find path follow host state
  rw [h] at hFind
  exact hFind.bind_error

/-- A path that was looked up was placed. -/
theorem exists_confine_of_lookup {resolved : Resolved}
    (h : r.lookup raised path follow = .ok resolved) :
    ∃ placed, r.confine raised path = .ok placed := by
  cases hPlaced : r.confine raised path with
  | error e =>
    rw [lookup_of_confine_error hPlaced] at h
    cases h
  | ok placed => exact ⟨placed, rfl⟩

theorem raised_of_lookup {resolved : Resolved} (h : r.lookup raised path follow = .ok resolved) :
    raised = false := by
  obtain ⟨placed, hPlaced⟩ := exists_confine_of_lookup h
  exact raised_of_confine hPlaced

/-- A success behind a lookup shows that it succeeded. -/
theorem yields_find_bind {a : α} :
    Attempt.Yields (r.find path follow >>= f) host state (.ok a) calls ↔
      ∃ resolved, r.lookup (host.raised state) path follow = .ok resolved ∧
        (f resolved).Yields host state (.ok a) calls := by
  constructor
  · intro h
    have hFind := r.yields_find path follow host state
    obtain ⟨resolved, first, second, hResolved, hRest, rfl⟩ := Attempt.yields_ok_iff.mp h
    obtain rfl := hResolved.calls.symm.trans hFind.calls
    exact ⟨resolved, hFind.value.symm.trans hResolved.value, hRest⟩
  · rintro ⟨resolved, hLookup, hRest⟩
    exact yields_find_then hLookup hRest

end Resolver

namespace Session

variable {s : Session}

/-- The path that a requested path comes to when no alias is followed. -/
def unaliased (s : Session) (raised : Bool) (path : Text) : Except Error Text := do
  let virtual ← s.normalized path
  return (← s.resolver.lookup raised virtual false).real

/-- The place of a requested path is that of its normal form. -/
theorem unaliased_of_normalized {raised : Bool} {path virtual : Text}
    (h : s.normalized path = .ok virtual) :
    s.unaliased raised path = s.resolver.confine raised virtual := by
  rw [unaliased, h]
  show (s.resolver.lookup raised virtual false >>= _) = _
  rw [Resolver.lookup_false]
  cases s.resolver.confine raised virtual <;> rfl

theorem tidy_of_unaliased (h : s.resolver.Canonical) {raised : Bool} {path placed : Text}
    (hPlaced : s.unaliased raised path = .ok placed) : Path.Tidy placed := by
  obtain ⟨names, hNames⟩ := h.baseNames
  cases hVirtual : s.normalized path with
  | error e =>
    rw [unaliased, hVirtual] at hPlaced
    cases hPlaced
  | ok virtual =>
    rw [unaliased_of_normalized hVirtual] at hPlaced
    exact Resolver.tidy_of_confine hNames hPlaced

/-- A request that leaves the session as it is comes to what its attempt comes to. -/
theorem yields_observe {wrap : α → Answer} {attempt : Attempt α} {result : Except Error α}
    (h : attempt.Yields host state result calls) :
    (s.observe wrap attempt).Yields host state (result.map wrap, s) calls := by
  rw [← List.append_nil calls]
  exact Dialogue.Yields.bind h (Dialogue.yields_done.mpr ⟨rfl, rfl⟩)

/-- A request that changes the session succeeds when its attempt does. -/
theorem advance_yields_ok {attempt : Attempt Session} {answer : Answer} {next : Session}
    (h : (s.advance attempt).Yields host state (.ok answer, next) calls) :
    attempt.Yields host state (.ok next) calls := by
  obtain ⟨result, first, second, hAttempt, hResult, rfl⟩ := Dialogue.yields_bind_iff.mp h
  cases result with
  | error e => cases (Dialogue.yields_done.mp hResult).1
  | ok made =>
    obtain ⟨hMade, rfl⟩ := Dialogue.yields_done.mp hResult
    obtain rfl := (Prod.mk.inj hMade).2
    rwa [List.append_nil]

end Session

end PathJail
