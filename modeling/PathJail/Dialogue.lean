import PathJail.Host.Call
import PathJail.Log.Event

/-!
# Dialogues

An operation of a session is a conversation with its surroundings. It asks the host file system, it
looks at the interrupt flag, it leaves events in the log, and in the end it has a result. A
`Dialogue` is that conversation as a tree: after a call there is one branch for every answer that
the host could give. So whatever is shown of a dialogue is shown for every host.

* `Dialogue`     — the tree, and its monad.
* `Attempt`      — a dialogue that may end in an `Error`.
* `Host`         — answers and flag of one concrete host, as functions of a state.
* `Dialogue.run` — one branch: the result, and the calls and events on the way.
* `Run.run_bind` — the run of one dialogue after another.
-/

namespace PathJail

inductive Dialogue (α : Type) : Type
  /-- The conversation is over. -/
  | done (value : α)
  /-- A call to the host, and how to go on with what it answers. -/
  | ask (call : Call) (next : Except HostError call.Reply → Dialogue α)
  /-- A look at the interrupt flag. -/
  | poll (next : Bool → Dialogue α)
  /-- An event for the log. -/
  | note (event : Event) (next : Dialogue α)

namespace Dialogue

variable {α β : Type}

/-- One conversation after the other. -/
def bind : Dialogue α → (α → Dialogue β) → Dialogue β
  | .done a, f => f a
  | .ask call next, f => .ask call fun reply => (next reply).bind f
  | .poll next, f => .poll fun raised => (next raised).bind f
  | .note event next, f => .note event (next.bind f)

/-- Leaves several events in the log. -/
def notes (events : List Event) : Dialogue Unit := events.foldr .note (.done ())

instance : Monad Dialogue where
  pure := .done
  bind := .bind

@[simp] theorem pure_eq (a : α) : (pure a : Dialogue α) = .done a := rfl

@[simp] theorem done_bind (a : α) (f : α → Dialogue β) : (Dialogue.done a >>= f) = f a := rfl

@[simp] theorem ask_bind (call : Call) (next : Except HostError call.Reply → Dialogue α)
    (f : α → Dialogue β) : (Dialogue.ask call next >>= f) = .ask call fun r => next r >>= f := rfl

@[simp] theorem poll_bind (next : Bool → Dialogue α) (f : α → Dialogue β) :
    (Dialogue.poll next >>= f) = .poll fun raised => next raised >>= f := rfl

@[simp] theorem note_bind (event : Event) (next : Dialogue α) (f : α → Dialogue β) :
    (Dialogue.note event next >>= f) = .note event (next >>= f) := rfl

theorem bind_done (d : Dialogue α) : (d >>= fun a => Dialogue.done a) = d := by
  induction d with
  | done a => rfl
  | ask call next ih => simp [ih]
  | poll next ih => simp [ih]
  | note event next ih => simp [ih]

theorem bind_assoc {γ : Type} (d : Dialogue α) (f : α → Dialogue β) (g : β → Dialogue γ) :
    (d >>= f >>= g) = d >>= fun a => f a >>= g := by
  induction d with
  | done a => rfl
  | ask call next ih => simp [ih]
  | poll next ih => simp [ih]
  | note event next ih => simp [ih]

instance : LawfulMonad Dialogue :=
  LawfulMonad.mk' Dialogue bind_done (fun _ _ => rfl) bind_assoc

end Dialogue

/-! ## Conversations that may fail -/

/-- A dialogue that ends in a value or in an error. -/
abbrev Attempt := ExceptT Error Dialogue

namespace Attempt

variable {α : Type}

/-- Asks the host, and leaves its failure to be dealt with. -/
def reply (call : Call) : Attempt (Except HostError call.Reply) :=
  ExceptT.mk (.ask call fun answer => .done (.ok answer))

/-- Asks the host; its failure, unchanged, is the failure of the attempt. -/
def ask (call : Call) : Attempt call.Reply := ExceptT.mk (.ask call fun answer =>
  .done (match answer with
    | .ok value => .ok value
    | .error failure => .error (.host failure)))

/-- Looks at the interrupt flag. -/
def poll : Attempt Bool := ExceptT.mk (.poll fun raised => .done (.ok raised))

/-- Leaves an event in the log. -/
def note (event : Event) : Attempt Unit := ExceptT.mk (.note event (.done (.ok ())))

/-- Leaves several events in the log. -/
def notes (events : List Event) : Attempt Unit :=
  ExceptT.lift (Dialogue.notes events)

/-- Ends with a result that needs no conversation. -/
def ofExcept (result : Except Error α) : Attempt α := ExceptT.mk (.done result)

end Attempt

/-! ## Running against a host -/

/-- A concrete host over a state `σ`: its answers, each with the state after the call, and whether
the interrupt flag is up. -/
structure Host (σ : Type) where
  answer : (call : Call) → σ → Except HostError call.Reply × σ
  raised : σ → Bool

/-- What became of a dialogue: its result, what it asked and reported in order, and the state in
which it left the host. -/
structure Run (σ α : Type) where
  value : α
  calls : List Call
  events : List Event
  state : σ

/-- Holds the dialogue with a host that is in a given state. -/
def Dialogue.run {σ α : Type} (host : Host σ) : Dialogue α → σ → Run σ α
  | .done value, state => ⟨value, [], [], state⟩
  | .ask call next, state =>
    let answered := host.answer call state
    let rest := (next answered.1).run host answered.2
    { rest with calls := call :: rest.calls }
  | .poll next, state => (next (host.raised state)).run host state
  | .note event next, state =>
    let rest := next.run host state
    { rest with events := event :: rest.events }

namespace Run

variable {σ α β : Type}

/-- The run of a conversation followed by another is the runs one after the other. -/
theorem run_bind (host : Host σ) (d : Dialogue α) (f : α → Dialogue β) (state : σ) :
    (d >>= f).run host state =
      let first := d.run host state
      let second := (f first.value).run host first.state
      ⟨second.value, first.calls ++ second.calls, first.events ++ second.events, second.state⟩ := by
  induction d generalizing state with
  | done a => simp [Dialogue.run]
  | ask call next ih => simp [Dialogue.run, ih]
  | poll next ih => simp [Dialogue.run, ih]
  | note event next ih => simp [Dialogue.run, ih]

end Run

end PathJail
