import PathJail.Session.Request

/-!
# Relabelled sessions

A change to a session, such as another count or another order of the same entries, can be one that
nothing but the session itself shows: a request to the changed session does what the same request
does to the session as it was, and the change is made to what comes out of it. That is an equation
between dialogues, `(f s).perform request = relabelled h f <$> s.perform request`, where the answers
may be relabelled too. The lemmas here bring it from the operations of a session to its requests.

* `relabelled`                — an outcome with the change made to it.
* `observe_map`, `advance_map`, `answer_map`, `opendir_map` — requests by the operation they make.
* `readDir_map`               — opening, reading and closing a directory in one.
-/

namespace PathJail.Session

variable {α : Type} {s : Session} {f : Session → Session} {h : Answer → Answer}
  {g : DirHandle → DirHandle} {wrap : α → Answer}

/-- The outcome of a request with its answer and its session changed. -/
def relabelled (h : Answer → Answer) (f : Session → Session)
    (outcome : Except Error Answer × Session) : Except Error Answer × Session :=
  (outcome.1.map h, f outcome.2)

theorem relabelled_id_fst (f : Session → Session) (outcome : Except Error Answer × Session) :
    (relabelled id f outcome).1 = outcome.1 := by
  obtain ⟨result, next⟩ := outcome
  cases result <;> rfl

/-- An answer that is not relabelled keeps its result. -/
theorem map_map_wrap (hWrap : ∀ a, h (wrap a) = wrap a) (result : Except Error α) :
    (result.map wrap).map h = result.map wrap := by
  cases result with
  | error e => rfl
  | ok a => exact congrArg Except.ok (hWrap a)

/-- A request that leaves the session as it is. -/
theorem observe_map {attempt other : Attempt α} (hWrap : ∀ a, h (wrap a) = wrap a)
    (hSame : other = attempt) :
    (f s).observe wrap other = relabelled h f <$> s.observe wrap attempt := by
  rw [hSame, observe, observe, map_bind]
  refine bind_congr fun result => ?_
  rw [map_pure, relabelled, map_map_wrap hWrap]

/-- A request that changes the session if it succeeds. -/
theorem advance_map {attempt other : Attempt Session} (hDone : h .done = .done)
    (hOther : other = f <$> attempt) :
    (f s).advance other = relabelled h f <$> s.advance attempt := by
  rw [advance, advance, hOther, ExceptT.run_map, bind_map_left, map_bind]
  refine bind_congr fun result => ?_
  cases result with
  | error e => rfl
  | ok next => exact congrArg (fun answer => Dialogue.done (Except.ok answer, f next)) hDone.symm

/-- A request with an answer of its own. -/
theorem answer_map {d other : Dialogue (Except Error α × Session)}
    (hWrap : ∀ a, h (wrap a) = wrap a) (hOther : other = Prod.map id f <$> d) :
    (other >>= fun answered => pure (answered.1.map wrap, answered.2)) =
      relabelled h f <$> (d >>= fun answered => pure (answered.1.map wrap, answered.2)) := by
  rw [hOther, bind_map_left, map_bind]
  refine bind_congr fun answered => ?_
  rw [map_pure, relabelled, map_map_wrap hWrap]
  rfl

/-- An opening, whose handle is relabelled with it. -/
theorem opendir_map {path : Text} (hHandle : ∀ handle, h (.handle handle) = .handle (g handle))
    (hOpen : (f s).opendir path = Prod.map g f <$> s.opendir path) :
    (f s).perform (.opendir path) = relabelled h f <$> s.perform (.opendir path) := by
  show ((f s).opendir path).run >>= _ = _ <$> ((s.opendir path).run >>= _)
  rw [hOpen, ExceptT.run_map, bind_map_left, map_bind]
  refine bind_congr fun result => ?_
  cases result with
  | error e => rfl
  | ok opened =>
    exact congrArg (fun answer => Dialogue.done (Except.ok answer, f opened.2))
      (hHandle opened.1).symm

/-- A listing is relabelled if opening, reading and closing are. -/
theorem readDir_map {path : Text} (hOpen : (f s).opendir path = Prod.map g f <$> s.opendir path)
    (hEntries : ∀ opened handle, (f opened).entries (g handle) =
      Prod.map id f <$> opened.entries handle)
    (hClose : ∀ read handle, (f read).closedir (g handle) = f <$> read.closedir handle) :
    (f s).readDir path = Prod.map id f <$> s.readDir path := by
  rw [readDir, readDir, hOpen, ExceptT.run_map, bind_map_left, map_bind]
  refine bind_congr fun result => ?_
  cases result with
  | error e => rfl
  | ok opened =>
    obtain ⟨handle, opened⟩ := opened
    show (f opened).entries (g handle) >>= _ = _
    rw [hEntries, bind_map_left, map_bind]
    refine bind_congr fun read => ?_
    show ((f read.2).closedir (g handle)).run >>= _ = _
    rw [hClose, ExceptT.run_map, bind_map_left, map_bind]
    refine bind_congr fun closed => ?_
    cases closed <;> rfl

end PathJail.Session
