import PathJail.Proofs.Dialogue.Interrupts
import PathJail.Proofs.Session.Failures
import PathJail.Proofs.Session.LinkDepth

/-!
# A raised interrupt stops the work

A session looks at the interrupt flag in its lookups and nowhere else. Every request that names a
path begins with a lookup of it, so with the flag up it ends before it asks the host for anything.
Between two lookups there are at most two calls: a look at a path, and then the reading of the link
that was found there, or the opening of the directory. So if the flag goes up during a call, one
more call is all that can follow, however long the chain of links is.

* `interruption`         — the error of a lookup that finds the flag up.
* `Attempt.Heedful`      — no call with the flag up from the start, and one behind any call.
* `heeds_followLinks`    — the walk along links, by induction on the links left.
* `interruptible_perform` — all requests that name a path.
* `interrupt_stops_work` — their runs.
-/

namespace PathJail

variable {σ α β : Type} {left room : Nat}

-- ---------------------------------------------------------------------------
-- Lookups with the flag up
-- ---------------------------------------------------------------------------

namespace Resolver

/-- The error of a lookup that finds the flag up. The path is looked at first. -/
def interruption (r : Resolver) (path : Text) : Error :=
  if path = [] then .emptyPath
  else if r.limits.maxPathLength ≤ Text.byteLength (r.source path) then
    .nameTooLong (Text.byteLength (r.source path)) r.limits.maxPathLength
  else .interrupted

/-- A lookup with the flag up fails, whatever the path. -/
theorem lookup_raised (r : Resolver) (path : Text) (follow : Bool) :
    r.lookup true path follow = .error (r.interruption path) := by
  refine lookup_of_confine_error ?_
  rw [confine_eq, interruption]
  split
  · rfl
  split <;> rfl

/-- The lookup of a request does so without a call. -/
theorem halts_find {r : Resolver} {path : Text} {follow : Bool}
    {R : Nat → Except Error Resolved → Prop} (hR : R left (.error (r.interruption path))) :
    (r.find path follow).Halts left R := by
  rw [find, Attempt.halts_bind, Attempt.halts_poll]
  show Attempt.Halts (Attempt.notes _ >>= _) left R
  rw [Attempt.halts_bind]
  refine Attempt.halts_notes _ ?_
  show R left (r.lookup true path follow)
  rw [lookup_raised]
  exact hR

/-- What would follow such a lookup does not come about. -/
theorem halts_find_bind {r : Resolver} {path : Text} {follow : Bool} {f : Resolved → Attempt α}
    {R : Nat → Except Error α → Prop} (hR : R left (.error (r.interruption path))) :
    Attempt.Halts (r.find path follow >>= f) left R :=
  (Attempt.halts_bind _ f).mpr (halts_find hR)

end Resolver

namespace Session

variable {s : Session} {path : Text}

/-- The error of a request for this path that finds the flag up: it is interrupted, unless there is
no path or its canonical form is too long. -/
def interruption (s : Session) (path : Text) : Error :=
  let canonical := s.resolver.realpath path true
  if path = [] then .emptyPath
  else if s.resolver.limits.maxPathLength ≤ Text.byteLength canonical then
    .nameTooLong (Text.byteLength canonical) s.resolver.limits.maxPathLength
  else .interrupted

/-- The canonical form of a path fails with the error of the path. -/
theorem interruption_realpath (hs : s.Confined) (hPath : path ≠ []) :
    s.resolver.interruption (s.resolver.realpath path true) = s.interruption path := by
  have hAbsolute := isAbsolute_realpath hs path
  have hSome : s.resolver.realpath path true ≠ [] := by
    intro hEmpty
    rw [hEmpty] at hAbsolute
    cases hAbsolute
  rw [Resolver.interruption, if_neg hSome, Resolver.source_of_absolute hAbsolute, interruption,
    if_neg hPath]

/-- Both ways from a requested path to its lookup come to the same error. -/
theorem interruption_normalized (hs : s.Confined) {virtual : Text}
    (hVirtual : s.normalized path = .ok virtual) :
    s.resolver.interruption virtual = s.interruption path := by
  have hPath : path ≠ [] := by
    rintro rfl
    cases hVirtual
  have hSame := lookup_realpath hs hVirtual true true
  rw [Resolver.lookup_raised, Resolver.lookup_raised, interruption_realpath hs hPath] at hSame
  exact (Except.error.inj hSame).symm

end Session

-- ---------------------------------------------------------------------------
-- Attempts that heed the flag
-- ---------------------------------------------------------------------------

namespace Attempt

/-- With the flag up from the start the attempt fails with this error and makes no call. If the flag
goes up during a call, one more follows at most. -/
structure Heedful (x : Attempt α) (e : Error) : Prop where
  stops : x.Halts 0 fun _ result => result = .error e
  heeds : x.Heeds 1 fun _ _ => True

variable {x : Attempt α} {f : α → Attempt β} {e : Error} {call : Call}

theorem heedful_throw (e : Error) : (throw e : Attempt α).Heedful e := ⟨rfl, trivial⟩

/-- An attempt that fails without a call if the flag is up, and what follows it else. -/
theorem heedful_bind {Q : α → Prop} (hStops : x.Halts 0 fun _ result => result = .error e)
    (hSilent : x.Every (fun _ => False) Q) (hNext : ∀ a, (f a).Heeds 1 fun _ _ => True) :
    Attempt.Heedful (x >>= f) e := by
  refine ⟨?_, heeds_of_silent_bind hSilent hNext⟩
  rw [halts_bind]
  refine Dialogue.Halts.mono hStops ?_
  rintro left _ rfl
  rfl

/-- Where no call is made there is none to heed the flag behind. -/
theorem heeds_of_silent {Q : α → Prop} (h : x.Every (fun _ => False) Q)
    {R : Nat → Except Error α → Prop} : x.Heeds room R :=
  Dialogue.heeds_of_silent h room R

/-- An attempt without a call halts with the calls that it was left. -/
theorem halts_silent (h : x.Every (fun _ => False) fun _ => True) (left : Nat) :
    x.Halts left fun _ _ => True :=
  Dialogue.Halts.mono (halts_of_silent h left) fun _ _ _ => trivial

/-- Nothing follows a single call. -/
theorem heeds_one (call : Call) : (ask call).Heeds 1 fun _ _ => True :=
  heeds_ask (fun _ => trivial) fun _ => trivial

/-- Behind a single call, what makes no call follows. -/
theorem heeds_ask_bind {f : call.Reply → Attempt β}
    (hSilent : ∀ value, (f value).Every (fun _ => False) fun _ => True) :
    Attempt.Heeds (ask call >>= f) 1 fun _ _ => True :=
  Heeds.bind (heeds_ask (fun _ => trivial) fun value => halts_silent (hSilent value) 1)
    fun value => heeds_of_silent (hSilent value)

end Attempt

-- ---------------------------------------------------------------------------
-- Requests on files
-- ---------------------------------------------------------------------------

namespace Resolver

/-- **A lookup** looks at the flag first; what follows it has one call of its own behind any. -/
theorem heedful_find (r : Resolver) (path : Text) (follow : Bool) {f : Resolved → Attempt α}
    (hNext : ∀ resolved, (f resolved).Heeds 1 fun _ _ => True) :
    Attempt.Heedful (r.find path follow >>= f) (r.interruption path) :=
  Attempt.heedful_bind (Q := fun _ => True) (halts_find rfl) (by simp) hNext

end Resolver

namespace Session

variable {s : Session} {e : Error}

/-- A path that cannot be normalized is empty. -/
theorem heedful_normalized (path : Text) {f : Text → Attempt α}
    (hNext : ∀ virtual, s.normalized path = .ok virtual →
      (f virtual).Heedful (s.interruption path)) :
    Attempt.Heedful (Attempt.ofExcept (s.normalized path) >>= f) (s.interruption path) := by
  by_cases hPath : path = []
  · have hNone : s.normalized path = .error .emptyPath := if_pos hPath
    rw [hNone, interruption, if_pos hPath]
    exact Attempt.heedful_throw .emptyPath
  · have hVirtual : s.normalized path = .ok (Path.trimSlash (Path.clean (s.anchored path))) :=
      if_neg hPath
    rw [hVirtual]
    exact hNext _ hVirtual

/-- A path is normalized and looked up. -/
theorem heedful_looked_up (hs : s.Confined) (path : Text) {ask : Text → Resolved → Attempt α}
    (hAsk : ∀ virtual resolved, (ask virtual resolved).Heeds 1 fun _ _ => True) :
    Attempt.Heedful (do
      let virtual ← Attempt.ofExcept (s.normalized path)
      let resolved ← s.resolver.find virtual true
      ask virtual resolved) (s.interruption path) := by
  refine heedful_normalized path fun virtual hVirtual => ?_
  rw [← interruption_normalized hs hVirtual]
  exact s.resolver.heedful_find virtual true (hAsk virtual)

/-- The target of a request is looked up before any call. -/
theorem halts_target (hs : s.Confined) (hNormal : s.bypasses = false) (path : Text) :
    (s.target path).Halts 0 fun _ result => result = .error (s.interruption path) := by
  rw [target, hNormal, if_neg Bool.false_ne_true, resolve]
  by_cases hPath : path = []
  · rw [if_pos hPath, interruption, if_pos hPath]
    exact (Attempt.heedful_throw .emptyPath).stops
  · rw [if_neg hPath, ← interruption_realpath hs hPath]
    exact Resolver.halts_find_bind rfl

/-- The real path is put in the place of the requested one. -/
theorem heedful_target (hs : s.Confined) (hNormal : s.bypasses = false) (path : Text)
    {ask : Text → Attempt α} (hAsk : ∀ real, (ask real).Heeds 1 fun _ _ => True) :
    Attempt.Heedful (s.target path >>= ask) (s.interruption path) :=
  Attempt.heedful_bind (halts_target hs hNormal path) (every_target hs hNormal path) hAsk

/-- Of two paths, the first one is looked up first. -/
theorem heedful_two_targets (hs : s.Confined) (hNormal : s.bypasses = false) (path other : Text)
    {ask : Text → Text → Attempt α} (hAsk : ∀ real second, (ask real second).Heeds 1 fun _ _ => True) :
    Attempt.Heedful (do
      let real ← s.target path
      let second ← s.target other
      ask real second) (s.interruption path) :=
  heedful_target hs hNormal path fun real =>
    Attempt.heeds_of_silent_bind (every_target hs hNormal other) (hAsk real)

/-- The test for an alias is a lookup, or needs none; then the lookup behind it is the first. -/
theorem heedful_deletable (hs : s.Confined) (path : Text) {ask : Text → Attempt α}
    (hAsk : ∀ real, (ask real).Heeds 1 fun _ _ => True) :
    Attempt.Heedful (s.deletable path >>= ask) (s.interruption path) := by
  refine Attempt.heedful_bind (Attempt.Heedful.stops ?_) (every_deletable hs path) hAsk
  rw [deletable]
  refine heedful_normalized path fun virtual hVirtual => ?_
  rw [← interruption_normalized hs hVirtual]
  by_cases hEmpty : s.resolver.aliases.isEmpty = true
  · have hNone : s.isAlias virtual = pure false := if_pos hEmpty
    rw [hNone, pure_bind]
    exact s.resolver.heedful_find virtual true fun _ =>
      Attempt.heeds_of_silent (Q := fun _ => True) (by simp)
  · have hTest : (s.isAlias virtual).Halts 0 fun _ result =>
        result = .error (s.resolver.interruption virtual) := by
      rw [isAlias, if_neg hEmpty]
      exact Resolver.halts_find_bind rfl
    refine Attempt.heedful_bind hTest (every_isAlias s virtual) fun isAlias => ?_
    refine Attempt.heeds_of_silent (Q := fun _ => True) ?_
    cases isAlias <;> simp

/-- Looking at an entry makes two calls at most. -/
theorem heedful_lstat (hs : s.Confined) (hNormal : s.bypasses = false) (path : Text) :
    (s.lstat path).Heedful (s.interruption path) := by
  rw [lstat, hNormal, if_neg Bool.false_ne_true]
  refine heedful_looked_up hs path fun virtual resolved => ?_
  dsimp only
  split
  · exact Attempt.heeds_one _
  refine Attempt.heeds_of_silent_bind (every_isAlias s virtual) fun isAlias => ?_
  split
  · exact Attempt.heeds_one _
  -- of the two calls the second is the one that may follow
  refine Attempt.Heeds.bind (Attempt.heeds_ask (fun _ => trivial) fun metadata => ?_)
    fun metadata => ?_
  · show Attempt.Halts (if metadata.fileType = .symlink then _ else _) 1 _
    split
    · exact Attempt.halts_ask (fun _ => trivial) fun _ => trivial
    · trivial
  · split
    · exact Attempt.heeds_one _
    · trivial

theorem heedful_readlink (hs : s.Confined) (hNormal : s.bypasses = false) (path : Text) :
    (s.readlink path).Heedful (s.interruption path) := by
  rw [readlink, hNormal, if_neg Bool.false_ne_true]
  by_cases hPath : path = []
  · rw [if_pos hPath, interruption, if_pos hPath]
    exact Attempt.heedful_throw .emptyPath
  rw [if_neg hPath, ← interruption_realpath hs hPath]
  refine s.resolver.heedful_find _ true fun resolved => ?_
  cases resolved.virtual with
  | some _ => exact Attempt.heeds_one _
  | none =>
    refine Attempt.heeds_of_silent_bind (Q := fun _ => True) ?_ fun real => Attempt.heeds_one _
    simp

/-- Behind the call that moves the host nothing more is asked for. -/
theorem heedful_chdir (hs : s.Confined) (hNormal : s.bypasses = false) (path : Text) :
    (s.chdir path).Heedful (s.interruption path) := by
  rw [chdir, hNormal, if_neg Bool.false_ne_true]
  refine heedful_looked_up hs path fun virtual resolved => Attempt.heeds_ask_bind fun _ => ?_
  simp

-- ---------------------------------------------------------------------------
-- The walk along links
-- ---------------------------------------------------------------------------

/-- The host shows a link. -/
def isLink : Except HostError Metadata → Bool
  | .ok metadata => metadata.fileType = .symlink
  | .error _ => false

/-- What the session does at a link, with so many that it may still follow. -/
def atLink (s : Session) (real : Text) : Nat → Attempt Text
  | 0 => do
    Attempt.note (.tooManyLinks (s.log.path real) s.resolver.limits.maxLinks)
    throw (.host (.code Errno.tooManyLinks))
  | left + 1 => Attempt.ask (.readLink real) >>= s.goOn left real

/-- One round of the walk: a look at the path, and then what is done at a link. -/
theorem followLinks_eq (s : Session) (left : Nat) (real : Text) :
    s.followLinks left real = Attempt.reply (.lstat real) >>= fun answer =>
      if isLink answer then s.atLink real left else pure real := by
  cases left with
  | zero =>
    rw [followLinks]
    refine bind_congr fun answer => ?_
    cases answer with
    | error failure => rfl
    | ok metadata => by_cases hLink : metadata.fileType = .symlink <;> simp [isLink, atLink, hLink]
  | succ left =>
    rw [followLinks]
    refine bind_congr fun answer => ?_
    cases answer with
    | error failure => rfl
    | ok metadata =>
      by_cases hLink : metadata.fileType = .symlink
      · simp only [hLink, ne_eq, not_true_eq_false, if_false, isLink, decide_true, if_true]
        refine bind_congr fun target => ?_
        cases target <;> rfl
      · simp [isLink, hLink]

/-- Behind the target of a link the lookup finds the flag up. -/
theorem halts_goOn (s : Session) (left : Nat) (real : Text) (target : LinkTarget)
    {R : Nat → Except Error Text → Prop} (hR : ∀ e, R room (.error e)) :
    (s.goOn left real target).Halts room R := by
  cases target with
  | bytes raw => exact hR _
  | text target =>
    rw [goOn, Attempt.halts_bind, Attempt.halts_note]
    exact Resolver.halts_find_bind (hR _)

/-- A walk that comes to a path although the flag went up has a call left. -/
def CallLeft (rest : Nat) (result : Except Error Text) : Prop := ∀ last, result = .ok last → rest = 1

/-- Nothing is said of a walk that fails. -/
theorem callLeft_error (rest : Nat) (e : Error) : CallLeft rest (.error e) := by
  rintro last ⟨⟩

/-- Behind one call the walk may come to a path if none was made since. -/
theorem callLeft_ok (real : Text) : CallLeft 1 (.ok real) := fun _ _ => rfl

/-- At a link it is read, or nothing is asked for, and then the walk fails. -/
theorem halts_atLink (s : Session) (left : Nat) (real : Text) :
    (s.atLink real left).Halts 1 CallLeft := by
  cases left with
  | zero => exact callLeft_error 1 _
  | succ left =>
    rw [atLink, Attempt.halts_bind]
    exact Attempt.halts_ask (fun _ => callLeft_error 0 _) fun target =>
      s.halts_goOn left real target (callLeft_error 0)

/-- The look at the path is a call like any other. -/
theorem heeds_followLinks_of_atLink {left : Nat} {real : Text}
    (h : (s.atLink real left).Heeds 1 CallLeft) : (s.followLinks left real).Heeds 1 CallLeft := by
  rw [followLinks_eq]
  refine Attempt.Heeds.bind (Attempt.heeds_reply fun answer => ?_) fun answer => ?_
  · show Attempt.Halts (if isLink answer then s.atLink real left else pure real) 1 _
    split
    · exact s.halts_atLink left real
    · exact callLeft_ok real
  · split
    · exact h
    · trivial

/-- **The walk along links.** If the flag goes up on the way, at most one more call is made; and if
the walk comes to a path all the same, none is. Induction on the links left. -/
theorem heeds_followLinks (s : Session) (left : Nat) (real : Text) :
    (s.followLinks left real).Heeds 1 CallLeft := by
  induction left generalizing real with
  | zero =>
    refine heeds_followLinks_of_atLink (Attempt.heeds_of_silent (Q := fun _ => True) ?_)
    simp [atLink]
  | succ left ih =>
    refine heeds_followLinks_of_atLink (Attempt.Heeds.bind ?_ fun target => ?_)
    · exact Attempt.heeds_ask (fun _ => callLeft_error 1 _) fun target =>
        s.halts_goOn left real target (callLeft_error 1)
    cases target with
    | bytes raw => exact Attempt.heeds_of_silent (Q := fun _ => True) (by simp [goOn])
    | text target =>
      refine Attempt.heeds_of_silent_bind (Q := fun _ => True) (by simp) fun _ => ?_
      exact Attempt.heeds_of_silent_bind (Q := fun _ => True) (by simp) fun resolved =>
        ih resolved.real

-- ---------------------------------------------------------------------------
-- Listing
-- ---------------------------------------------------------------------------

/-- Behind the opening of the directory nothing more is asked for. -/
theorem openListed_eq (s : Session) (virtual real : Text) :
    ∃ rest, s.openListed virtual real = Attempt.reply (.openDir real) >>= rest ∧
      ∀ answer, (rest answer).Every (fun _ => False) fun _ => True := by
  refine ⟨_, rfl, fun answer => ?_⟩
  cases answer with
  | error failure => simp
  | ok listing =>
    simp only [Attempt.every_bind, Attempt.every_pure]
    exact (every_aliasNames s virtual real).mono fun _ _ => trivial

/-- Opening a directory makes the one call that is left. -/
theorem halts_openListed (s : Session) (virtual real : Text) :
    (s.openListed virtual real).Halts 1 fun _ _ => True := by
  obtain ⟨rest, hOpen, hSilent⟩ := s.openListed_eq virtual real
  rw [hOpen, Attempt.halts_bind]
  exact Attempt.halts_reply fun answer => Attempt.halts_silent (hSilent answer) 0

/-- Behind that call there is no other. -/
theorem heeds_openListed (s : Session) (virtual real : Text) :
    (s.openListed virtual real).Heeds 1 fun _ _ => True := by
  obtain ⟨rest, hOpen, hSilent⟩ := s.openListed_eq virtual real
  rw [hOpen]
  refine Attempt.Heeds.bind (Attempt.heeds_reply fun answer => ?_) fun answer => ?_
  · exact Attempt.halts_silent (hSilent answer) 1
  · exact Attempt.heeds_of_silent (hSilent answer)

/-- **Opening a directory**: the call that a walk has left is the one that opens. -/
theorem heedful_opendir (hs : s.Confined) (hNormal : s.bypasses = false) (path : Text) :
    (s.opendir path).Heedful (s.interruption path) := by
  rw [opendir, hNormal, if_neg Bool.false_ne_true]
  refine heedful_looked_up hs path fun virtual resolved => ?_
  refine Attempt.Heeds.bind ?_ (s.heeds_openListed virtual)
  refine Dialogue.Heeds.mono (s.heeds_followLinks _ resolved.real) fun rest result hRest => ?_
  cases result with
  | error e => trivial
  | ok real =>
    obtain rfl := hRest real rfl
    exact s.halts_openListed virtual real

-- ---------------------------------------------------------------------------
-- All requests
-- ---------------------------------------------------------------------------

/-- With the flag up from the start the request fails with this error, makes no call and leaves the
session as it is. If the flag goes up during a call, one more follows at most. -/
structure Interruptible (s : Session) (d : Dialogue (Except Error Answer × Session)) (e : Error) :
    Prop where
  stops : d.Halts 0 fun _ outcome => outcome = (.error e, s)
  heeds : d.Heeds 1 fun _ _ => True

/-- What a request makes of an attempt makes no calls. -/
theorem interruptible_of_heedful {x : Attempt α}
    {f : Except Error α → Dialogue (Except Error Answer × Session)} (h : x.Heedful e)
    (hFail : f (.error e) = pure (.error e, s))
    (hSilent : ∀ result, (f result).Every (fun _ => False) fun _ => True) :
    s.Interruptible (x.run >>= f) e := by
  constructor
  · rw [Dialogue.halts_bind]
    refine h.stops.mono ?_
    rintro left _ rfl
    rw [hFail]
    rfl
  · refine Dialogue.Heeds.bind (h.heeds.mono fun left result _ => ?_)
      fun result => Dialogue.heeds_of_silent (hSilent result) 1 _
    exact (Dialogue.halts_of_silent (hSilent result) left).mono fun _ _ _ => trivial

/-- A request that leaves the session as it is. -/
theorem interruptible_observe {x : Attempt α} (h : x.Heedful e) (wrap : α → Answer) :
    s.Interruptible (s.observe wrap x) e :=
  interruptible_of_heedful h rfl fun _ => trivial

/-- A change of the working directory keeps it in the last step. -/
theorem interruptible_chdir (hs : s.Confined) (hNormal : s.bypasses = false) (path : Text) :
    s.Interruptible (s.perform (.chdir path)) (s.interruption path) := by
  refine interruptible_of_heedful (heedful_chdir hs hNormal path) rfl fun result => ?_
  cases result with
  | error e => trivial
  | ok next => trivial

/-- An opening keeps its record in the last step. -/
theorem interruptible_opendir (hs : s.Confined) (hNormal : s.bypasses = false) (path : Text) :
    s.Interruptible (s.perform (.opendir path)) (s.interruption path) := by
  refine interruptible_of_heedful (heedful_opendir hs hNormal path) rfl fun result => ?_
  cases result with
  | error e => trivial
  | ok made => trivial

/-- What was opened is read and closed without a call. -/
theorem interruptible_readDir (hs : s.Confined) (hNormal : s.bypasses = false) (path : Text) :
    s.Interruptible (s.perform (.readDir path)) (s.interruption path) := by
  rw [perform, readDir, bind_assoc]
  refine interruptible_of_heedful (heedful_opendir hs hNormal path) rfl fun result => ?_
  cases result with
  | error e => trivial
  | ok made =>
    obtain ⟨handle, opened⟩ := made
    rw [Dialogue.every_bind, Dialogue.every_bind]
    refine (every_entries opened handle).mono fun outcome _ => ?_
    rw [Dialogue.every_bind]
    refine Dialogue.Every.mono (every_closedir outcome.2 handle) fun result _ => ?_
    cases result with
    | error e => trivial
    | ok closed => trivial

end Session

/-- The paths that a request comes with. -/
def Request.requested : Request → List Text
  | .creat p _ | .readlink p => [p]
  | request => request.named

namespace Session

variable {s : Session}

/-- The error of a request that finds the flag up. To create a file is refused in any case. -/
def stopped (s : Session) (request : Request) (path : Text) : Error :=
  match request with
  | .creat _ _ => .unsupported "creat".toList
  | _ => s.interruption path

/-- **All requests that come with a path.** -/
theorem interruptible_perform (hs : s.Confined) (hNormal : s.bypasses = false) {request : Request}
    {path : Text} {others : List Text} (hRequested : request.requested = path :: others) :
    s.Interruptible (s.perform request) (s.stopped request path) := by
  cases request with
  | creat => exact interruptible_observe (Attempt.heedful_throw _) _
  | lstat =>
    obtain ⟨rfl, -⟩ := List.cons.inj hRequested
    exact interruptible_observe (heedful_lstat hs hNormal _) _
  | readlink =>
    obtain ⟨rfl, -⟩ := List.cons.inj hRequested
    exact interruptible_observe (heedful_readlink hs hNormal _) _
  | link | symlink | rename =>
    obtain ⟨rfl, -⟩ := List.cons.inj hRequested
    refine interruptible_observe (heedful_two_targets hs hNormal _ _ fun _ _ => ?_) _
    exact Attempt.heeds_one _
  | rmdir =>
    obtain ⟨rfl, -⟩ := List.cons.inj hRequested
    rw [perform, Session.rmdir, hNormal, if_neg Bool.false_ne_true]
    refine interruptible_observe (heedful_deletable hs _ fun _ => ?_) _
    exact Attempt.heeds_one _
  | unlink =>
    obtain ⟨rfl, -⟩ := List.cons.inj hRequested
    rw [perform, Session.unlink, Resolver.hasBase, hs.base]
    refine interruptible_observe (heedful_deletable hs _ fun _ => ?_) _
    exact Attempt.heeds_one _
  | chdir =>
    obtain ⟨rfl, -⟩ := List.cons.inj hRequested
    exact interruptible_chdir hs hNormal _
  | opendir =>
    obtain ⟨rfl, -⟩ := List.cons.inj hRequested
    exact interruptible_opendir hs hNormal _
  | readDir =>
    obtain ⟨rfl, -⟩ := List.cons.inj hRequested
    exact interruptible_readDir hs hNormal _
  | readdir | entries | closedir | chroot | installAliases | configure | setPhase | teardown =>
    cases hRequested
  | _ =>
    obtain ⟨rfl, -⟩ := List.cons.inj hRequested
    refine interruptible_observe (heedful_target hs hNormal _ fun _ => ?_) _
    exact Attempt.heeds_one _

/-- A request that fails leaves one more opening to count at most, so no directory is left open. -/
theorem left_by_failure {request : Request} (hRequested : request.requested ≠ []) {e : Error}
    {next : Session} (h : (s.perform request).Ends (.error e, next)) :
    next = s ∨ next = s.counted := by
  have hObserved {α : Type} {wrap : α → Answer} {attempt : Attempt α}
      (hEnds : (s.observe wrap attempt).Ends (.error e, next)) : next = s ∨ next = s.counted := by
    have hEvery : (s.observe wrap attempt).Every (fun _ => True) fun outcome => outcome.2 = s :=
      every_observe (Attempt.every_true _) fun _ => rfl
    exact Or.inl (hEvery.ends hEnds)
  cases request with
  | chdir | opendir => exact Or.inl (eq_of_moves_error rfl h)
  | readDir path =>
    have hEvery : (s.perform (.readDir path)).Every (fun _ => True) fun outcome =>
        outcome.2 = s ∨ outcome.2 = s.counted := by
      rw [perform, Dialogue.every_bind]
      exact (every_readDir_counted s path).mono fun _ => id
    exact hEvery.ends h
  | readdir | entries | closedir | chroot | installAliases | configure | setPhase | teardown =>
    exact absurd rfl hRequested
  | _ => exact hObserved h

/--
**A raised interrupt stops the work.** In every session that comes about, with a base and while it
serves its client, for every request that comes with a path or two, with any text, and for every
host:

* If the flag is up when the request is made, the request fails and leaves the session as it is, and
  the host is asked for nothing. It is interrupted, unless its first path is empty or too long, or
  it is to create a file.
* If the flag goes up during a call, whichever of them it is, and stays up while the request goes
  on, at most one more call is made. The chain of links may be as long as it likes.
* Where the request fails, the session is what it was, with one more opening to count at most.
-/
theorem interrupt_stops_work (hReach : s.Reachable) (hNormal : s.bypasses = false)
    {request : Request} {path : Text} {others : List Text}
    (hRequested : request.requested = path :: others) (host : Host σ) (state : σ) :
    let run := (s.perform request).run host state
    (host.raised state = true →
      run.value = (.error (s.stopped request path), s) ∧ run.calls = []) ∧
    (∀ before call after, run.calls = before ++ call :: after →
      host.UpAlong (host.after state (before ++ [call])) after → after.length ≤ 1) ∧
    ∀ e next, run.value = (.error e, next) → next = s ∨ next = s.counted := by
  intro run
  obtain ⟨hStops, hHeeds⟩ := interruptible_perform (hReach.confined hNormal) hNormal hRequested
  refine ⟨fun hRaised => ?_, fun before call after hCalls hUp => hHeeds.run hCalls hUp, ?_⟩
  · obtain ⟨hCalls, hValue⟩ := hStops.run_zero hRaised
    exact ⟨hValue, hCalls⟩
  · intro e next hValue
    have hEnds := Dialogue.ends_run host (s.perform request) state
    rw [hValue] at hEnds
    refine left_by_failure ?_ hEnds
    rw [hRequested]
    exact List.cons_ne_nil _ _

/-- The two links that lead to each other, on a host that raises the flag during its first call. Its
state is the number of calls that were made. -/
def raisingHost : Host Nat where
  answer call made := ((circleHost.toHost.answer call false).1, made + 1)
  raised made := 1 ≤ made

/-- The walk along the circle ends behind the first link. -/
theorem calls_raisingHost :
    ((storeSession.perform (.opendir "/a".toList)).run raisingHost 0).calls =
      [.lstat "/store/a".toList, .readLink "/store/a".toList] := by
  have hWalk : (storeSession.followLinks 32 "/store/a".toList).Yields raisingHost 0
      (.error (storeSession.resolver.interruption
        (storeSession.linkTarget "/store/a".toList "b".toList)))
      [.lstat "/store/a".toList, .readLink "/store/a".toList] :=
    yields_followLinks_end (.lost ⟨_, rfl, rfl⟩ rfl (Resolver.lookup_raised _ _ true))
  have hStart : storeSession.translated (raisingHost.raised 0) "/a".toList =
      .ok "/store/a".toList := chain_circle.start
  exact (yields_perform_opendir (opendir_of_walk_error rfl hStart hWalk)).calls

/-- The look at the link raises the flag, and reading it is the one call that follows. -/
theorem interrupt_stops_work_circle :
    storeSession.Reachable ∧ storeSession.bypasses = false ∧
      raisingHost.UpAlong 1 [.readLink "/store/a".toList] ∧
      [Call.readLink "/store/a".toList].length ≤ 1 ∧
      ((storeSession.perform (.opendir "/a".toList)).run raisingHost 1).value =
        (.error .interrupted, storeSession) := by
  have hUp : raisingHost.UpAlong 1 [.readLink "/store/a".toList] := by
    intro before hBefore
    rcases List.prefix_cons_iff.mp hBefore with rfl | ⟨rest, rfl, hRest⟩
    · rfl
    · rw [List.prefix_nil.mp hRest]
      rfl
  have hPath : storeSession.resolver.realpath "/a".toList true = "/a".toList := by
    rw [Resolver.realpath, Path.clean_eq_normal]
    rfl
  have hError : storeSession.stopped (.opendir "/a".toList) "/a".toList = .interrupted := by
    show storeSession.interruption "/a".toList = .interrupted
    rw [interruption, hPath]
    rfl
  obtain ⟨-, hBehind, -⟩ := interrupt_stops_work reachable_storeSession rfl
    (rfl : (Request.opendir "/a".toList).requested = ["/a".toList]) raisingHost 0
  obtain ⟨hRaised, -⟩ := interrupt_stops_work reachable_storeSession rfl
    (rfl : (Request.opendir "/a".toList).requested = ["/a".toList]) raisingHost 1
  refine ⟨reachable_storeSession, rfl, hUp, ?_, ?_⟩
  · exact hBehind [] (.lstat "/store/a".toList) _ calls_raisingHost hUp
  · rw [(hRaised rfl).1, hError]

end Session

end PathJail
