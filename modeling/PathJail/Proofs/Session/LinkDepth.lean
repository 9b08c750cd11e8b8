import PathJail.Proofs.Session.Listing
import PathJail.Proofs.Session.LinkWalk
import PathJail.Proofs.Session.Translation

/-!
# How far the walk along links goes

The targets of symbolic links are the host's, and they may lead round in a circle. Nothing but the
limit on links ends such a walk. Each link costs two calls, one to see it and one to read it; the
path that the walk ends at costs one call more. So the calls say how many links were followed.

* `callsAlong`          — what the session asks along links that stand one behind the other.
* `Chain`               — the real paths of the walk that a request to open a directory makes.
* `followLinks_along`   — the walk along a number of links, by induction on that number.
* `followLinks_bounded` — what any walk asks at most, by induction on the links left.
* `opendir_link_depth`  — the request itself.
-/

namespace PathJail

variable {σ : Type} {host : Host σ} {state : σ} {calls : List Call} {reals : Nat → Text}

-- ---------------------------------------------------------------------------
-- The calls along links
-- ---------------------------------------------------------------------------

/-- What a session asks along the first `count` of these links: it looks at each, and reads it. -/
def callsAlong (reals : Nat → Text) (count : Nat) : List Call :=
  (List.range count).flatMap fun i => [.lstat (reals i), .readLink (reals i)]

/-- One link more is one look and one reading more. -/
theorem callsAlong_succ (reals : Nat → Text) (count : Nat) : callsAlong reals (count + 1) =
    callsAlong reals count ++ [.lstat (reals count), .readLink (reals count)] := by
  rw [callsAlong, List.range_succ, List.flatMap_append]
  rfl

/-- The host shows a link at path number `i`, behind what was asked along those before it. -/
def LinkAt (host : Host σ) (state : σ) (reals : Nat → Text) (i : Nat) : Prop :=
  ShowsLink host (host.after state (callsAlong reals i)) (reals i)

/-- How many of the calls have this name. -/
def callCount (name : String) (calls : List Call) : Nat := (calls.map Call.name).count name

@[simp] theorem callCount_nil (name : String) : callCount name [] = 0 := rfl

/-- A call counts if it has the name. -/
@[simp] theorem callCount_cons (name : String) (call : Call) (calls : List Call) :
    callCount name (call :: calls) = callCount name calls + if call.name = name then 1 else 0 := by
  rw [callCount, List.map_cons, List.count_cons]
  simp only [beq_iff_eq]
  rfl

@[simp] theorem callCount_append (name : String) (first second : List Call) :
    callCount name (first ++ second) = callCount name first + callCount name second := by
  rw [callCount, List.map_append, List.count_append]
  rfl

/-- These calls look at so many paths, read so many links and open so many directories. -/
structure Tally (calls : List Call) (looks reads opens : Nat) : Prop where
  looks : callCount "lstat" calls = looks
  reads : callCount "readlink" calls = reads
  opens : callCount "opendir" calls = opens

/-- Along a chain there are as many looks as readings, and nothing is opened. -/
theorem tally_callsAlong (reals : Nat → Text) (count : Nat) :
    Tally (callsAlong reals count) count count 0 := by
  induction count with
  | zero => exact ⟨rfl, rfl, rfl⟩
  | succ count ih =>
    obtain ⟨hLooks, hReads, hOpens⟩ := ih
    rw [callsAlong_succ]
    constructor <;> simp [Call.name, hLooks, hReads, hOpens]

/-- A last look, behind the links. -/
theorem tally_look (reals : Nat → Text) (count : Nat) :
    Tally (callsAlong reals count ++ [.lstat (reals count)]) (count + 1) count 0 := by
  obtain ⟨hLooks, hReads, hOpens⟩ := tally_callsAlong reals count
  constructor <;> simp [Call.name, hLooks, hReads, hOpens]

/-- The opening is counted once. -/
theorem Tally.opened {looks reads opens : Nat} (h : Tally calls looks reads opens) (real : Text) :
    Tally (calls ++ [.openDir real]) looks reads (opens + 1) := by
  obtain ⟨hLooks, hReads, hOpens⟩ := h
  constructor <;> simp [Call.name, hLooks, hReads, hOpens]

/-- What a walk along this many links asks at most. -/
structure WithinLinks (links : Nat) (calls : List Call) : Prop where
  looks : callCount "lstat" calls ≤ links + 1
  reads : callCount "readlink" calls ≤ links
  opens : callCount "opendir" calls = 0
  length : calls.length ≤ 2 * links + 1

/-- A link in front makes one reading more. -/
theorem WithinLinks.link {links : Nat} (h : WithinLinks links calls) (real : Text) :
    WithinLinks (links + 1) (.lstat real :: .readLink real :: calls) := by
  obtain ⟨hLooks, hReads, hOpens, hLength⟩ := h
  constructor <;> simp [Call.name] <;> omega

namespace Session

variable {s : Session} {left : Nat} {real next path start : Text} {result : Except Error Text}

-- ---------------------------------------------------------------------------
-- The walk
-- ---------------------------------------------------------------------------

/-- The link at `real` can be read, its target is text, and the lookup of that comes to `next`. -/
def LeadsTo (s : Session) (host : Host σ) (state : σ) (real next : Text) : Prop :=
  ∃ target resolved, targetOf host state real = .ok (.text target) ∧
    s.resolver.lookup (host.raised (host.after state [.lstat real, .readLink real]))
      (s.linkTarget real target) true = .ok resolved ∧ resolved.real = next

/-- The real paths of the walk that a request to open `path` makes: the translation of `path`, and
from each link the path that it leads to, as far as the session may follow links. -/
structure Chain (s : Session) (host : Host σ) (state : σ) (path : Text) (reals : Nat → Text) :
    Prop where
  start : s.translated (host.raised state) path = .ok (reals 0)
  next : ∀ i < s.resolver.limits.maxLinks, (∀ j ≤ i, LinkAt host state reals j) →
    s.LeadsTo host (host.after state (callsAlong reals i)) (reals i) (reals (i + 1))

/-- One link of the walk. -/
theorem followLinks_link (shown : ShowsLink host state real)
    (hLeads : s.LeadsTo host state real next)
    (hRest : (s.followLinks left next).Yields host
      (host.after state [.lstat real, .readLink real]) result calls) :
    (s.followLinks (left + 1) real).Yields host state result
      (.lstat real :: .readLink real :: calls) := by
  obtain ⟨target, resolved, read, lookup, rfl⟩ := hLeads
  exact yields_followLinks_read shown read (yields_goOn lookup hRest)

/-- **The walk along `count` links.** Induction on `count`, from the far end: the last link is put in
front of what follows it, and the walk up to it has one link more left. -/
theorem followLinks_along {count : Nat} (hLinks : ∀ i < count, LinkAt host state reals i)
    (hLeads : ∀ i < count,
      s.LeadsTo host (host.after state (callsAlong reals i)) (reals i) (reals (i + 1)))
    (hRest : (s.followLinks left (reals count)).Yields host
      (host.after state (callsAlong reals count)) result calls) :
    (s.followLinks (left + count) (reals 0)).Yields host state result
      (callsAlong reals count ++ calls) := by
  induction count generalizing left calls with
  | zero => exact hRest
  | succ count ih =>
    rw [callsAlong_succ, Host.after_append] at hRest
    have hLast := followLinks_link (hLinks count (Nat.lt_succ_self count))
      (hLeads count (Nat.lt_succ_self count)) hRest
    have hBefore := ih (fun i hi => hLinks i (Nat.lt_succ_of_lt hi))
      (fun i hi => hLeads i (Nat.lt_succ_of_lt hi)) hLast
    rw [callsAlong_succ, List.append_assoc]
    have hLeft : left + (count + 1) = left + 1 + count := by omega
    rw [hLeft]
    exact hBefore

/-- The end of a walk has no link of its own to read, but for one that is unreadable. -/
theorem withinLinks_of_end (h : s.LinkEnd host state real left result calls) :
    WithinLinks left calls := by
  cases h with
  | place | exhausted => constructor <;> simp [Call.name]
  | unread | unreadable | lost => constructor <;> simp [Call.name]; omega

/-- **What any walk asks at most.** Induction on the links left; a walk that stops has made one or
two calls, and one that goes on has made two. -/
theorem followLinks_bounded (s : Session) (left : Nat) (real : Text) (host : Host σ) (state : σ) :
    ∃ result calls, (s.followLinks left real).Yields host state result calls ∧
      WithinLinks left calls := by
  induction left generalizing real state with
  | zero =>
    rcases linkEnd_or_link s host state real 0 with ⟨made, asked, hEnd⟩ | ⟨_, _, _, hLeft, -⟩
    · exact ⟨made, asked, yields_followLinks_end hEnd, withinLinks_of_end hEnd⟩
    · cases hLeft
  | succ left ih =>
    rcases linkEnd_or_link s host state real (left + 1) with
      ⟨made, asked, hEnd⟩ | ⟨links, target, resolved, hLeft, shown, read, lookup⟩
    · exact ⟨made, asked, yields_followLinks_end hEnd, withinLinks_of_end hEnd⟩
    · obtain rfl := Nat.succ.inj hLeft
      obtain ⟨result, calls, hRest, hWithin⟩ :=
        ih resolved.real (host.after state [.lstat real, .readLink real])
      exact ⟨result, _, yields_followLinks_read shown read (yields_goOn lookup hRest),
        hWithin.link real⟩

-- ---------------------------------------------------------------------------
-- Opening
-- ---------------------------------------------------------------------------

/-- Finding the names of aliases asks the host for nothing, and succeeds while the flag is down if
the directory was found before. -/
theorem exists_yields_aliasNames (s : Session) (virtual real : Text) (host : Host σ) (state : σ) :
    ∃ made, (s.aliasNames virtual real).Yields host state made [] ∧
      ∀ placed, s.resolver.confine (host.raised state) virtual = .ok placed →
        ∃ names, made = .ok names := by
  rw [aliasNames]
  split
  · exact ⟨_, (Attempt.yields_pure _).mpr ⟨rfl, rfl⟩, fun _ _ => ⟨_, rfl⟩⟩
  cases hPlaced : s.resolver.confine (host.raised state) virtual with
  | error e =>
    refine ⟨_, Resolver.yields_find_error (Resolver.lookup_of_confine_error hPlaced), ?_⟩
    rintro placed ⟨⟩
  | ok placed =>
    refine ⟨.ok (namesIn s.resolver.aliases (Path.trimSlashes real) (Path.trimSlashes placed)),
      Resolver.yields_find_then (Resolver.lookup_false_of_confine hPlaced) ?_, fun _ _ => ⟨_, rfl⟩⟩
    -- the names go to the log, if there are any
    dsimp only
    split
    · exact Attempt.yields_note_bind.mpr ((Attempt.yields_pure _).mpr ⟨rfl, rfl⟩)
    · exact (Attempt.yields_pure _).mpr ⟨rfl, rfl⟩

/-- Opens the directory that the walk came to, with the aliases that are listed in it. -/
def openListed (s : Session) (virtual real : Text) : Attempt (DirHandle × Session) := do
  match ← Attempt.reply (.openDir real) with
  | .error failure =>
    Attempt.note (.openFailed (s.log.path real) failure.message)
    throw (.host failure)
  | .ok listing =>
    let names ← s.aliasNames virtual real
    let (handle, dirs) := s.dirs.insert real listing names
    return (handle, { s with dirs := dirs })

/-- The opening of `real` comes to what the host answers: to its failure, or, if the flag stays
down, to a new record of the directory. -/
def AnsweredBy (s : Session) (host : Host σ) (state : σ) (real : Text)
    (opening : Except Error (DirHandle × Session)) : Prop :=
  match (host.answer (.openDir real) state).1 with
  | .error failure => opening = .error (.host failure)
  | .ok listing => host.raised (host.after state [.openDir real]) = false → ∃ names,
    opening = .ok ((s.dirs.insert real listing names).1,
      { s with dirs := (s.dirs.insert real listing names).2 })

/-- Opening a directory makes one call, whatever comes of it. -/
theorem exists_yields_openListed {virtual placed : Text}
    (hPlaced : s.resolver.confine false virtual = .ok placed) (real : Text) (host : Host σ)
    (state : σ) : ∃ opening, (s.openListed virtual real).Yields host state opening [.openDir real] ∧
      s.AnsweredBy host state real opening := by
  have hOpened := Attempt.yields_reply (.openDir real) host state
  simp only [openListed, AnsweredBy]
  cases hAnswer : (host.answer (.openDir real) state).1 with
  | error failure =>
    rw [hAnswer] at hOpened
    refine ⟨.error (.host failure), hOpened.bind (?_ : Attempt.Yields _ _ _ _ []), rfl⟩
    exact Attempt.yields_note_bind.mpr ((Attempt.yields_throw _).mpr ⟨rfl, rfl⟩)
  | ok listing =>
    rw [hAnswer] at hOpened
    obtain ⟨made, hNames, hFound⟩ :=
      exists_yields_aliasNames s virtual real host (host.after state [.openDir real])
    cases made with
    | error e =>
      refine ⟨.error e, hOpened.bind hNames.bind_error, fun hDown => ?_⟩
      rw [hDown] at hFound
      obtain ⟨names, hMade⟩ := hFound placed hPlaced
      cases hMade
    | ok names =>
      refine ⟨_, hOpened.bind (hNames.then ((Attempt.yields_pure _).mpr ⟨rfl, rfl⟩)), ?_⟩
      exact fun _ => ⟨names, rfl⟩

/-- Behind the lookup of the requested path an opening is the walk and the opening of its end. -/
theorem yields_opendir_looked_up {virtual : Text} {resolved : Resolved}
    {opening : Except Error (DirHandle × Session)} (hNormal : s.bypasses = false)
    (hVirtual : s.normalized path = .ok virtual)
    (hLookup : s.resolver.lookup (host.raised state) virtual true = .ok resolved)
    (hRest : Attempt.Yields
      (s.followLinks s.resolver.limits.maxLinks resolved.real >>= s.openListed virtual)
      host state opening calls) :
    (s.opendir path).Yields host state opening calls := by
  rw [opendir, hNormal, if_neg Bool.false_ne_true, hVirtual, Attempt.ofExcept_ok_bind]
  exact Resolver.yields_find_then hLookup hRest

/-- Where the walk fails, the opening does. -/
theorem opendir_of_walk_error {e : Error} (hNormal : s.bypasses = false)
    (hStart : s.translated (host.raised state) path = .ok start)
    (hWalk : (s.followLinks s.resolver.limits.maxLinks start).Yields host state (.error e) calls) :
    (s.opendir path).Yields host state (.error e) calls := by
  obtain ⟨virtual, resolved, hVirtual, hLookup, rfl⟩ := exists_lookup_of_translated hStart
  exact yields_opendir_looked_up hNormal hVirtual hLookup hWalk.bind_error

/-- Where the walk comes to a path, the opening asks for that. -/
theorem opendir_of_walk_ok (hNormal : s.bypasses = false)
    (hStart : s.translated (host.raised state) path = .ok start)
    (hWalk : (s.followLinks s.resolver.limits.maxLinks start).Yields host state (.ok real) calls) :
    ∃ opening, (s.opendir path).Yields host state opening (calls ++ [.openDir real]) ∧
      s.AnsweredBy host (host.after state calls) real opening := by
  obtain ⟨virtual, resolved, hVirtual, hLookup, rfl⟩ := exists_lookup_of_translated hStart
  obtain ⟨placed, hPlaced⟩ := Resolver.exists_confine_of_lookup hLookup
  rw [Resolver.raised_of_lookup hLookup] at hPlaced
  obtain ⟨opening, hOpens, hAnswered⟩ :=
    exists_yields_openListed hPlaced real host (host.after state calls)
  exact ⟨opening, yields_opendir_looked_up hNormal hVirtual hLookup (hWalk.bind hOpens), hAnswered⟩

/-- What an opening asks at most: a walk, and then for one directory. -/
theorem opendir_bounded (hNormal : s.bypasses = false) (path : Text) (host : Host σ) (state : σ) :
    ∃ opening asked opens, (s.opendir path).Yields host state opening (asked ++ opens) ∧
      WithinLinks s.resolver.limits.maxLinks asked ∧
      (opens = [] ∨ ∃ real, opens = [.openDir real]) := by
  cases hStart : s.translated (host.raised state) path with
  | error e =>
    have hMade : [path].mapM (s.translated (host.raised state)) = .error e := by
      rw [List.mapM_cons, hStart]
      rfl
    have hNone : WithinLinks s.resolver.limits.maxLinks [] := by
      constructor <;> simp
    exact ⟨.error e, [], [], (follows_opendir hNormal path).fails e hMade, hNone, Or.inl rfl⟩
  | ok start =>
    obtain ⟨result, asked, hWalk, hWithin⟩ :=
      followLinks_bounded s s.resolver.limits.maxLinks start host state
    cases result with
    | error e =>
      have hOpening := opendir_of_walk_error hNormal hStart hWalk
      rw [← List.append_nil asked] at hOpening
      exact ⟨.error e, asked, [], hOpening, hWithin, Or.inl rfl⟩
    | ok real =>
      obtain ⟨opening, hOpening, -⟩ := opendir_of_walk_ok hNormal hStart hWalk
      exact ⟨opening, asked, [.openDir real], hOpening, hWithin, Or.inr ⟨real, rfl⟩⟩

-- ---------------------------------------------------------------------------
-- The request
-- ---------------------------------------------------------------------------

/-- What a request to open a directory answers, by what the opening came to. -/
def opendirAnswer (s : Session) :
    Except Error (DirHandle × Session) → Except Error Answer × Session
  | .error e => (.error e, s)
  | .ok (handle, next) => (.ok (.handle handle), next)

/-- The request answers with what the opening came to. -/
theorem yields_perform_opendir {opening : Except Error (DirHandle × Session)}
    (h : (s.opendir path).Yields host state opening calls) :
    (s.perform (.opendir path)).Yields host state (s.opendirAnswer opening) calls := by
  rw [← List.append_nil calls]
  cases opening with
  | error e => exact Dialogue.Yields.bind h (Dialogue.yields_done.mpr ⟨rfl, rfl⟩)
  | ok made => exact Dialogue.Yields.bind h (Dialogue.yields_done.mpr ⟨rfl, rfl⟩)

/--
**The depth of links is bounded exactly.** In a session with a base, while it serves its client, and
with any host and any path: let `reals` be the real paths of the walk that a request to open the
path makes, and `m` the limit on links.

* If the first of them that the host does not show as a link has a number `i` up to `m`, then `i`
  links were read and `i + 1` paths looked at, and that path is opened. The host's answer to the
  opening is the request's.
* If the host shows links up to number `m`, then `m` links were read and `m + 1` paths looked at, no
  directory is opened, the request fails with `ELOOP`, and the session is what it was.

So every walk comes to an end, also one that the host leads round in a circle, and also one that
breaks off: no request looks at more than `m + 1` paths, reads more than `m` links or opens more
than one directory, and none asks more than `2 * m + 2` times.
-/
theorem opendir_link_depth (hNormal : s.bypasses = false) (host : Host σ) (state : σ)
    (path : Text) :
    let run := (s.perform (.opendir path)).run host state
    let m := s.resolver.limits.maxLinks
    (∀ reals, s.Chain host state path reals →
      (∀ i ≤ m, (∀ j < i, LinkAt host state reals j) → ¬ LinkAt host state reals i →
        run.calls = callsAlong reals i ++ [.lstat (reals i)] ++ [.openDir (reals i)] ∧
        Tally run.calls (i + 1) i 1 ∧
        ∃ opening, run.value = s.opendirAnswer opening ∧
          s.AnsweredBy host (host.after state (callsAlong reals i ++ [.lstat (reals i)])) (reals i)
            opening) ∧
      ((∀ i ≤ m, LinkAt host state reals i) →
        run.calls = callsAlong reals m ++ [.lstat (reals m)] ∧
        Tally run.calls (m + 1) m 0 ∧
        run.value = (.error (.host (.code Errno.tooManyLinks)), s))) ∧
    callCount "lstat" run.calls ≤ m + 1 ∧ callCount "readlink" run.calls ≤ m ∧
      callCount "opendir" run.calls ≤ 1 ∧ run.calls.length ≤ 2 * m + 2 := by
  intro run m
  refine ⟨fun reals hChain => ⟨fun i hi hLinks hPlace => ?_, fun hLinks => ?_⟩, ?_⟩
  · -- the walk along `i` links with `m - i` left, and its end
    have hWalk : (s.followLinks (m - i + i) (reals 0)).Yields host state (.ok (reals i))
        (callsAlong reals i ++ [.lstat (reals i)]) := by
      refine followLinks_along hLinks (fun j hj => ?_) (yields_followLinks_not_shown hPlace)
      exact hChain.next j (by omega) fun k hk => hLinks k (by omega)
    rw [Nat.sub_add_cancel hi] at hWalk
    obtain ⟨opening, hOpening, hAnswered⟩ := opendir_of_walk_ok hNormal hChain.start hWalk
    have hRun := yields_perform_opendir hOpening
    refine ⟨hRun.calls, ?_, opening, hRun.value, hAnswered⟩
    rw [hRun.calls]
    exact (tally_look reals i).opened (reals i)
  · have hWalk : (s.followLinks (0 + m) (reals 0)).Yields host state
        (.error (.host (.code Errno.tooManyLinks))) (callsAlong reals m ++ [.lstat (reals m)]) := by
      refine followLinks_along (fun j hj => hLinks j (by omega)) (fun j hj => ?_)
        (yields_followLinks_exhausted (hLinks m (Nat.le_refl m)))
      exact hChain.next j hj fun k hk => hLinks k (by omega)
    rw [Nat.zero_add] at hWalk
    have hRun := yields_perform_opendir (opendir_of_walk_error hNormal hChain.start hWalk)
    refine ⟨hRun.calls, ?_, hRun.value⟩
    rw [hRun.calls]
    exact tally_look reals m
  · obtain ⟨opening, asked, opens, hOpening, hWithin, hOpens⟩ :=
      opendir_bounded hNormal path host state
    have hRun := yields_perform_opendir hOpening
    obtain ⟨hLooks, hReads, hNone, hLength⟩ := hWithin
    rw [hRun.calls]
    rcases hOpens with rfl | ⟨real, rfl⟩
    · simp
      omega
    · simp [Call.name]
      omega

/-- A host with two links that lead to each other. -/
def circleHost : FixedHost where
  nodes := [
    ("/store/a".toList, ⟨⟨.symlink, 1, 0o777, 0, 0, 0, 0⟩, some (.text "b".toList), []⟩),
    ("/store/b".toList, ⟨⟨.symlink, 2, 0o777, 0, 0, 0, 0⟩, some (.text "/a".toList), []⟩)]

/-- The walk round the circle. -/
def circle (i : Nat) : Text := if i % 2 = 0 then "/store/a".toList else "/store/b".toList

/-- The interrupt flag of a fixed host stays as it is. -/
theorem after_toHost (host : FixedHost) (raised : Bool) (calls : List Call) :
    host.toHost.after raised calls = raised := by
  induction calls with
  | nil => rfl
  | cons call calls ih => exact ih

/-- Each link of the circle leads to the other one. -/
theorem linkAt_circle (i : Nat) : LinkAt circleHost.toHost false circle i := by
  rw [LinkAt, after_toHost, circle]
  split
  · exact ⟨_, rfl, rfl⟩
  · exact ⟨_, rfl, rfl⟩

theorem chain_circle : storeSession.Chain circleHost.toHost false "/a".toList circle where
  start := by
    have hNormalized : storeSession.normalized "/a".toList = .ok "/a".toList := by
      rw [normalized, Path.clean_eq_normal]
      rfl
    have hLookup : storeSession.resolver.lookup false "/a".toList true =
        .ok ⟨"/store/a".toList, none⟩ := by
      apply lookup_storeSession
      rw [Resolver.placement, Path.clean_eq_normal]
      rfl
    rw [translated_of_normalized hNormalized]
    show Resolved.real <$> storeSession.resolver.lookup false "/a".toList true = _
    rw [hLookup]
    rfl
  next := by
    intro i _ _
    have hParity : circle (i + 1) =
        if i % 2 = 0 then "/store/b".toList else "/store/a".toList := by
      rw [circle]
      by_cases hEven : i % 2 = 0
      · rw [if_pos hEven, if_neg (by omega)]
      · rw [if_neg hEven, if_pos (by omega)]
    rw [after_toHost, hParity, circle]
    split
    · refine ⟨"b".toList, ⟨"/store/b".toList, none⟩, rfl, ?_, rfl⟩
      apply lookup_storeSession
      rw [Resolver.placement, Path.clean_eq_normal]
      rfl
    · refine ⟨"/a".toList, ⟨"/store/a".toList, none⟩, rfl, ?_, rfl⟩
      apply lookup_storeSession
      rw [Resolver.placement, Path.clean_eq_normal]
      rfl

/-- The circle is walked for as long as links may be followed. -/
theorem opendir_link_depth_circle :
    storeSession.bypasses = false ∧
      storeSession.Chain circleHost.toHost false "/a".toList circle ∧
      ((storeSession.perform (.opendir "/a".toList)).run circleHost.toHost false).value =
        (.error (.host (.code Errno.tooManyLinks)), storeSession) ∧
      Tally ((storeSession.perform (.opendir "/a".toList)).run circleHost.toHost false).calls
        33 32 0 := by
  obtain ⟨hChain, -⟩ := opendir_link_depth (s := storeSession) rfl circleHost.toHost false
    "/a".toList
  obtain ⟨-, hExhausted⟩ := hChain circle chain_circle
  obtain ⟨-, hTally, hValue⟩ := hExhausted fun i _ => linkAt_circle i
  exact ⟨rfl, chain_circle, hValue, hTally⟩

end Session

end PathJail
