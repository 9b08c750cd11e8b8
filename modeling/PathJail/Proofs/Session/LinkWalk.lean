import PathJail.Host.Fixed
import PathJail.Proofs.Session.LinkTargets

/-!
# The walk along links to a directory

The directory that a session opens is the one that a walk inside a root comes to. `RootWalk` is that
walk: it knows the base and the host and nothing of sessions, lookups or virtual paths. The session
makes the same walk, link by link, for as long as it follows links at all; `LinkEnd` says when it
stops following them.

* `RootWalk`             — the walk inside a root.
* `LinksBelow`           — the links that are read lie below the base.
* `LinkEnd`              — how a session stops following links.
* `followLinks_walks`    — a session walks inside its root, by induction on the links left.
* `opendir_walks_inside` — the directory that is opened.
-/

namespace PathJail

open PathJail.Path (isAbsolute clean)
open Resolver (Beneath)

variable {σ : Type} {host : Host σ} {state : σ} {calls asked : List Call}
variable {base dir name real target last : Text}

-- ---------------------------------------------------------------------------
-- The walk inside a root
-- ---------------------------------------------------------------------------

/-- The host shows a symbolic link at this path. -/
def ShowsLink (host : Host σ) (state : σ) (real : Text) : Prop :=
  ∃ metadata, (host.answer (.lstat real) state).1 = .ok metadata ∧ metadata.fileType = .symlink

/-- What the host gives for the target of a link that it has just shown. -/
def targetOf (host : Host σ) (state : σ) (real : Text) : Except HostError LinkTarget :=
  (host.answer (.readLink real) (host.after state [.lstat real])).1

/-- The walk along this many links inside the root `base`, from one real path to another: what it
asks the host, from which state on, and where it comes to. -/
inductive RootWalk (base : Text) (host : Host σ) : Nat → σ → Text → List Call → Text → Prop
  | here {state : σ} {real : Text} : RootWalk base host 0 state real [] real
  | link {links : Nat} {state : σ} {real dir name target last : Text} {calls : List Call}
      (shown : ShowsLink host state real) (read : targetOf host state real = .ok (.text target))
      (entry : EntryAt base dir name real)
      (rest : RootWalk base host links (host.after state [.lstat real, .readLink real])
        (followed base dir target) calls last) :
      RootWalk base host (links + 1) state real (.lstat real :: .readLink real :: calls) last

/-- The walk stays inside. -/
theorem RootWalk.beneath {links : Nat} (h : RootWalk base host links state real calls last)
    (hReal : Beneath base real) : Beneath base last := by
  induction h with
  | here => exact hReal
  | link shown read entry rest ih => exact ih (beneath_followed (entry.dir_shape hReal))

/-- A link that is read here lies strictly below the base, and its target, where it is relative,
comes to no path that begins with the base: such a path would pass for one in front of which the
base stands already. -/
def LinkBelow (base : Text) (host : Host σ) (state : σ) (real : Text) : Prop :=
  ∃ dir name, EntryAt base dir name real ∧
    ∀ target, (host.answer (.readLink real) state).1 = .ok (.text target) →
      isAbsolute target = false → base ≠ ['/'] → ¬ base ++ ['/'] <+: clean (dir ++ '/' :: target)

/-- Such is every link that is read in the course of these calls. -/
def LinksBelow (base : Text) (host : Host σ) (state : σ) (calls : List Call) : Prop :=
  ∀ asked real, asked ++ [.readLink real] <+: calls →
    LinkBelow base host (host.after state asked) real

/-- What is asked of all links holds along the first of the calls. -/
theorem LinksBelow.of_prefix (h : LinksBelow base host state calls) (hAsked : asked <+: calls) :
    LinksBelow base host state asked :=
  fun front real hFront => h front real (hFront.trans hAsked)

theorem LinksBelow.rest (asked : List Call) (h : LinksBelow base host state (asked ++ calls)) :
    LinksBelow base host (host.after state asked) calls := by
  intro front real hFront
  have hPrefix : asked ++ front ++ [.readLink real] <+: asked ++ calls := by
    rw [List.append_assoc]
    exact (List.prefix_append_right_inj asked).mpr hFront
  have hAfter : host.after state (asked ++ front) = host.after (host.after state asked) front :=
    List.foldl_append
  rw [← hAfter]
  exact h _ _ hPrefix

theorem linksBelow_nil : LinksBelow base host state [] := by
  intro asked real hAsked
  exact absurd (List.prefix_nil.mp hAsked) (by simp)

/-- The links of a list of calls are the one that the first call reads and those of the rest. -/
theorem linksBelow_cons {call : Call}
    (hHead : ∀ real, call = .readLink real → LinkBelow base host state real)
    (hTail : LinksBelow base host (host.answer call state).2 calls) :
    LinksBelow base host state (call :: calls) := by
  intro asked real hAsked
  cases asked with
  | nil => exact hHead real (List.cons_prefix_cons.mp hAsked).1.symm
  | cons first asked =>
    obtain ⟨rfl, hRest⟩ := List.cons_prefix_cons.mp hAsked
    exact hTail asked real hRest

namespace Session

variable {s : Session} {left : Nat} {result : Except Error Text}

-- ---------------------------------------------------------------------------
-- The session's walk
-- ---------------------------------------------------------------------------

/-- How the session stops at a path with a number of links that it might still follow: the path to
open or an error, and what it asks the host for that. -/
inductive LinkEnd (s : Session) (host : Host σ) (state : σ) (last : Text) :
    Nat → Except Error Text → List Call → Prop
  | place {left : Nat} (shown : ¬ ShowsLink host state last) :
      LinkEnd s host state last left (.ok last) [.lstat last]
  | exhausted (shown : ShowsLink host state last) :
      LinkEnd s host state last 0 (.error (.host (.code Errno.tooManyLinks))) [.lstat last]
  | unread {left : Nat} {failure : HostError} (shown : ShowsLink host state last)
      (read : targetOf host state last = .error failure) :
      LinkEnd s host state last (left + 1) (.error (.host failure)) [.lstat last, .readLink last]
  /-- The target is no text. -/
  | unreadable {left : Nat} {raw : List UInt8} (shown : ShowsLink host state last)
      (read : targetOf host state last = .ok (.bytes raw)) :
      LinkEnd s host state last (left + 1) (.error .unreadableTarget)
        [.lstat last, .readLink last]
  /-- The lookup of the target fails. -/
  | lost {left : Nat} {target : Text} {e : Error} (shown : ShowsLink host state last)
      (read : targetOf host state last = .ok (.text target))
      (lookup : s.resolver.lookup (host.raised (host.after state [.lstat last, .readLink last]))
        (s.linkTarget last target) true = .error e) :
      LinkEnd s host state last (left + 1) (.error e) [.lstat last, .readLink last]

/-- What the session does with the target of a link that it may follow. -/
def goOn (s : Session) (left : Nat) (real : Text) : LinkTarget → Attempt Text
  | .bytes _ => do
    Attempt.note (.unreadableTarget (s.log.path real))
    throw .unreadableTarget
  | .text target => do
    let virtual := s.linkTarget real target
    Attempt.note (.linkFollowed (s.log.path real) (s.log.path virtual))
    s.followLinks left (← s.resolver.find virtual true).real

/-- The walk ends where no link is shown. -/
theorem yields_followLinks_not_shown (shown : ¬ ShowsLink host state real) :
    (s.followLinks left real).Yields host state (.ok real) [.lstat real] := by
  have hLooked := Attempt.yields_reply (.lstat real) host state
  -- the case of no links left is the case of some: the path is not a link
  cases left <;>
  · rw [followLinks]
    refine hLooked.bind (?_ : Attempt.Yields _ _ _ _ [])
    cases hFound : (host.answer (.lstat real) state).1 with
    | error failure => exact (Attempt.yields_pure _).mpr ⟨rfl, rfl⟩
    | ok metadata =>
      have hPlace : metadata.fileType ≠ .symlink := fun hLink => shown ⟨metadata, hFound, hLink⟩
      dsimp only
      rw [if_pos hPlace]
      exact (Attempt.yields_pure _).mpr ⟨rfl, rfl⟩

theorem yields_followLinks_exhausted (shown : ShowsLink host state real) :
    (s.followLinks 0 real).Yields host state (.error (.host (.code Errno.tooManyLinks)))
      [.lstat real] := by
  obtain ⟨metadata, hFound, hLink⟩ := shown
  have hLooked := Attempt.yields_reply (.lstat real) host state
  rw [hFound] at hLooked
  rw [followLinks]
  refine hLooked.bind (?_ : Attempt.Yields _ _ _ _ [])
  dsimp only
  rw [if_neg (not_not.mpr hLink)]
  exact Attempt.yields_note_bind.mpr ((Attempt.yields_throw _).mpr ⟨rfl, rfl⟩)

/-- At a link it goes on as the reading does. -/
theorem yields_followLinks_shown (shown : ShowsLink host state real)
    (hRead : Attempt.Yields (Attempt.ask (.readLink real) >>= s.goOn left real) host
      (host.after state [.lstat real]) result calls) :
    (s.followLinks (left + 1) real).Yields host state result (.lstat real :: calls) := by
  obtain ⟨metadata, hFound, hLink⟩ := shown
  have hLooked := Attempt.yields_reply (.lstat real) host state
  rw [hFound] at hLooked
  rw [followLinks]
  refine hLooked.bind ?_
  dsimp only
  rw [if_neg (not_not.mpr hLink)]
  convert hRead using 3 with link
  cases link <;> rfl

/-- At a link that can be read it goes on behind the target. -/
theorem yields_followLinks_read {link : LinkTarget} (shown : ShowsLink host state real)
    (read : targetOf host state real = .ok link)
    (hRest : (s.goOn left real link).Yields host
      (host.after state [.lstat real, .readLink real]) result calls) :
    (s.followLinks (left + 1) real).Yields host state result
      (.lstat real :: .readLink real :: calls) := by
  have hAsked := Attempt.yields_ask (.readLink real) host (host.after state [.lstat real])
  rw [← targetOf, read] at hAsked
  exact yields_followLinks_shown shown (hAsked.bind hRest)

/-- A target that is found is followed. -/
theorem yields_goOn {resolved : Resolved}
    (lookup : s.resolver.lookup (host.raised state) (s.linkTarget real target) true = .ok resolved)
    (hRest : (s.followLinks left resolved.real).Yields host state result calls) :
    (s.goOn left real (.text target)).Yields host state result calls :=
  Attempt.yields_note_bind.mpr (Resolver.yields_find_then lookup hRest)

/-- **All ends of a walk.** -/
theorem yields_followLinks_end (h : s.LinkEnd host state last left result calls) :
    (s.followLinks left last).Yields host state result calls := by
  cases h with
  | place shown => exact yields_followLinks_not_shown shown
  | exhausted shown => exact yields_followLinks_exhausted shown
  | unread shown read =>
    have hAsked := Attempt.yields_ask (.readLink last) host (host.after state [.lstat last])
    rw [← targetOf, read] at hAsked
    exact yields_followLinks_shown shown hAsked.bind_error
  | unreadable shown read =>
    refine yields_followLinks_read shown read ?_
    exact Attempt.yields_note_bind.mpr ((Attempt.yields_throw _).mpr ⟨rfl, rfl⟩)
  | lost shown read lookup =>
    refine yields_followLinks_read shown read ?_
    exact Attempt.yields_note_bind.mpr (Resolver.yields_find_error lookup)

/-- The session stops at a path, or follows a link there. -/
theorem linkEnd_or_link (s : Session) (host : Host σ) (state : σ) (real : Text) (left : Nat) :
    (∃ result calls, s.LinkEnd host state real left result calls) ∨
      ∃ links target resolved, left = links + 1 ∧ ShowsLink host state real ∧
        targetOf host state real = .ok (.text target) ∧
        s.resolver.lookup (host.raised (host.after state [.lstat real, .readLink real]))
          (s.linkTarget real target) true = .ok resolved := by
  by_cases shown : ShowsLink host state real
  swap
  · exact Or.inl ⟨_, _, .place shown⟩
  cases left with
  | zero => exact Or.inl ⟨_, _, .exhausted shown⟩
  | succ links =>
    cases read : targetOf host state real with
    | error failure => exact Or.inl ⟨_, _, .unread shown read⟩
    | ok link =>
      cases link with
      | bytes raw => exact Or.inl ⟨_, _, .unreadable shown read⟩
      | text target =>
        cases lookup : s.resolver.lookup
            (host.raised (host.after state [.lstat real, .readLink real]))
            (s.linkTarget real target) true with
        | error e => exact Or.inl ⟨_, _, .lost shown read lookup⟩
        | ok resolved => exact Or.inr ⟨links, target, resolved, rfl, shown, rfl, lookup⟩

/-- From `real` the session makes a walk inside the root `base`, along no more than `left` links,
and stops at the end of it: with the path that it came to, or with an error. -/
def WalksInside (s : Session) (base : Text) (host : Host σ) (state : σ) (left : Nat) (real : Text)
    (result : Except Error Text) (calls : List Call) : Prop :=
  ∃ links walked last asked, links ≤ left ∧ RootWalk base host links state real walked last ∧
    s.LinkEnd host (host.after state walked) last (left - links) result asked ∧
    calls = walked ++ asked

/-- A walk that ends at once is one inside. -/
theorem WalksInside.stop (h : s.LinkEnd host state real left result calls) :
    s.WalksInside base host state left real result calls :=
  ⟨0, [], real, calls, Nat.zero_le _, .here, h, rfl⟩

theorem WalksInside.link (shown : ShowsLink host state real)
    (read : targetOf host state real = .ok (.text target)) (entry : EntryAt base dir name real)
    (rest : s.WalksInside base host (host.after state [.lstat real, .readLink real]) left
      (followed base dir target) result calls) :
    s.WalksInside base host state (left + 1) real result
      (.lstat real :: .readLink real :: calls) := by
  obtain ⟨links, walked, last, asked, hLinks, hWalk, hEnd, rfl⟩ := rest
  rw [← Nat.add_sub_add_right left 1 links] at hEnd
  exact ⟨links + 1, _, last, asked, Nat.succ_le_succ hLinks, .link shown read entry hWalk, hEnd, rfl⟩

/-- A walk inside comes to a path beneath the base. -/
theorem WalksInside.beneath (h : s.WalksInside base host state left real (.ok last) calls)
    (hReal : Beneath base real) : Beneath base last := by
  obtain ⟨links, walked, stop, asked, -, hWalk, hEnd, -⟩ := h
  generalize left - links = rest at hEnd
  cases hEnd
  exact hWalk.beneath hReal

/-- **A session walks inside its root.** Induction on the links that may still be followed. Behind
each link stands the next path of the walk, at the base or below it again, and what is asked from
there on is the rest of what was asked before. -/
theorem followLinks_walks (hs : s.Confined) (hBase : s.resolver.base = some base)
    (hTable : s.resolver.aliases.isEmpty = true) (hReal : Beneath base real)
    (hYields : (s.followLinks left real).Yields host state result calls)
    (hBelow : LinksBelow base host state calls) :
    s.WalksInside base host state left real result calls := by
  induction left generalizing state real result calls with
  | zero =>
    rcases linkEnd_or_link s host state real 0 with ⟨made, asked, hEnd⟩ | ⟨_, _, _, hLeft, -⟩
    · obtain ⟨rfl, rfl⟩ := (yields_followLinks_end hEnd).unique hYields
      exact .stop hEnd
    · cases hLeft
  | succ left ih =>
    rcases linkEnd_or_link s host state real (left + 1) with
      ⟨made, asked, hEnd⟩ | ⟨links, target, resolved, hLeft, shown, read, lookup⟩
    · obtain ⟨rfl, rfl⟩ := (yields_followLinks_end hEnd).unique hYields
      exact .stop hEnd
    obtain rfl := Nat.succ.inj hLeft
    obtain ⟨made, asked, hRest⟩ : ∃ made asked, (s.followLinks left resolved.real).Yields host
        (host.after state [.lstat real, .readLink real]) made asked :=
      ⟨_, _, Dialogue.yields_run _ _ _⟩
    have hMade := yields_followLinks_read shown read (yields_goOn lookup hRest)
    obtain ⟨rfl, rfl⟩ := hMade.unique hYields
    obtain ⟨dir, name, entry, hInside⟩ := hBelow [.lstat real] real (List.prefix_append _ _)
    rw [real_of_lookup_linkTarget hs hBase hTable entry hReal (hInside target read) lookup] at hRest
    have hPlace : Beneath base (followed base dir target) :=
      beneath_followed (entry.dir_shape hReal)
    have hAfter := LinksBelow.rest [.lstat real, .readLink real] hBelow
    exact .link shown read entry (ih hPlace hRest hAfter)

-- ---------------------------------------------------------------------------
-- Opening
-- ---------------------------------------------------------------------------

/-- Opens the directory that the walk came to, where there are no aliases to be listed in it. -/
def openPlace (s : Session) (real : Text) : Attempt (DirHandle × Session) := do
  match ← Attempt.reply (.openDir real) with
  | .error failure =>
    Attempt.note (.openFailed (s.log.path real) failure.message)
    throw (.host failure)
  | .ok listing =>
    let (handle, dirs) := s.dirs.insert real listing []
    return (handle, { s with dirs := dirs })

/-- What the opening of `real` comes to when the host answers this. -/
def openedAt (s : Session) (real : Text) :
    Except HostError Listing → Except Error (DirHandle × Session)
  | .error failure => .error (.host failure)
  | .ok listing => .ok ((s.dirs.insert real listing []).1,
      { s with dirs := (s.dirs.insert real listing []).2 })

/-- A request to open a directory fails where the walk to it does, and else opens the directory that
the walk came to. -/
def Opens (s : Session) (host : Host σ) (state : σ) (path : Text) :
    Except Error Text → List Call → Prop
  | .error e, asked => (s.opendir path).Yields host state (.error e) asked
  | .ok real, asked => (s.opendir path).Yields host state
      (s.openedAt real (host.answer (.openDir real) (host.after state asked)).1)
      (asked ++ [.openDir real])

/-- The directory at the end of the walk is opened by one call. -/
theorem yields_openPlace (s : Session) (host : Host σ) (state : σ) (real : Text) :
    (s.openPlace real).Yields host state
      (s.openedAt real (host.answer (.openDir real) state).1) [.openDir real] := by
  have hAnswered := Attempt.yields_reply (.openDir real) host state
  rw [openPlace]
  refine hAnswered.bind (?_ : Attempt.Yields _ _ _ _ [])
  cases (host.answer (.openDir real) state).1 with
  | error failure =>
    exact Attempt.yields_note_bind.mpr ((Attempt.yields_throw _).mpr ⟨rfl, rfl⟩)
  | ok listing => exact (Attempt.yields_pure _).mpr ⟨rfl, rfl⟩

variable {path start : Text}

/-- Without aliases there are no names to be laid over a listing. -/
theorem aliasNames_of_isEmpty (hTable : s.resolver.aliases.isEmpty = true) (virtual real : Text) :
    s.aliasNames virtual real = pure [] := by
  rw [aliasNames, if_pos hTable]

/-- Behind the lookup of the requested path an opening is the walk and the opening of its end. -/
theorem yields_opendir_placed {opening : Except Error (DirHandle × Session)}
    (hNormal : s.bypasses = false) (hTable : s.resolver.aliases.isEmpty = true)
    (hStart : s.unaliased (host.raised state) path = .ok start)
    (hRest : Attempt.Yields (s.followLinks s.resolver.limits.maxLinks start >>= s.openPlace)
      host state opening calls) :
    (s.opendir path).Yields host state opening calls := by
  cases hVirtual : s.normalized path with
  | error e =>
    rw [unaliased, hVirtual] at hStart
    cases hStart
  | ok virtual =>
    rw [unaliased_of_normalized hVirtual] at hStart
    have hLookup : s.resolver.lookup (host.raised state) virtual true = .ok ⟨start, none⟩ := by
      rw [Resolver.lookup_true_of_confine hStart, Resolver.crossing?_of_isEmpty hTable]
    rw [opendir, hNormal, if_neg Bool.false_ne_true, hVirtual, Attempt.ofExcept_ok_bind]
    refine Resolver.yields_find_then hLookup ?_
    simp only [aliasNames_of_isEmpty hTable, pure_bind]
    exact hRest

/-- A path that cannot be placed is not opened, and the host is not asked. -/
theorem yields_opendir_unplaced {e : Error} (hNormal : s.bypasses = false)
    (hStart : s.unaliased (host.raised state) path = .error e) :
    (s.opendir path).Yields host state (.error e) [] := by
  rw [opendir, hNormal, if_neg Bool.false_ne_true]
  cases hVirtual : s.normalized path with
  | error made =>
    rw [unaliased, hVirtual] at hStart
    obtain rfl := Except.error.inj hStart
    exact (Attempt.yields_throw made).mpr ⟨rfl, rfl⟩
  | ok virtual =>
    rw [unaliased_of_normalized hVirtual] at hStart
    exact Resolver.yields_find_error (Resolver.lookup_of_confine_error hStart)

/-- **The request** makes the calls of the walk, and then the one that opens. -/
theorem opens_of_walk (hNormal : s.bypasses = false) (hTable : s.resolver.aliases.isEmpty = true)
    (hStart : s.unaliased (host.raised state) path = .ok start)
    (hWalk : (s.followLinks s.resolver.limits.maxLinks start).Yields host state result asked) :
    s.Opens host state path result asked := by
  cases result with
  | error e => exact yields_opendir_placed hNormal hTable hStart hWalk.bind_error
  | ok real =>
    exact yields_opendir_placed hNormal hTable hStart
      (hWalk.bind (yields_openPlace s host (host.after state asked) real))

/-- A walk is the first thing that an opening asks for. -/
theorem Opens.prefix_calls (h : s.Opens host state path result asked) :
    asked <+: ((s.opendir path).run.run host state).calls := by
  cases result with
  | error e => exact h.calls.symm ▸ List.prefix_rfl
  | ok real => exact h.calls.symm ▸ List.prefix_append _ _

/--
**The directory that is opened.** A session that comes about, with a base and without aliases, opens
a directory, and each link that it reads lies strictly below the base, with no relative target in it
that comes to a path beginning with the base. Whatever the host answers: if the path is found, the
session makes the walk inside its root, for as long as it may follow links, and opens the directory
that the walk comes to.
-/
theorem opendir_walks_inside (hReach : s.Reachable) (hBase : s.resolver.base = some base)
    (hPhase : s.phase = .normal) (hTable : s.resolver.aliases.isEmpty = true)
    (host : Host σ) (state : σ) (path : Text)
    (hBelow : LinksBelow base host state ((s.opendir path).run.run host state).calls) :
    ∃ result asked, s.Opens host state path result asked ∧
      match s.unaliased (host.raised state) path with
      | .error e => result = .error e ∧ asked = []
      | .ok start =>
        s.WalksInside base host state s.resolver.limits.maxLinks start result asked ∧
          ∀ last, result = .ok last → Beneath base last := by
  have hs : s.Confined := ⟨hReach.resolver.canonical, by rw [hBase]; rfl⟩
  have hNormal := bypasses_eq_false hs hPhase
  cases hStart : s.unaliased (host.raised state) path with
  | error e => exact ⟨.error e, [], yields_opendir_unplaced hNormal hStart, rfl, rfl⟩
  | ok start =>
    obtain ⟨result, asked, hWalk⟩ : ∃ result asked,
        (s.followLinks s.resolver.limits.maxLinks start).Yields host state result asked :=
      ⟨_, _, Dialogue.yields_run _ _ _⟩
    have hOpens := opens_of_walk hNormal hTable hStart hWalk
    have hBeneath := beneath_of_unaliased hs hBase hStart
    have hInside := followLinks_walks hs hBase hTable hBeneath hWalk
      (hBelow.of_prefix hOpens.prefix_calls)
    refine ⟨result, asked, hOpens, hInside, fun last hLast => ?_⟩
    rw [hLast] at hInside
    exact hInside.beneath hBeneath

/-- A host with a link that climbs above the virtual root, and one with an absolute target behind
it. -/
def linkHost : FixedHost where
  nodes := [
    ("/store/a/l".toList, ⟨⟨.symlink, 7, 0o777, 0, 0, 0, 0⟩, some (.text "../../b".toList), []⟩),
    ("/store/b".toList, ⟨⟨.symlink, 2, 0o777, 0, 0, 0, 0⟩, some (.text "/d".toList), []⟩),
    ("/store/d".toList, ⟨⟨.directory, 0, 0o755, 0, 0, 0, 0⟩, none, []⟩)]

/-- What the session asks that host on the way along the two links. -/
def linkCalls : List Call :=
  [.lstat "/store/a/l".toList, .readLink "/store/a/l".toList, .lstat "/store/b".toList,
    .readLink "/store/b".toList, .lstat "/store/d".toList]

/-- The place of the first link. -/
theorem unaliased_storeSession_link :
    storeSession.unaliased false "/a/l".toList = .ok "/store/a/l".toList := by
  have hNormalized : storeSession.normalized "/a/l".toList = .ok "/a/l".toList := by
    rw [normalized, Path.clean_eq_normal]
    rfl
  obtain ⟨names, hNames⟩ := reachable_storeSession.resolver.baseNames
  rw [unaliased_of_normalized hNormalized, Resolver.confine_eq_placement hNames,
    Resolver.placement, Path.clean_eq_normal]
  rfl

/-- The walk along both links. -/
theorem followLinks_linkHost : (storeSession.followLinks 32 "/store/a/l".toList).Yields
    linkHost.toHost false (.ok "/store/d".toList) linkCalls := by
  have hFirst : storeSession.resolver.lookup false
      (storeSession.linkTarget "/store/a/l".toList "../../b".toList) true =
        .ok ⟨"/store/b".toList, none⟩ := by
    apply lookup_storeSession
    rw [Resolver.placement, Path.clean_eq_normal]
    rfl
  have hSecond : storeSession.resolver.lookup false
      (storeSession.linkTarget "/store/b".toList "/d".toList) true =
        .ok ⟨"/store/d".toList, none⟩ := by
    apply lookup_storeSession
    rw [Resolver.placement, Path.clean_eq_normal]
    rfl
  have hPlace : ¬ ShowsLink linkHost.toHost false "/store/d".toList := by
    rintro ⟨metadata, hFound, hLink⟩
    obtain rfl := Except.ok.inj hFound
    cases hLink
  refine yields_followLinks_read ⟨_, rfl, rfl⟩ rfl (yields_goOn hFirst ?_)
  refine yields_followLinks_read ⟨_, rfl, rfl⟩ rfl (yields_goOn hSecond ?_)
  exact yields_followLinks_not_shown hPlace

/-- Both links lie below the base and lead inside. -/
theorem linksBelow_linkHost : LinksBelow "/store".toList linkHost.toHost false
    (linkCalls ++ [.openDir "/store/d".toList]) := by
  have hFirst : LinkBelow "/store".toList linkHost.toHost false "/store/a/l".toList := by
    refine ⟨"/a".toList, "l".toList, ⟨by decide, by decide, Or.inl rfl⟩, ?_⟩
    rintro target hTarget - -
    obtain rfl := LinkTarget.text.inj (Except.ok.inj hTarget)
    rw [Path.clean_eq_normal]
    decide
  have hSecond : LinkBelow "/store".toList linkHost.toHost false "/store/b".toList := by
    refine ⟨[], "b".toList, ⟨by decide, by decide, Or.inl rfl⟩, ?_⟩
    rintro target hTarget hRelative
    obtain rfl := LinkTarget.text.inj (Except.ok.inj hTarget)
    cases hRelative
  refine linksBelow_cons nofun (linksBelow_cons ?_ ?_)
  · rintro _ ⟨⟩
    exact hFirst
  refine linksBelow_cons nofun (linksBelow_cons ?_ ?_)
  · rintro _ ⟨⟩
    exact hSecond
  exact linksBelow_cons nofun (linksBelow_cons nofun linksBelow_nil)

/-- The session goes up no further than to its root, and takes the absolute target from there. -/
theorem opendir_walks_inside_store :
    storeSession.Reachable ∧
    LinksBelow "/store".toList linkHost.toHost false
      ((storeSession.opendir "/a/l".toList).run.run linkHost.toHost false).calls ∧
    storeSession.Opens linkHost.toHost false "/a/l".toList (.ok "/store/d".toList) linkCalls ∧
    storeSession.WalksInside "/store".toList linkHost.toHost false 32 "/store/a/l".toList
      (.ok "/store/d".toList) linkCalls := by
  have hOpens : storeSession.Opens linkHost.toHost false "/a/l".toList (.ok "/store/d".toList)
      linkCalls := opens_of_walk rfl rfl unaliased_storeSession_link followLinks_linkHost
  have hBelow : LinksBelow "/store".toList linkHost.toHost false
      ((storeSession.opendir "/a/l".toList).run.run linkHost.toHost false).calls :=
    hOpens.calls.symm ▸ linksBelow_linkHost
  obtain ⟨result, asked, hMade, hWalk⟩ :=
    opendir_walks_inside reachable_storeSession rfl rfl rfl linkHost.toHost false _ hBelow
  have hStart : storeSession.unaliased (linkHost.toHost.raised false) "/a/l".toList =
      .ok "/store/a/l".toList := unaliased_storeSession_link
  rw [hStart] at hWalk
  obtain ⟨rfl, rfl⟩ : result = .ok "/store/d".toList ∧ asked = linkCalls := by
    cases result with
    | error e => cases (hMade.unique hOpens).1
    | ok real =>
      obtain ⟨rfl, hOpen⟩ := List.append_inj' (hMade.unique hOpens).2 rfl
      obtain rfl := Call.openDir.inj (List.singleton_inj.mp hOpen)
      exact ⟨rfl, rfl⟩
  exact ⟨reachable_storeSession, hBelow, hOpens, hWalk.1⟩

end Session

end PathJail
