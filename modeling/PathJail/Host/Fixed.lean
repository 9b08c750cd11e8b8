import PathJail.Dialogue

/-!
# Hosts that never change

The simplest concrete host: a table from exact path texts to what the host knows about them. No path
is interpreted, so `/store` and `/store/` are two keys, and nothing that is asked of the host has an
effect on it. Calls can be made to fail. The state is the interrupt flag.

Such a host is enough to hold a session up to the light: with it a dialogue has one run, in which
every call shows.
-/

namespace PathJail

/-- What a fixed host knows about a path. -/
structure FixedNode where
  metadata : Metadata
  /-- The target, for a symbolic link. -/
  target : Option LinkTarget := none
  /-- What reading the directory gives, for a directory. All of its names are text. -/
  listing : List (Except HostError HostEntry) := []

structure FixedHost where
  nodes : List (Text × FixedNode) := []
  /-- Failures by the name of the call and its first path. -/
  failures : List ((String × Text) × HostError) := []

namespace FixedHost

def node (host : FixedHost) (path : Text) : Except HostError FixedNode :=
  match host.nodes.lookup path with
  | some node => .ok node
  | none => .error (.code Errno.noEntry)

/-- Metadata through one symbolic link, whose target is again the text of a path. -/
def stat (host : FixedHost) (path : Text) : Except HostError Metadata := do
  let node ← host.node path
  if node.metadata.fileType = .symlink then
    let target := match node.target with
      | some (.text target) => target
      | _ => []
    return (← host.node target).metadata
  return node.metadata

def readLink (host : FixedHost) (path : Text) : Except HostError LinkTarget := do
  match (← host.node path).target with
  | some target => return target
  | none => throw (.code Errno.invalid)

def openDir (host : FixedHost) (path : Text) : Except HostError Listing := do
  let node ← host.node path
  if node.metadata.fileType = .directory then return node.listing.map .read
  throw (.code Errno.notDirectory)

/-- The failure that a call has been made to have. -/
def failure? (host : FixedHost) (call : Call) : Option HostError :=
  host.failures.lookup (call.name, call.paths.headD [])

/-- The answer to a call that has not been made to fail. -/
def respond (host : FixedHost) : (call : Call) → Except HostError call.Reply
  | .stat path => host.stat path
  | .lstat path => FixedNode.metadata <$> host.node path
  | .readLink path => host.readLink path
  | .openDir path => host.openDir path
  | .openFile _ | .link _ _ | .rename _ _ | .symlink _ _ | .truncate _ _ | .chmod _ _ | .mkdir _ _
  | .chown _ _ _ | .lchown _ _ _ | .utimes _ _ _ | .rmdir _ | .unlink _ | .chdir _ | .chroot _ =>
    .ok ()

/-- The fixed host as a host whose state is the interrupt flag. -/
def toHost (host : FixedHost) : Host Bool where
  answer call raised :=
    (match host.failure? call with
      | some failure => .error failure
      | none => host.respond call, raised)
  raised := id

end FixedHost

end PathJail
