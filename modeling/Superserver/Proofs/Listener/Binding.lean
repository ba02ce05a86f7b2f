import Superserver.Listener.Bind
import Superserver.Proofs.Host.Sockets

/-!
What binding and dropping a listener do to the tree of files. Main statement: binding leaves the
tree as it was apart from a socket that its path led to, and one that comes off enters its own
socket in the place that the path leads to.
-/

namespace Superserver

namespace Listener

open FileTree

/-! ### Sockets left behind -/

def cleared (address : ListenAddress) (host : Host) : FileTree :=
  match address with
  | .unix path => (removeStale path host).2.tree
  | _ => host.tree

theorem removeStale_eq (path : Bytes) (host : Host) :
    (removeStale path host).2 = { host with tree := cleared (.unix path) host } := by
  unfold cleared removeStale
  simp only
  split
  · split <;> rfl
  · rfl

theorem cleared_of_same {address : ListenAddress} {host after : Host}
    (tree : after.tree = host.tree) (directory : after.directory = host.directory) :
    cleared address after = cleared address host := by
  cases address with
  | unix path =>
      simp only [cleared, removeStale, tree, directory]
      split
      · split <;> simp [tree]
      · exact tree
  | _ => exact tree

theorem proper_of_socket {tree : FileTree} {place : Path} {number : Nat}
    (found : tree.node? place = some (.socket number)) : place ≠ [] := by
  rintro rfl
  cases found

theorem cleared_cases (address : ListenAddress) (host : Host) :
    cleared address host = host.tree ∨
    ∃ path place number, address = .unix path ∧
      host.tree.locate false host.directory path = .ok place ∧
      host.tree.node? place = some (.socket number) ∧
      cleared address host = host.tree.drop place := by
  cases address with
  | unix path =>
      simp only [cleared, removeStale]
      split
      · rename_i number found
        obtain ⟨place, located, found⟩ := find_eq_ok_iff.mp found
        rw [remove_of_locate located found]
        by_cases writable : host.tree.parentWritable place = true
        · rw [if_pos writable]
          exact .inr ⟨path, place, number, rfl, located, found, rfl⟩
        · rw [if_neg writable]
          exact .inl rfl
      · exact .inl rfl
  | _ => exact .inl rfl

theorem absolute_of_same {host after : Host} (directory : after.directory = host.directory)
    (path : Bytes) : absolute path after = absolute path host := by
  rw [absolute, absolute, directory]

theorem alike_cleared (address : ListenAddress) (host : Host) :
    Alike host.tree (cleared address host) := by
  rcases cleared_cases address host with same | ⟨path, place, number, _, located, found, dropped⟩
  · rw [same]
    exact .refl _
  · rw [dropped]
    exact .drop (proper_of_socket found) (by rw [found]; rfl)

def placeOf (address : ListenAddress) (host : Host) : Option Path :=
  match address with
  | .unix path => (host.tree.locate false host.directory path).toOption
  | _ => none

theorem placeOf_of_other {address : ListenAddress} (host : Host)
    (other : ∀ path, address ≠ .unix path) : placeOf address host = none := by
  cases address with
  | unix path => exact absurd rfl (other path)
  | _ => rfl

theorem node?_cleared {address : ListenAddress} {host : Host} {place : Path}
    (other : placeOf address host ≠ some place) :
    (cleared address host).node? place = host.tree.node? place := by
  rcases cleared_cases address host with same | ⟨path, spot, number, rfl, located, found, dropped⟩
  · rw [same]
  · rw [dropped, node?_drop (proper_of_socket found), if_neg]
    rintro rfl
    exact other (by simp [placeOf, located, Except.toOption])

theorem absolute_eq_behind {host : Host} {path : Bytes}
    (plain : ∀ name ∈ host.directory, Plain name) (relative : isAbsolute path = false) :
    absolute path host = behind host.directory path := by
  rw [absolute, relative]
  by_cases root : host.directory = []
  · simp [root, spell, endsInSlash, behind]
  · simp only [endsInSlash_spell root plain, Bool.false_eq_true, if_false]
    simp [spell, root, behind]

/-- What a path leads to from the working directory its absolute form leads to from everywhere. -/
theorem locate_absolute {host : Host} {tree : FileTree} {path : Bytes} {place : Path}
    (stands : tree.Stands host.directory) (entered : path ≠ [])
    (located : tree.locate false host.directory path = .ok place)
    (short : (absolute path host).length < pathMax) (here : Path) :
    tree.locate false here (absolute path host) = .ok place := by
  cases kind : isAbsolute path with
  | true =>
      rw [absolute, if_pos kind, locate_of_absolute kind false host.directory, located]
  | false =>
      rw [absolute_eq_behind stands.plain kind] at short ⊢
      rw [locate_behind stands entered kind short, located]

/-! ### Binding -/

inductive Binding (address : ListenAddress) (host : Host) :
    Except ListenerError Listener → Host → Prop where
  | unopened {error : ListenerError} :
      (∀ cause, error ≠ .bind address cause) → Binding address host (.error error) host
  | refused {after : Host} {cause : SystemError} :
      host.Retains after → after.directory = host.directory → after.tree = cleared address host →
        Binding address host (.error (.bind address cause)) after
  | unfiled {after : Host} {listener : Listener} :
      (∀ path, address ≠ .unix path) → listener.socketPath = none →
        listener.descriptor = host.nextDescriptor →
        after.Names listener.descriptor host.nextNumber → host.Retains after →
        after.directory = host.directory → after.tree = host.tree →
        Binding address host (.ok listener) after
  | filed {after : Host} {listener : Listener} {path : Bytes} {place : Path} :
      address = .unix path → listener.socketPath = some (absolute path host) →
        listener.descriptor = host.nextDescriptor →
        after.Names listener.descriptor host.nextNumber → host.Retains after →
        after.directory = host.directory → place ≠ [] → path ≠ [] →
        (cleared address host).locate false host.directory path = .ok place →
        (cleared address host).node? place = none →
        (cleared address host).parentWritable place = true →
        after.tree = (cleared address host).put place (.socket host.nextNumber) →
        Binding address host (.ok listener) after

theorem decode_of_encode {path : Bytes} {raw : RawAddress}
    (encoded : RawAddress.encode (.unix path) = .ok raw) :
    raw.decode = .ok (ListenAddress.peer (.unix path)) := by
  by_cases unfit : ListenAddress.Unfit (.unix path)
  · obtain ⟨fault, failed⟩ := RawAddress.encode_of_unfit unfit
    rw [failed] at encoded
    cases encoded
  · obtain ⟨other, formed, faithful⟩ := RawAddress.encode_of_fit unfit
    cases formed.symm.trans encoded
    exact (faithful trivial).decoded

theorem not_unix_of_encode {address : ListenAddress} {raw : RawAddress}
    (encoded : RawAddress.encode address = .ok raw) (other : ∀ path, address ≠ .unix path)
    (path : Option Bytes) : raw.decode ≠ .ok (.unix path) := by
  intro decoded
  have family := Host.family_of_decode decoded
  cases address with
  | inet ip port =>
      cases encoded
      rw [(RawAddress.faithful_inet rfl).family] at family
      cases family
  | inet6 ip port flowInfo scopeId =>
      cases encoded
      rw [(RawAddress.faithful_inet6 rfl).family] at family
      cases family
  | unix path => exact other path rfl
  | vsock port cid =>
      cases encoded
      rw [(RawAddress.faithful_vsock rfl).family] at family
      cases family
  | x25 digits =>
      simp only [RawAddress.encode] at encoded
      split at encoded
      · cases encoded
      · rename_i short
        have fits : (bytesOf digits).length ≤ 126 := by
          rw [length_bytesOf]
          have room : RawAddress.x25Room = 16 := rfl
          omega
        cases encoded
        rw [RawAddress.family_ofParts rfl fits (by decide)] at family
        cases family

theorem retains_close {host after : Host} (retains : host.Retains after) :
    host.Retains (after.close host.nextDescriptor) := by
  intro descriptor number names
  have apart : descriptor ≠ host.nextDescriptor := by
    obtain ⟨_, _, _, _, _, older, _⟩ := names
    exact Nat.ne_of_lt older
  exact Host.names_close (retains descriptor number names) apart

/-- The socket of an encoded path is entered where the path leads. -/
theorem entered_of_encode {path : Bytes} {raw : RawAddress}
    (encoded : RawAddress.encode (.unix path) = .ok raw) {host : Host} {descriptor : Descriptor}
    {number : Nat} (named : host.Names descriptor number) {tree : FileTree}
    (enters : host.Enters descriptor raw tree) :
    path ≠ [] ∧ ∃ place, place ≠ [] ∧ host.tree.locate false host.directory path = .ok place ∧
      host.tree.node? place = none ∧ host.tree.parentWritable place = true ∧
      tree = host.tree.put place (.socket number) := by
  unfold Host.Enters at enters
  rw [decode_of_encode encoded] at enters
  cases path with
  | nil => exact enters.elim
  | cons byte rest =>
      obtain ⟨other, own, made⟩ := enters
      obtain rfl : other = number := by simpa using own.symm.trans named.resource?
      exact ⟨by simp, create_eq_ok made⟩

theorem bind_binding (address : ListenAddress) (kind : SocketKind) (backlog : Int) (host : Host) :
    Binding address host (bind address kind backlog host).2.1
      (bind address kind backlog host).2.2 := by
  unfold bind
  cases encoded : RawAddress.encode address with
  | error error => exact .unopened (by simp)
  | ok raw =>
      simp only
      rcases Host.openSocket_cases (Int.ofNat raw.family) (Int.ofNat (socketType kind)) host with
        ⟨error, failed⟩ | ⟨opened, done, tree, directory, named, retains⟩
      · rw [failed]
        exact .unopened (by simp)
      · rw [done]
        cases address with
        | unix path =>
            -- The new socket has no entry yet, so what is removed is what was there before.
            let ready : Host := { opened with tree := cleared (.unix path) host }
            have readied : (removeStale path opened).2 = ready := by
              rw [removeStale_eq, cleared_of_same tree directory]
            have retained : host.Retains ready :=
              retains.trans (Host.retains_of_same rfl rfl rfl rfl)
            have known : ready.Names host.nextDescriptor host.nextNumber := named
            simp only [readied]
            rcases Host.bind_listen_cases host.nextDescriptor raw backlog ready with
              ⟨error, failed⟩ | ⟨bound, last, done, listens, placed, kept, enters⟩
            · rw [failed]
              obtain ⟨closedTree, closedDirectory⟩ := Host.tree_close host.nextDescriptor ready
              exact .refused (retains_close retained) (closedDirectory.trans directory) closedTree
            · rw [done]
              simp only [listens]
              obtain ⟨entered, place, proper, located, free, writable, grown⟩ :=
                entered_of_encode encoded known enters
              rw [show ready.directory = host.directory from directory] at located
              exact .filed rfl (congrArg some (absolute_of_same directory _)) rfl (kept _ _ known)
                (retained.trans kept) (placed.trans directory) proper entered located free writable
                grown
        | _ =>
            simp only
            rcases Host.bind_listen_cases host.nextDescriptor raw backlog opened with
              ⟨error, failed⟩ | ⟨bound, last, done, listens, placed, kept, enters⟩
            · rw [failed]
              obtain ⟨closedTree, closedDirectory⟩ := Host.tree_close host.nextDescriptor opened
              exact .refused (retains_close retains) (closedDirectory.trans directory)
                (closedTree.trans tree)
            · rw [done]
              simp only [listens]
              have bare : last.tree = opened.tree :=
                enters.tree_eq (not_unix_of_encode encoded (by simp))
              exact .unfiled (by simp) rfl rfl (kept _ _ named) (retains.trans kept)
                (placed.trans directory) (bare.trans tree)

/-- A socket that is entered stands where its path led before and leads now. -/
theorem entry_of_filed {address : ListenAddress} {host after : Host} {path : Bytes} {place : Path}
    (unix : address = .unix path) (directory : after.directory = host.directory)
    (proper : place ≠ [])
    (located : (cleared address host).locate false host.directory path = .ok place)
    (free : (cleared address host).node? place = none)
    (tree : after.tree = (cleared address host).put place (.socket host.nextNumber)) :
    Alike host.tree after.tree ∧ placeOf address host = some place ∧
      placeOf address after = some place ∧
      after.tree.node? place = some (.socket host.nextNumber) ∧
      ∀ spot, spot ≠ place → after.tree.node? spot = (cleared address host).node? spot := by
  -- No path goes through a socket, so all paths lead where they led before.
  have alike := alike_cleared address host
  have grown : Alike (cleared address host) after.tree := by
    rw [tree]
    exact .put proper (by rw [free]; rfl) rfl
  refine ⟨alike.trans grown, ?_, ?_, ?_, fun spot other => ?_⟩
  · simp [unix, placeOf, alike.symm.locate located, Except.toOption]
  · simp [unix, placeOf, directory, grown.locate located, Except.toOption]
  · rw [tree, node?_put proper, if_pos rfl]
  · rw [tree, node?_put proper, if_neg other]

/-! ### Dropping -/

/-- The tree without the entry that the listener's path leads to. -/
def unfiled (listener : Listener) (host : Host) : FileTree :=
  match listener.socketPath with
  | none => host.tree
  | some path =>
      match host.tree.remove host.directory path with
      | .ok tree => tree
      | .error _ => host.tree

theorem drop_leaves (listener : Listener) (host : Host) :
    (listener.drop host).2.tree = listener.unfiled host ∧
      (listener.drop host).2.directory = host.directory ∧
      ∀ descriptor number, descriptor ≠ listener.descriptor → host.Names descriptor number →
        (listener.drop host).2.Names descriptor number := by
  have closed : ∀ tree, (Host.close listener.descriptor { host with tree }).tree = tree ∧
      (Host.close listener.descriptor { host with tree }).directory = host.directory ∧
      ∀ descriptor number, descriptor ≠ listener.descriptor → host.Names descriptor number →
        (Host.close listener.descriptor { host with tree }).Names descriptor number := by
    intro tree
    obtain ⟨left, directory⟩ := Host.tree_close listener.descriptor { host with tree }
    refine ⟨left, directory, fun descriptor number apart names => ?_⟩
    have names : Host.Names { host with tree } descriptor number := names
    exact Host.names_close names apart
  unfold drop unfiled
  cases listener.socketPath with
  | none => exact closed host.tree
  | some path =>
      simp only
      cases host.tree.remove host.directory path with
      | error error => exact closed host.tree
      | ok tree => exact closed tree

end Listener

end Superserver
