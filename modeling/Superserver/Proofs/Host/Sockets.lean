import Superserver.Host.Socket
import Superserver.Proofs.Host.Paths
import Superserver.Proofs.Net.Encoding

/-!
Sockets behind descriptors. Main statements: a descriptor names its socket while others are opened
and closed; and binding makes an entry for a unix socket with a path, and nothing else in the tree.
-/

namespace Superserver

namespace Registry

variable {α : Type} (registry : Registry α)

theorem get?_erase (number other : Nat) :
    (registry.erase number).get? other = if other = number then none else registry.get? other := by
  simp [get?, erase, lookup_filter_ne]

theorem get?_modify (number other : Nat) (change : α → α) :
    (registry.modify number change).get? other =
      if other = number then (registry.get? other).map change else registry.get? other := by
  obtain ⟨entries⟩ := registry
  simp only [get?, modify]
  induction entries with
  | nil => simp
  | cons entry entries ih =>
      obtain ⟨key, value⟩ := entry
      by_cases own : key = number <;> by_cases same : other = key
      · subst own
        subst same
        simp
      · have differ : (other == key) = false := by simpa using same
        subst own
        simpa [List.lookup_cons, differ, same] using ih
      · subst same
        simp [own]
      · have differ : (other == key) = false := by simpa using same
        simpa [List.lookup_cons, differ, own] using ih

theorem any_of_get? {number : Nat} {value : α} (found : registry.get? number = some value)
    {holds : α → Bool} (held : holds value = true) : registry.any holds = true := by
  obtain ⟨before, after, parts, _⟩ := List.lookup_eq_some_iff.mp found
  simp [any, parts, held]

end Registry

namespace Host

/-- The descriptor names the open file of a socket, and what is numbered later is another. -/
def Names (host : Host) (descriptor : Descriptor) (number : Nat) : Prop :=
  ∃ handle file, host.handles.get? descriptor = some handle ∧
    host.files.get? handle.file = some file ∧ file.resource = .socket number ∧
    descriptor < host.nextDescriptor ∧ handle.file < host.nextNumber ∧ number < host.nextNumber

def Retains (host after : Host) : Prop :=
  ∀ descriptor number, host.Names descriptor number → after.Names descriptor number

variable {host after : Host} {descriptor : Descriptor} {number : Nat}

theorem Names.resource? (names : host.Names descriptor number) :
    host.resource? descriptor = some (.socket number) := by
  obtain ⟨handle, file, handled, opened, resource, _⟩ := names
  simp [Host.resource?, handled, opened, resource]

theorem retains_of_same (handles : after.handles = host.handles) (files : after.files = host.files)
    (descriptors : after.nextDescriptor = host.nextDescriptor)
    (numbers : after.nextNumber = host.nextNumber) : host.Retains after := by
  intro descriptor number names
  unfold Names
  rw [handles, files, descriptors, numbers]
  exact names

theorem Retains.trans {last : Host} (retains : host.Retains after) (next : after.Retains last) :
    host.Retains last :=
  fun descriptor number names => next descriptor number (retains descriptor number names)

theorem names_close (names : host.Names descriptor number) {other : Descriptor}
    (apart : descriptor ≠ other) : (host.close other).Names descriptor number := by
  obtain ⟨handle, file, handled, opened, resource, older, earlier, known⟩ := names
  unfold close
  cases closed : host.handles.get? other with
  | none => exact ⟨handle, file, handled, opened, resource, older, earlier, known⟩
  | some gone =>
      have kept : (host.handles.erase other).get? descriptor = some handle := by
        rw [Registry.get?_erase, if_neg apart, handled]
      simp only
      split
      · exact ⟨handle, file, kept, opened, resource, older, earlier, known⟩
      · rename_i alone
        -- An open file lives on for as long as any descriptor names it.
        have differ : handle.file ≠ gone.file := by
          intro same
          exact alone (Registry.any_of_get? _ kept (by simpa using same))
        refine ⟨handle, file, kept, ?_, resource, older, earlier, known⟩
        rw [Registry.get?_erase, if_neg differ, opened]

theorem tree_close (descriptor : Descriptor) (host : Host) :
    (host.close descriptor).tree = host.tree ∧
      (host.close descriptor).directory = host.directory := by
  unfold close
  split
  · exact ⟨rfl, rfl⟩
  · simp only
    split <;> exact ⟨rfl, rfl⟩

theorem openSocket_cases (domain type : Int) (host : Host) :
    (∃ error, host.openSocket domain type = (.error error, host)) ∨
    ∃ after, host.openSocket domain type = (.ok host.nextDescriptor, after) ∧
      after.tree = host.tree ∧ after.directory = host.directory ∧
      after.Names host.nextDescriptor host.nextNumber ∧ host.Retains after := by
  unfold openSocket
  simp only
  split
  · exact .inl ⟨_, rfl⟩
  · split
    · exact .inl ⟨_, rfl⟩
    · split
      · refine .inr ⟨_, rfl, rfl, rfl, ?_, ?_⟩
        · refine ⟨{ file := host.nextNumber + 1, closeOnExec := true },
            { resource := .socket host.nextNumber, nonblocking := true }, ?_, ?_, rfl,
            Nat.lt_succ_self _, Nat.lt_succ_self _, ?_⟩
          · simp [enterSocket, openFile, openHandle, Registry.get?_insert]
          · simp [enterSocket, openFile, openHandle, Registry.get?_insert]
          · simp only [enterSocket, openFile, openHandle]
            omega
        · rintro descriptor number ⟨handle, file, handled, opened, resource, older, earlier, known⟩
          have otherDescriptor : descriptor ≠ host.nextDescriptor := Nat.ne_of_lt older
          have otherFile : handle.file ≠ host.nextNumber + 1 := by omega
          refine ⟨handle, file, ?_, ?_, resource, ?_, ?_, ?_⟩
          · simp [enterSocket, openFile, openHandle, Registry.get?_insert, otherDescriptor, handled]
          · simp [enterSocket, openFile, openHandle, Registry.get?_insert, otherFile, opened]
          · exact Nat.lt_succ_of_lt older
          · simp only [enterSocket, openFile, openHandle]
            omega
          · simp only [enterSocket, openFile, openHandle]
            omega
      · exact .inl ⟨_, rfl⟩

/-! ### Binding -/

theorem family_of_decode {raw : RawAddress} {path : Option Bytes}
    (decoded : raw.decode = .ok (.unix path)) : raw.family = Family.unix := by
  unfold RawAddress.decode at decoded
  split at decoded
  · split at decoded <;> cases decoded
  · split at decoded <;> cases decoded
  · assumption
  · cases decoded
  · cases decoded
  · cases decoded

theorem listen_of_socket {socket : Socket} (found : host.socket? descriptor = .ok (number, socket))
    (backlog : Int) :
    ∃ after, host.listen descriptor backlog = (.ok (), after) ∧ after.tree = host.tree ∧
      after.directory = host.directory ∧ host.Retains after := by
  unfold listen
  rw [found]
  exact ⟨_, rfl, rfl, rfl, retains_of_same rfl rfl rfl rfl⟩

def Enters (host : Host) (descriptor : Descriptor) (raw : RawAddress) (tree : FileTree) : Prop :=
  match raw.decode with
  | .ok (.unix (some path)) => ∃ number, host.resource? descriptor = some (.socket number) ∧
      host.tree.create host.directory path (.socket number) = .ok tree
  | .ok (.unix none) => False
  | _ => tree = host.tree

theorem Enters.tree_eq {raw : RawAddress} {tree : FileTree}
    (enters : host.Enters descriptor raw tree) (other : ∀ path, raw.decode ≠ .ok (.unix path)) :
    tree = host.tree := by
  unfold Enters at enters
  split at enters
  · rename_i path decoded
    exact absurd decoded (other _)
  · exact enters.elim
  · exact enters

theorem bindInternet_cases (host : Host) (number : Nat) (address : PeerAddress) :
    (∃ error, host.bindInternet number address = .error error) ∨
      ∃ name, host.bindInternet number address = .ok (host.nameSocket number name) := by
  unfold bindInternet
  split
  · exact .inl ⟨_, rfl⟩
  · simp only
    split
    · exact .inl ⟨_, rfl⟩
    · split
      · exact .inr ⟨_, rfl⟩
      · exact .inl ⟨_, rfl⟩

theorem socket?_eq_ok_iff {socket : Socket} :
    host.socket? descriptor = .ok (number, socket) ↔
      host.resource? descriptor = some (.socket number) ∧
        host.sockets.get? number = some socket := by
  unfold socket?
  cases host.resource? descriptor with
  | none => simp
  | some resource =>
      cases resource with
      | socket other =>
          simp only
          cases found : host.sockets.get? other with
          | none =>
              simp only [Option.some.injEq, Resource.socket.injEq, reduceCtorEq, false_iff, not_and]
              rintro rfl
              simp [found]
          | some entered =>
              simp only [Except.ok.injEq, Prod.mk.injEq, Option.some.injEq, Resource.socket.injEq]
              refine and_congr_right ?_
              rintro rfl
              simp [found]
      | _ => simp

theorem socket?_nameSocket {socket : Socket}
    (found : host.socket? descriptor = .ok (number, socket)) (name : RawAddress) :
    (host.nameSocket number name).socket? descriptor =
      .ok (number, { socket with name := some name }) := by
  obtain ⟨resource, entered⟩ := socket?_eq_ok_iff.mp found
  refine socket?_eq_ok_iff.mpr ⟨resource, ?_⟩
  simp [nameSocket, Registry.get?_modify, entered]

/-- For a unix socket that may listen, only room for its descriptor can be missing. -/
theorem openSocket_unix {type : Nat}
    (listens : type = SocketType.stream ∨ type = SocketType.seqpacket) (host : Host) :
    host.openSocket (Int.ofNat Family.unix) (Int.ofNat type) =
      if host.hasRoom 1 then
        let (number, entered) := host.enterSocket
          { domain := Family.unix, type := givenType Family.unix type }
        let (descriptor, opened) := entered.openFile (.socket number) true
        (.ok descriptor, opened)
      else (.error (.numbered Errno.tooManyDescriptors), host) := by
  rcases listens with rfl | rfl <;> rfl

theorem openSocket_of_room {type : Nat}
    (listens : type = SocketType.stream ∨ type = SocketType.seqpacket)
    (room : host.hasRoom 1 = true) :
    ∃ after socket, host.openSocket (Int.ofNat Family.unix) (Int.ofNat type) =
        (.ok host.nextDescriptor, after) ∧ after.tree = host.tree ∧
      after.directory = host.directory ∧
      after.socket? host.nextDescriptor = .ok (host.nextNumber, socket) := by
  rw [openSocket_unix listens, if_pos room]
  let socket : Socket := { domain := Family.unix, type := givenType Family.unix type }
  refine ⟨_, socket, rfl, rfl, rfl, socket?_eq_ok_iff.mpr ⟨?_, ?_⟩⟩
  · simp [resource?, Registry.get?_insert]
  · simp [Registry.get?_insert, socket]

theorem bind_of_create {raw : RawAddress} {path : Bytes} {socket : Socket} {tree : FileTree}
    (found : host.socket? descriptor = .ok (number, socket))
    (decoded : raw.decode = .ok (.unix (some path)))
    (made : host.tree.create host.directory path (.socket number) = .ok tree) :
    ∃ after socket, host.bind descriptor raw = (.ok (), after) ∧
      after.socket? descriptor = .ok (number, socket) := by
  have entered : Host.socket? descriptor { host with tree } = .ok (number, socket) := found
  refine ⟨nameSocket { host with tree } number (pathName path), _, ?_,
    socket?_nameSocket entered _⟩
  simp only [Host.bind, Bind.bind, Except.bind, found, decoded, bindPath, made]
  rfl

theorem bind_cases (descriptor : Descriptor) (raw : RawAddress) (host : Host) :
    (∃ error, host.bind descriptor raw = (.error error, host)) ∨
    ∃ after number socket, host.bind descriptor raw = (.ok (), after) ∧
      after.directory = host.directory ∧ host.Retains after ∧
      after.socket? descriptor = .ok (number, socket) ∧
      host.Enters descriptor raw after.tree := by
  unfold Host.bind Enters
  cases found : host.socket? descriptor with
  | error error => exact .inl ⟨_, rfl⟩
  | ok named =>
      obtain ⟨number, socket⟩ := named
      simp only [Bind.bind, Except.bind]
      cases raw.decode with
      | error error => exact .inl ⟨_, rfl⟩
      | ok peer =>
          cases peer with
          | unix path =>
              cases path with
              | none => exact .inl ⟨_, rfl⟩
              | some path =>
                  simp only [bindPath]
                  cases made : host.tree.create host.directory path (.socket number) with
                  | error error => exact .inl ⟨_, rfl⟩
                  | ok tree =>
                      have entered : Host.socket? descriptor { host with tree } =
                          .ok (number, socket) := found
                      refine .inr ⟨_, _, _, rfl, rfl, retains_of_same rfl rfl rfl rfl,
                        socket?_nameSocket entered _, number, ?_, made⟩
                      exact (socket?_eq_ok_iff.mp found).1
          | _ =>
              simp only
              rcases bindInternet_cases host number _ with ⟨error, failed⟩ | ⟨name, named⟩
              · rw [failed]
                exact .inl ⟨_, rfl⟩
              · rw [named]
                exact .inr ⟨_, _, _, rfl, rfl, retains_of_same rfl rfl rfl rfl,
                  socket?_nameSocket found name, rfl⟩

theorem bind_listen_cases (descriptor : Descriptor) (raw : RawAddress) (backlog : Int)
    (host : Host) :
    (∃ error, host.bind descriptor raw = (.error error, host)) ∨
    ∃ bound after, host.bind descriptor raw = (.ok (), bound) ∧
      bound.listen descriptor backlog = (.ok (), after) ∧ after.directory = host.directory ∧
      host.Retains after ∧ host.Enters descriptor raw after.tree := by
  rcases bind_cases descriptor raw host with failed |
    ⟨bound, number, socket, done, directory, retains, found, enters⟩
  · exact .inl failed
  · obtain ⟨after, listens, tree, same, kept⟩ := listen_of_socket found backlog
    rw [← tree] at enters
    exact .inr ⟨bound, after, done, listens, same.trans directory, retains.trans kept, enters⟩

end Host

end Superserver
