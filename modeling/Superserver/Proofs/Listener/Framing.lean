import Superserver.Proofs.Listener.SocketFiles

/-!
What a listener with a path does to the files. Main statement: a binding that fails leaves the tree
as it was, one that comes off changes the one place that its path leads to, and dropping the
listener clears this place again from any working directory, unless its path from the root is too
long to be looked up.
-/

namespace Superserver

namespace Listener

open FileTree

/-! ### Places for a socket -/

/-- The path leads to where a socket can be entered: no more than a socket stands there, and the
directory is open for changes. -/
structure Takes (host : Host) (path : Bytes) (place : Path) : Prop where
  leads : host.tree.locate false host.directory path = .ok place
  bare : ∀ node, host.tree.node? place = some node → ∃ number, node = .socket number
  writable : host.tree.parentWritable place = true

variable {host : Host} {path : Bytes} {place : Path}

theorem Takes.proper (takes : Takes host path place) : place ≠ [] := by
  rintro rfl
  obtain ⟨number, same⟩ := takes.bare (.directory false) rfl
  cases same

theorem Takes.node?_cleared (takes : Takes host path place) (spot : Path) :
    (cleared (.unix path) host).node? spot =
      if spot = place then none else host.tree.node? spot := by
  cases found : host.tree.node? place with
  | none =>
      have missing : host.tree.find false host.directory path = .error Errno.noEntry := by
        simp only [find, Bind.bind, Except.bind, takes.leads, found]
      have same : cleared (.unix path) host = host.tree := by
        simp only [cleared, removeStale, missing]
      rw [same]
      split
      · rename_i own
        rw [own, found]
      · rfl
  | some node =>
      obtain ⟨number, rfl⟩ := takes.bare node found
      have stale := find_eq_ok_iff.mpr ⟨place, takes.leads, found⟩
      have removed := remove_of_locate takes.leads found
      rw [if_pos takes.writable] at removed
      have dropped : cleared (.unix path) host = host.tree.drop place := by
        simp only [cleared, removeStale, stale, removed]
      rw [dropped, node?_drop takes.proper]

/-- A socket is removed only where the new one can be entered. -/
theorem takes_or_cleared_eq (path : Bytes) (host : Host) :
    (∃ place, Takes host path place) ∨ cleared (.unix path) host = host.tree := by
  simp only [cleared, removeStale]
  split
  · rename_i number found
    obtain ⟨place, located, found⟩ := find_eq_ok_iff.mp found
    by_cases writable : host.tree.parentWritable place = true
    · refine .inl ⟨place, located, fun node same => ⟨number, ?_⟩, writable⟩
      exact Option.some.inj (same.symm.trans found)
    · rw [remove_of_locate located found, if_neg writable]
      exact .inr rfl
  · exact .inr rfl

theorem takes_of_free
    (located : (cleared (.unix path) host).locate false host.directory path = .ok place)
    (free : (cleared (.unix path) host).node? place = none)
    (writable : (cleared (.unix path) host).parentWritable place = true) :
    Takes host path place := by
  have alike := alike_cleared (.unix path) host
  have leads := alike.symm.locate located
  refine ⟨leads, fun node found => ?_, alike.symm.parentWritable writable⟩
  rcases cleared_cases (.unix path) host with same | ⟨own, spot, number, unix, led, stale, dropped⟩
  · rw [same, found] at free
    cases free
  · cases unix
    obtain rfl : spot = place := Except.ok.inj (led.symm.trans leads)
    exact ⟨number, Option.some.inj (found.symm.trans stale)⟩

/-! ### Binding -/

theorem bind_of_unfit (unfit : ListenAddress.Unfit (.unix path)) (kind : SocketKind)
    (backlog : Int) (host : Host) :
    ∃ error, bind (.unix path) kind backlog host = ([], .error error, host) := by
  obtain ⟨fault, failed⟩ := RawAddress.encode_of_unfit unfit
  unfold bind
  rw [failed]
  exact ⟨_, rfl⟩

theorem socketType_listens (kind : SocketKind) :
    socketType kind = SocketType.stream ∨ socketType kind = SocketType.seqpacket := by
  cases kind with
  | stream => exact .inl rfl
  | seqpacket => exact .inr rfl

theorem decode_of_entered (entered : path ≠ []) {raw : RawAddress}
    (encoded : RawAddress.encode (.unix path) = .ok raw) :
    raw.decode = .ok (.unix (some path)) := by
  rw [decode_of_encode encoded]
  cases path with
  | nil => exact absurd rfl entered
  | cons byte rest => rfl

theorem bind_of_crowded (entered : path ≠ []) (crowded : ¬host.hasRoom 1 = true)
    (kind : SocketKind) (backlog : Int) :
    ∃ error, bind (.unix path) kind backlog host = ([], .error error, host) := by
  unfold bind
  cases encoded : RawAddress.encode (.unix path) with
  | error error => exact ⟨_, rfl⟩
  | ok raw =>
      have refused := Host.openSocket_unix (socketType_listens kind) host
      rw [if_neg crowded] at refused
      simp only [Host.family_of_decode (decode_of_entered entered encoded), refused]
      exact ⟨_, rfl⟩

theorem bind_of_takes (stands : host.tree.Stands host.directory) (entered : path ≠ [])
    (fit : ¬ListenAddress.Unfit (.unix path)) (room : host.hasRoom 1 = true)
    (takes : Takes host path place) (kind : SocketKind) (backlog : Int) :
    ∃ listener, (bind (.unix path) kind backlog host).2.1 = .ok listener := by
  obtain ⟨raw, encoded, _⟩ := RawAddress.encode_of_fit fit
  have decoded := decode_of_entered entered encoded
  obtain ⟨opened, socket, done, tree, directory, named⟩ :=
    Host.openSocket_of_room (socketType_listens kind) room
  let ready : Host := { opened with tree := cleared (.unix path) host }
  have readied : (removeStale path opened).2 = ready := by
    rw [removeStale_eq, cleared_of_same tree directory]
  have alike := alike_cleared (.unix path) host
  have start : (cleared (.unix path) host).Stands
      (if isAbsolute path then [] else host.directory) := by
    split
    · exact .root
    · exact alike.stands stands
  have free : (cleared (.unix path) host).node? place = none := by
    rw [takes.node?_cleared, if_pos rfl]
  have made : ready.tree.create ready.directory path (.socket host.nextNumber) =
      .ok ((cleared (.unix path) host).put place (.socket host.nextNumber)) := by
    rw [show ready.directory = host.directory from directory]
    exact create_of_locate start (alike.locate takes.leads) free
      (alike.parentWritable takes.writable)
  have known : ready.socket? host.nextDescriptor = .ok (host.nextNumber, socket) := named
  obtain ⟨bound, named, binds, found⟩ := Host.bind_of_create known decoded made
  obtain ⟨last, listens, _⟩ := Host.listen_of_socket found backlog
  unfold bind
  simp only [encoded, Host.family_of_decode decoded, done, readied, binds, listens]
  exact ⟨_, rfl⟩

/-! ### Later -/

def enter (host : Host) (path : Bytes) : Host :=
  match host.tree.directory host.directory path with
  | .ok directory => { host with directory }
  | .error _ => host

def wander (host : Host) (paths : List Bytes) : Host := paths.foldl enter host

theorem tree_enter (host : Host) (path : Bytes) : (enter host path).tree = host.tree := by
  unfold enter
  split <;> rfl

theorem tree_wander (host : Host) (paths : List Bytes) : (wander host paths).tree = host.tree := by
  induction paths generalizing host with
  | nil => rfl
  | cons path paths ih => exact (ih (enter host path)).trans (tree_enter host path)

/-- Nobody has touched the path: from the directory that it was bound in it still leads to the
place, and the socket stands there. The working directory may be another. -/
structure Undisturbed (host later : Host) (path : Bytes) (place : Path) (number : Nat) : Prop where
  stands : later.tree.Stands host.directory
  leads : later.tree.locate false host.directory path = .ok place
  writable : later.tree.parentWritable place = true
  found : later.tree.node? place = some (.socket number)

theorem Undisturbed.of_same {later last : Host} {number : Nat}
    (undisturbed : Undisturbed host later path place number) (tree : last.tree = later.tree) :
    Undisturbed host last path place number where
  stands := tree ▸ undisturbed.stands
  leads := tree ▸ undisturbed.leads
  writable := tree ▸ undisturbed.writable
  found := tree ▸ undisturbed.found

theorem node?_drop_of_undisturbed {later : Host} {listener : Listener} {number : Nat}
    (undisturbed : Undisturbed host later path place number) (entered : path ≠ [])
    (filed : listener.socketPath = some (absolute path host)) (spot : Path) :
    (listener.drop later).2.tree.node? spot =
      if spot = place ∧ (absolute path host).length < pathMax then none
      else later.tree.node? spot := by
  have proper := proper_of_socket undisturbed.found
  have lasting : Lasting later.tree (absolute path host) place := by
    refine ⟨proper, undisturbed.writable, fun short here => ?_⟩
    exact locate_absolute undisturbed.stands entered undisturbed.leads short here
  have left := (drop_leaves listener later).1.trans (lasting.unfiled_eq filed undisturbed.found)
  simp only [Held.unfiled, filed] at left
  rw [left]
  by_cases short : (absolute path host).length < pathMax
  · simp [short, node?_drop proper]
  · simp [short]

/-! ### From binding to dropping -/

theorem tree_of_refusal {error : ListenerError} {after : Host}
    (binding : Binding (.unix path) host (.error error) after)
    (untaken : cleared (.unix path) host = host.tree) : after.tree = host.tree := by
  cases binding with
  | unopened other => rfl
  | refused retains directory tree => exact tree.trans untaken

theorem place_of_binding (stands : host.tree.Stands host.directory) {listener : Listener}
    {after : Host} (binding : Binding (.unix path) host (.ok listener) after) :
    ∃ place, Takes host path place ∧
      (∀ spot, after.tree.node? spot =
        if spot = place then some (.socket host.nextNumber) else host.tree.node? spot) ∧
      after.Names listener.descriptor host.nextNumber ∧
      listener.socketPath = some (absolute path host) ∧
      Undisturbed host after path place host.nextNumber := by
  cases binding with
  | unfiled other => exact absurd rfl (other path)
  | @filed _ _ _ place unix filed _ named _ directory proper _ located free writable tree =>
      cases unix
      have takes := takes_of_free located free writable
      obtain ⟨alike, _, _, found, elsewhere⟩ :=
        entry_of_filed rfl directory proper located free tree
      refine ⟨place, takes, fun spot => ?_, named, filed, ?_⟩
      · by_cases own : spot = place
        · rw [if_pos own, own, found]
        · rw [if_neg own, elsewhere spot own, takes.node?_cleared, if_neg own]
      · exact ⟨alike.stands stands, alike.locate takes.leads, alike.parentWritable takes.writable,
          found⟩

/-- A binding that fails leaves the tree as it was. It comes off if the path can be encoded, there
is room for a descriptor, and the path leads to a place for a socket; then it changes this place and
no other, and dropping the listener from any working directory clears the place and no other, unless
the path from the root is too long to be looked up. -/
theorem place_entered_then_cleared_unless_overlong (host : Host)
    (stands : host.tree.Stands host.directory) (path : Bytes) (entered : path ≠ [])
    (kind : SocketKind) (backlog : Int) :
    let bound := (bind (.unix path) kind backlog host).2
    ((∃ listener, bound.1 = .ok listener) ↔
      ¬ListenAddress.Unfit (.unix path) ∧ host.hasRoom 1 = true ∧
        ∃ place, Takes host path place) ∧
    (∀ error, bound.1 = .error error → bound.2.tree = host.tree) ∧
    ∀ listener, bound.1 = .ok listener →
      ∃ place, Takes host path place ∧
        (∀ spot, bound.2.tree.node? spot =
          if spot = place then some (.socket host.nextNumber) else host.tree.node? spot) ∧
        bound.2.Names listener.descriptor host.nextNumber ∧
        (∀ paths, Undisturbed host (wander bound.2 paths) path place host.nextNumber) ∧
        ∀ later, Undisturbed host later path place host.nextNumber →
          ∀ spot, (listener.drop later).2.tree.node? spot =
            if spot = place ∧ (absolute path host).length < pathMax then none
            else later.tree.node? spot := by
  intro bound
  have binding : Binding (.unix path) host bound.1 bound.2 :=
    bind_binding (.unix path) kind backlog host
  by_cases unfit : ListenAddress.Unfit (.unix path)
  · obtain ⟨error, failed⟩ := bind_of_unfit unfit kind backlog host
    have same : bound = (.error error, host) := congrArg (·.2) failed
    simp [same, unfit]
  by_cases room : host.hasRoom 1 = true
  · have taken : ∀ place, Takes host path place → ∃ listener, bound.1 = .ok listener :=
      fun place takes => bind_of_takes stands entered unfit room takes kind backlog
    refine ⟨⟨?_, fun able => able.2.2.elim taken⟩, ?_, ?_⟩
    · rintro ⟨listener, done⟩
      rw [done] at binding
      obtain ⟨place, takes, _⟩ := place_of_binding stands binding
      exact ⟨unfit, room, place, takes⟩
    · -- What is removed on the way is removed only where the binding then comes off.
      intro error failed
      rcases takes_or_cleared_eq path host with ⟨place, takes⟩ | untaken
      · obtain ⟨listener, done⟩ := taken place takes
        cases failed.symm.trans done
      · rw [failed] at binding
        exact tree_of_refusal binding untaken
    · intro listener done
      rw [done] at binding
      obtain ⟨place, takes, changed, named, filed, undisturbed⟩ := place_of_binding stands binding
      refine ⟨place, takes, changed, named, fun paths => undisturbed.of_same (tree_wander _ paths),
        ?_⟩
      exact fun later undisturbed => node?_drop_of_undisturbed undisturbed entered filed
  · obtain ⟨error, failed⟩ := bind_of_crowded entered room kind backlog
    have same : bound = (.error error, host) := congrArg (·.2) failed
    simp [same, room]

/-! ### A path that is too long from the root -/

theorem lookup_map_of_mem {ι κ α : Type} [BEq κ] [LawfulBEq κ] {indices : List ι} {index : ι}
    (member : index ∈ indices) (key : ι → κ) (value : α) :
    (indices.map fun index => (key index, value)).lookup (key index) = some value := by
  induction indices with
  | nil => cases member
  | cons first indices ih =>
      rw [List.map_cons, List.lookup_cons]
      by_cases own : key index = key first
      · simp [own]
      · have differ : (key index == key first) = false := by simpa using own
        rw [differ]
        refine ih ((List.mem_cons.mp member).resolve_left ?_)
        rintro rfl
        exact own rfl

theorem node?_workingIn {directory : Path} {count : Nat} (inside : count < directory.length) :
    (Host.workingIn directory).tree.node? (directory.take (count + 1)) =
      some (.directory true) := by
  have proper : (directory.take (count + 1)).isEmpty = false := by
    cases directory with
    | nil => cases inside
    | cons name rest => rfl
  have made := lookup_map_of_mem (List.mem_range.mpr inside)
    (fun count => directory.take (count + 1)) (Node.directory true)
  simp [Host.workingIn, node?, proper, List.lookup_append, made]

theorem length_standardEntries : ∀ entry ∈ Host.standardEntries, entry.1.length ≤ 2 := by decide

theorem node?_workingIn_eq_none {directory : Path} (deep : 2 ≤ directory.length) (name : Bytes) :
    (Host.workingIn directory).tree.node? (directory ++ [name]) = none := by
  have proper : (directory ++ [name]).isEmpty = false := by simp
  -- Every entry has a shorter path.
  have shorter : ∀ entry ∈ (Host.workingIn directory).tree.entries,
      entry.1.length ≤ directory.length := by
    intro entry member
    rcases List.mem_append.mp member with member | member
    · obtain ⟨count, _, rfl⟩ := List.mem_map.mp member
      exact List.length_take_le' ..
    · exact Nat.le_trans (length_standardEntries entry member) deep
  rw [node?, proper]
  refine List.lookup_eq_none_iff.mpr fun entry member => ?_
  have short := shorter entry member
  refine bne_iff_ne.mpr fun same => ?_
  rw [← same, List.length_append, List.length_singleton] at short
  omega

theorem stands_workingIn {directory : Path}
    (names : ∀ name ∈ directory, Plain name ∧ Proper name) :
    (Host.workingIn directory).tree.Stands directory := by
  have upTo : ∀ count ≤ directory.length,
      (Host.workingIn directory).tree.Stands (directory.take count) := by
    intro count
    induction count with
    | zero => exact fun _ => .root
    | succ count ih =>
        intro inside
        have found := node?_workingIn inside
        have own := names directory[count] (List.getElem_mem inside)
        rw [List.take_succ_eq_append_getElem inside] at found ⊢
        exact .enter (ih (Nat.le_of_succ_le inside)) own.1 own.2 found
  simpa using upTo directory.length (Nat.le_refl _)

/-- A name that repeats one letter. -/
theorem named_of_replicate {count : Nat} {byte : UInt8} (filled : 0 < count)
    (short : count ≤ nameMax) (letter : byte ≠ slash ∧ byte ≠ 46) :
    Plain (List.replicate count byte) ∧ Proper (List.replicate count byte) := by
  have member : byte ∈ List.replicate count byte :=
    List.mem_replicate.mpr ⟨Nat.ne_of_gt filled, rfl⟩
  refine ⟨⟨List.ne_nil_of_mem member, fun slashed => ?_⟩, ?_, ?_, by simpa using short⟩
  · exact letter.1 (List.eq_of_mem_replicate slashed).symm
  · intro same
    rw [same] at member
    exact letter.2 (by simpa [dot] using member)
  · intro same
    rw [same] at member
    exact letter.2 (by simpa [dotDot] using member)

/-- Directories within directories, their path just short enough to be read. -/
def deepDirectory : Path := List.replicate 15 (List.replicate 255 100) ++ [List.replicate 199 100]

def longName : Bytes := List.replicate 107 115

theorem socket_left_in_deepDirectory :
    let host := Host.workingIn deepDirectory
    let bound := (bind (.unix longName) .stream 1 host).2
    (spell host.directory).length < pathMax ∧ longName ≠ [] ∧
      host.tree.Stands host.directory ∧
      ∃ listener, bound.1 = .ok listener ∧
        bound.2.tree.node? (deepDirectory ++ [longName]) = some (.socket host.nextNumber) ∧
        (listener.drop bound.2).2.tree.node? (deepDirectory ++ [longName]) =
          some (.socket host.nextNumber) := by
  intro host bound
  have stands : host.tree.Stands host.directory := by
    refine stands_workingIn fun name member => ?_
    rcases List.mem_append.mp member with member | member
    · rw [List.eq_of_mem_replicate member]
      exact named_of_replicate (by decide) (by decide) (by decide)
    · rw [List.mem_singleton.mp member]
      exact named_of_replicate (by decide) (by decide) (by decide)
  have named : Plain longName ∧ Proper longName :=
    named_of_replicate (by decide) (by decide) (by decide)
  have free : host.tree.node? (deepDirectory ++ [longName]) = none :=
    node?_workingIn_eq_none (by decide) longName
  have led : Leads host.tree false linkMax (if isAbsolute longName then [] else host.directory)
      (strictNames longName) (deepDirectory ++ [longName]) := by
    have alone : strictNames longName = [longName] := by decide +kernel
    rw [alone]
    exact leads_name named.2
  have takes : Takes host longName (deepDirectory ++ [longName]) := by
    refine ⟨locate_eq_ok_iff.mpr ⟨by decide, by decide +kernel, led⟩, ?_, ?_⟩
    · intro node found
      cases free.symm.trans found
    · have own : host.tree.node? deepDirectory = some (.directory true) :=
        @node?_workingIn deepDirectory 15 (by decide)
      rw [parentWritable, List.dropLast_concat, own]
      rfl
  obtain ⟨comesOff, _, entry⟩ :=
    place_entered_then_cleared_unless_overlong host stands longName (by decide) .stream 1
  obtain ⟨listener, done⟩ := comesOff.mpr ⟨by decide +kernel, by decide +kernel, _, takes⟩
  obtain ⟨place, taken, changed, _, undisturbed, dropped⟩ := entry listener done
  obtain rfl : place = deepDirectory ++ [longName] :=
    Except.ok.inj (taken.leads.symm.trans takes.leads)
  have stood : bound.2.tree.node? (deepDirectory ++ [longName]) =
      some (.socket host.nextNumber) := by
    rw [changed, if_pos rfl]
  have overlong : ¬(absolute longName host).length < pathMax := by decide +kernel
  refine ⟨by decide +kernel, by decide, stands, listener, done, stood, ?_⟩
  have kept := dropped bound.2 (undisturbed []) (deepDirectory ++ [longName])
  rw [if_neg fun both => overlong both.2] at kept
  exact kept.trans stood

end Listener

end Superserver
