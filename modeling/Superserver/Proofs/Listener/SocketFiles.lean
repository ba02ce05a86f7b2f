import Mathlib.Data.List.Perm.Basic
import Superserver.Proofs.Listener.Binding

/-!
Listeners and their socket files. Main statement: in a run in which no path is bound that leads to
the place of a listener that is still held, each listener's own socket stands in its place, and
dropping a listener removes this entry and no other. A path that leads there takes the place.
-/

namespace Superserver

namespace Listener

open FileTree

/-! ### Listeners that are held -/

/-- A listener that has not been dropped, and the place that its path led to when it was bound. -/
structure Held where
  listener : Listener
  place : Option Path
deriving DecidableEq

/-- A path leads to a place from every directory, unless it is too long to be looked up. -/
structure Lasting (tree : FileTree) (path : Bytes) (place : Path) : Prop where
  proper : place ≠ []
  writable : tree.parentWritable place = true
  leads : path.length < pathMax → ∀ here, tree.locate false here path = .ok place

/-- The listener's own socket stands in the place, if it has one. -/
inductive Kept (host : Host) : Held → Prop where
  | unfiled {listener : Listener} {number : Nat} :
      listener.socketPath = none → host.Names listener.descriptor number →
        Kept host { listener, place := none }
  | filed {listener : Listener} {path : Bytes} {place : Path} {number : Nat} :
      listener.socketPath = some path → host.Names listener.descriptor number →
        host.tree.node? place = some (.socket number) → Lasting host.tree path place →
        Kept host { listener, place := some place }

/-- Two listeners have nothing in common that either of them closes or removes. -/
structure Apart (one other : Held) : Prop where
  descriptors : one.listener.descriptor ≠ other.listener.descriptor
  places : ∀ place, one.place = some place → other.place ≠ some place

theorem Apart.symm {one other : Held} (apart : Apart one other) : Apart other one := by
  refine ⟨apart.descriptors.symm, ?_⟩
  intro place filed same
  exact apart.places place same filed

theorem Lasting.alike {tree other : FileTree} {path : Bytes} {place : Path}
    (lasting : Lasting tree path place) (alike : Alike tree other) : Lasting other path place where
  proper := lasting.proper
  writable := alike.parentWritable lasting.writable
  leads short here := alike.locate (lasting.leads short here)

theorem Kept.descriptor_lt {host : Host} {held : Held} (kept : Kept host held) :
    held.listener.descriptor < host.nextDescriptor := by
  cases kept with
  | unfiled _ names => exact names.choose_spec.choose_spec.2.2.2.1
  | filed _ names _ _ => exact names.choose_spec.choose_spec.2.2.2.1

theorem Kept.next {host after : Host} {held : Held} (kept : Kept host held)
    (named : ∀ number, host.Names held.listener.descriptor number →
      after.Names held.listener.descriptor number)
    (alike : Alike host.tree after.tree)
    (untouched : ∀ place, held.place = some place →
      after.tree.node? place = host.tree.node? place) : Kept after held := by
  cases kept with
  | unfiled unfiled names => exact .unfiled unfiled (named _ names)
  | filed path names found lasting =>
      exact .filed path (named _ names) ((untouched _ rfl).trans found) (lasting.alike alike)

/-- The tree that dropping the listener should leave: its own entry is gone, unless its path is too
long to be looked up. -/
def Held.unfiled (held : Held) (tree : FileTree) : FileTree :=
  match held.listener.socketPath, held.place with
  | some path, some place => if path.length < pathMax then tree.drop place else tree
  | _, _ => tree

theorem Lasting.unfiled_eq {host : Host} {listener : Listener} {path : Bytes} {place : Path}
    {number : Nat} (lasting : Lasting host.tree path place) (filed : listener.socketPath = some path)
    (found : host.tree.node? place = some (.socket number)) :
    listener.unfiled host = Held.unfiled { listener, place := some place } host.tree := by
  simp only [Listener.unfiled, Held.unfiled, filed]
  by_cases short : path.length < pathMax
  · rw [if_pos short, remove_of_locate (lasting.leads short _) found, if_pos lasting.writable]
  · have long : pathMax ≤ path.length := Nat.le_of_not_lt short
    have entered : path ≠ [] := by
      rintro rfl
      exact absurd long (by decide)
    have refused : host.tree.locate false host.directory path = .error Errno.nameTooLong := by
      rw [locate, if_neg (by simpa using entered), if_pos long]
    rw [if_neg short, remove_of_unlocated refused]

theorem Kept.unfiled_eq {host : Host} {held : Held} (kept : Kept host held) :
    held.listener.unfiled host = held.unfiled host.tree := by
  cases kept with
  | unfiled unfiled names => simp [Listener.unfiled, Held.unfiled, unfiled]
  | filed filed names found lasting => exact lasting.unfiled_eq filed found

theorem Kept.alike_unfiled {host : Host} {held : Held} (kept : Kept host held) :
    Alike host.tree (held.unfiled host.tree) := by
  cases kept with
  | unfiled unfiled names =>
      simp only [Held.unfiled, unfiled]
      exact .refl _
  | filed filed names found lasting =>
      simp only [Held.unfiled, filed]
      split
      · exact .drop lasting.proper (by rw [found]; rfl)
      · exact .refl _

theorem Kept.node?_unfiled {host : Host} {held : Held} (kept : Kept host held) {place : Path}
    (other : held.place ≠ some place) :
    (held.unfiled host.tree).node? place = host.tree.node? place := by
  cases kept with
  | unfiled unfiled names => simp only [Held.unfiled, unfiled]
  | filed filed names found lasting =>
      simp only [Held.unfiled, filed]
      split
      · rw [node?_drop lasting.proper, if_neg]
        rintro rfl
        exact other rfl
      · rfl

/-! ### Runs -/

structure Estate where
  host : Host
  held : List Held := []

inductive Move where
  | bind (address : ListenAddress) (kind : SocketKind) (backlog : Int)
  | drop (index : Nat)
  | enter (path : Bytes)

namespace Estate

def after (estate : Estate) : Move → Estate
  | .bind address kind backlog =>
      match Listener.bind address kind backlog estate.host with
      | (_, .ok listener, host) =>
          { host, held := estate.held ++ [{ listener, place := placeOf address host }] }
      | (_, .error _, host) => { estate with host }
  | .drop index =>
      match estate.held[index]? with
      | none => estate
      | some held =>
          { host := (held.listener.drop estate.host).2, held := estate.held.eraseIdx index }
  | .enter path =>
      match estate.host.tree.directory estate.host.directory path with
      | .ok directory => { estate with host := { estate.host with directory } }
      | .error _ => estate

def run (estate : Estate) (moves : List Move) : Estate := moves.foldl after estate

/-- The move binds no path that leads to the place of a listener that is held. -/
def Spares (estate : Estate) : Move → Prop
  | .bind address _ _ =>
      ∀ held ∈ estate.held, held.place = none ∨ placeOf address estate.host ≠ held.place
  | _ => True

def SparesAll : Estate → List Move → Prop
  | _, [] => True
  | estate, move :: moves => estate.Spares move ∧ (estate.after move).SparesAll moves

instance (estate : Estate) (move : Move) : Decidable (estate.Spares move) :=
  match move with
  | .bind address _ _ => inferInstanceAs (Decidable (∀ held ∈ estate.held,
      held.place = none ∨ placeOf address estate.host ≠ held.place))
  | .drop _ | .enter _ => inferInstanceAs (Decidable True)

instance decidableSparesAll : (estate : Estate) → (moves : List Move) →
    Decidable (estate.SparesAll moves)
  | _, [] => inferInstanceAs (Decidable True)
  | estate, move :: moves =>
      have := decidableSparesAll (estate.after move) moves
      inferInstanceAs (Decidable (estate.Spares move ∧ (estate.after move).SparesAll moves))

theorem Spares.apart {estate : Estate} {address : ListenAddress} {kind : SocketKind}
    {backlog : Int} (spares : estate.Spares (.bind address kind backlog)) {held : Held}
    (member : held ∈ estate.held) {place : Path} (filed : held.place = some place) :
    placeOf address estate.host ≠ some place := by
  rcases spares held member with unfiled | apart
  · rw [unfiled] at filed
    cases filed
  · rwa [filed] at apart

structure Sound (estate : Estate) : Prop where
  stands : estate.host.tree.Stands estate.host.directory
  kept : ∀ held ∈ estate.held, Kept estate.host held
  apart : estate.held.Pairwise Apart

variable {estate : Estate}

theorem Sound.enter (sound : estate.Sound) (path : Bytes) : (estate.after (.enter path)).Sound := by
  simp only [Estate.after]
  split
  · rename_i directory found
    refine ⟨stands_of_directory sound.stands found, ?_, sound.apart⟩
    intro held member
    exact (sound.kept held member).next (fun _ names => names) (.refl _) (fun _ _ => rfl)
  · exact sound

theorem apart_of_erased {held : Held} {index : Nat} (apart : estate.held.Pairwise Apart)
    (found : estate.held[index]? = some held) :
    ∀ other ∈ estate.held.eraseIdx index, Apart held other := by
  obtain ⟨inside, rfl⟩ := List.getElem?_eq_some_iff.mp found
  have same := List.getElem_cons_eraseIdx_perm inside
  have whole := (same.pairwise_iff fun apart => apart.symm).mpr apart
  exact (List.pairwise_cons.mp whole).1

theorem after_drop {held : Held} {index : Nat} (found : estate.held[index]? = some held) :
    estate.after (.drop index) =
      { host := (held.listener.drop estate.host).2, held := estate.held.eraseIdx index } := by
  simp only [Estate.after, found]

theorem Sound.drop (sound : estate.Sound) (index : Nat) : (estate.after (.drop index)).Sound := by
  cases found : estate.held[index]? with
  | none =>
      simp only [Estate.after, found]
      exact sound
  | some held =>
      have kept := sound.kept held (List.mem_of_getElem? found)
      have apart := apart_of_erased sound.apart found
      obtain ⟨tree, directory, named⟩ := drop_leaves held.listener estate.host
      rw [kept.unfiled_eq] at tree
      rw [after_drop found]
      generalize (held.listener.drop estate.host).2 = host at tree directory named ⊢
      have alike : Alike estate.host.tree host.tree := by
        rw [tree]
        exact kept.alike_unfiled
      refine ⟨?_, ?_, sound.apart.sublist (List.eraseIdx_sublist _ _)⟩
      · simp only
        rw [directory]
        exact alike.stands sound.stands
      · intro other member
        have away := apart other member
        refine (sound.kept other (List.mem_of_mem_eraseIdx member)).next ?_ alike ?_
        · exact fun number names => named _ number away.descriptors.symm names
        · intro place filed
          simp only
          rw [tree]
          exact kept.node?_unfiled fun same => away.places place same filed

theorem Sound.admit (sound : estate.Sound) {host : Host} {newest : Held}
    (retains : estate.host.Retains host) (directory : host.directory = estate.host.directory)
    (alike : Alike estate.host.tree host.tree)
    (untouched : ∀ held ∈ estate.held, ∀ place, held.place = some place →
      host.tree.node? place = estate.host.tree.node? place)
    (kept : Kept host newest)
    (descriptor : newest.listener.descriptor = estate.host.nextDescriptor)
    (places : ∀ held ∈ estate.held, ∀ place, held.place = some place → newest.place ≠ some place) :
    Sound { host, held := estate.held ++ [newest] } := by
  refine ⟨?_, ?_, ?_⟩
  · simp only
    rw [directory]
    exact alike.stands sound.stands
  · intro held member
    rcases List.mem_append.mp member with member | member
    · exact (sound.kept held member).next (retains _) alike (untouched held member)
    · cases List.mem_singleton.mp member
      exact kept
  · refine List.pairwise_append.mpr ⟨sound.apart, List.pairwise_singleton _ _, ?_⟩
    intro held member last only
    cases List.mem_singleton.mp only
    refine ⟨?_, places held member⟩
    rw [descriptor]
    exact Nat.ne_of_lt (sound.kept held member).descriptor_lt

theorem Sound.bind (sound : estate.Sound) {address : ListenAddress} {kind : SocketKind}
    {backlog : Int} (spares : estate.Spares (.bind address kind backlog)) :
    (estate.after (.bind address kind backlog)).Sound := by
  have binding := bind_binding address kind backlog estate.host
  have alike := alike_cleared address estate.host
  have untouched : ∀ held ∈ estate.held, ∀ place, held.place = some place →
      (cleared address estate.host).node? place = estate.host.tree.node? place :=
    fun held member place filed => node?_cleared (spares.apart member filed)
  simp only [Estate.after]
  generalize Listener.bind address kind backlog estate.host = result at binding ⊢
  obtain ⟨records, outcome, host⟩ := result
  simp only at binding ⊢
  cases binding with
  | unopened other => exact sound
  | refused retains directory tree =>
      refine ⟨?_, ?_, sound.apart⟩
      · simp only
        rw [directory, tree]
        exact alike.stands sound.stands
      · intro held member
        refine (sound.kept held member).next (retains _) (tree ▸ alike) ?_
        intro place filed
        simp only
        rw [tree]
        exact untouched held member place filed
  | @unfiled _ listener other unfiled descriptor named retains directory tree =>
      refine sound.admit retains directory (tree ▸ .refl _) ?_ ?_ descriptor ?_
      · intro held member place filed
        rw [tree]
      · exact placeOf_of_other host other ▸ .unfiled unfiled named
      · intro held member place filed
        simp [placeOf_of_other host other]
  | @filed _ listener path place unix filed descriptor named retains directory proper entered
      located free writable tree =>
      obtain ⟨whole, led, leads, stands, elsewhere⟩ :=
        entry_of_filed unix directory proper located free tree
      have lasting : Lasting host.tree (absolute path estate.host) place := by
        have grown := alike.symm.trans whole
        refine ⟨proper, grown.parentWritable writable, fun short here => ?_⟩
        exact locate_absolute (whole.stands sound.stands) entered (grown.locate located) short here
      simp only [leads]
      refine sound.admit retains directory whole ?_ (.filed filed named stands lasting) descriptor ?_
      · intro held member spot filed
        rw [elsewhere spot]
        · exact untouched held member spot filed
        · rintro rfl
          exact spares.apart member filed led
      · rintro held member spot filed same
        cases same
        exact spares.apart member filed led

theorem Sound.after (sound : estate.Sound) {move : Move} (spares : estate.Spares move) :
    (estate.after move).Sound := by
  cases move with
  | bind address kind backlog => exact sound.bind spares
  | drop index => exact sound.drop index
  | enter path => exact sound.enter path

theorem Sound.run (sound : estate.Sound) {moves : List Move} (spares : estate.SparesAll moves) :
    (estate.run moves).Sound := by
  induction moves generalizing estate with
  | nil => exact sound
  | cons move moves ih => exact ih (sound.after spares.1) spares.2

end Estate

/-! ### Binding over a listener -/

theorem number_unique {host : Host} {descriptor : Descriptor} {number other : Nat}
    (names : host.Names descriptor number) (same : host.Names descriptor other) :
    number = other := by
  simpa using names.resource?.symm.trans same.resource?

/-- A path that leads to the place of a listener takes it, and what the listener removes when it is
dropped is the new entry. -/
theorem taken_by_bind {host after : Host} {held : Held} (kept : Kept host held)
    {address : ListenAddress} {place : Path} (filed : held.place = some place)
    (led : placeOf address host = some place) {listener : Listener}
    (binding : Binding address host (.ok listener) after) :
    ∃ number, after.Names listener.descriptor number ∧
      after.tree.node? place = some (.socket number) ∧
      ¬after.Names held.listener.descriptor number ∧
      (held.listener.drop after).2.tree = held.unfiled after.tree := by
  cases kept with
  | unfiled => cases filed
  | @filed first path _ number filed names found lasting =>
    cases filed
    cases binding with
    | unfiled other =>
        rw [placeOf_of_other host other] at led
        cases led
    | @filed _ _ _ spot unix _ _ named retains directory proper _ located free _ tree =>
        obtain ⟨whole, same, _, stands, _⟩ :=
          entry_of_filed unix directory proper located free tree
        obtain rfl : spot = place := Option.some.inj (same.symm.trans led)
        refine ⟨host.nextNumber, named, stands, ?_, ?_⟩
        · -- The listener's own socket is older than the one that was entered.
          intro same
          have older : number < host.nextNumber := names.choose_spec.choose_spec.2.2.2.2.2
          rw [number_unique (retains _ _ names) same] at older
          exact Nat.lt_irrefl _ older
        · exact (drop_leaves _ after).1.trans
            ((lasting.alike whole).unfiled_eq filed stands)

/-- In a run in which no path is bound that leads to the place of a listener that is held, each
listener's own socket stands in its place, and dropping a listener removes that entry and no other.
A path that leads there takes the place, and then the first listener removes the file of the
second. -/
theorem socket_files_kept_unless_bound_over (host : Host)
    (stands : host.tree.Stands host.directory) (moves : List Move)
    (spares : Estate.SparesAll { host } moves) :
    let estate := Estate.run { host } moves
    (∀ held ∈ estate.held, Kept estate.host held) ∧
    (∀ index held, estate.held[index]? = some held →
      (estate.after (.drop index)).host.tree = held.unfiled estate.host.tree) ∧
    ∀ held ∈ estate.held, ∀ address kind backlog records listener after place,
      held.place = some place → placeOf address estate.host = some place →
      bind address kind backlog estate.host = (records, .ok listener, after) →
      ∃ number, after.Names listener.descriptor number ∧
        after.tree.node? place = some (.socket number) ∧
        ¬after.Names held.listener.descriptor number ∧
        (held.listener.drop after).2.tree = held.unfiled after.tree := by
  intro estate
  have start : Estate.Sound { host } := ⟨stands, by simp, .nil⟩
  have sound : estate.Sound := start.run spares
  refine ⟨sound.kept, ?_, ?_⟩
  · intro index held found
    rw [Estate.after_drop found]
    exact (drop_leaves held.listener estate.host).1.trans
      (sound.kept held (List.mem_of_getElem? found)).unfiled_eq
  · intro held member address kind backlog records listener after place filed led bound
    have binding := bind_binding address kind backlog estate.host
    rw [bound] at binding
    exact taken_by_bind (sound.kept held member) filed led binding

/-- Two listeners of one directory, the second bound from another. -/
def neighbours : List Move :=
  [.bind (.unix [97]) .stream 1, .enter [47], .bind (.unix [119, 47, 98]) .seqpacket 1]

theorem neighbours_keep_their_files :
    let estate := Estate.run { host := Host.workingIn [[119]] } neighbours
    let crowded := estate.after (.bind (.unix [119, 47, 97]) .stream 1)
    estate.held.map (·.place) = [some [[119], [97]], some [[119], [98]]] ∧
      (∀ held ∈ estate.held, Kept estate.host held) ∧
      (estate.after (.drop 0)).host.tree = estate.host.tree.drop [[119], [97]] ∧
      (∃ number, crowded.host.Names 5 number ∧
        crowded.host.tree.node? [[119], [97]] = some (.socket number)) ∧
      (crowded.after (.drop 0)).host.tree.node? [[119], [97]] = none := by
  intro estate crowded
  have stands : (Host.workingIn [[119]]).tree.Stands (Host.workingIn [[119]]).directory :=
    .enter .root ⟨by decide, by decide⟩ ⟨by decide, by decide, by decide⟩
      (by decide : _ = some (Node.directory true))
  have spares : Estate.SparesAll { host := Host.workingIn [[119]] } neighbours := by decide +kernel
  obtain ⟨kept, dropped, taken⟩ :=
    socket_files_kept_unless_bound_over (Host.workingIn [[119]]) stands neighbours spares
  let first : Held :=
    { listener :=
        { descriptor := 3, address := .unix [97], socketPath := some [47, 119, 47, 97] }
      place := some [[119], [97]] }
  have found : estate.held[0]? = some first := by decide +kernel
  have gone : first.unfiled estate.host.tree = estate.host.tree.drop [[119], [97]] := by
    have short : ([47, 119, 47, 97] : Bytes).length < pathMax := by decide
    simp only [first, Held.unfiled, if_pos short]
  have led : placeOf (.unix [119, 47, 97]) estate.host = some [[119], [97]] := by decide +kernel
  have bound : (bind (.unix [119, 47, 97]) .stream 1 estate.host).2.1 =
      .ok { descriptor := 5, address := .unix [119, 47, 97],
            socketPath := some [47, 119, 47, 97] } := by
    decide +kernel
  refine ⟨by decide +kernel, kept, (dropped 0 first found).trans gone, ?_, by decide +kernel⟩
  rcases result : bind (.unix [119, 47, 97]) .stream 1 estate.host with ⟨records, outcome, after⟩
  rw [result] at bound
  cases bound
  obtain ⟨number, named, stood, _⟩ := taken first (List.mem_of_getElem? found)
    _ _ _ _ _ _ _ rfl led result
  have reached : crowded.host = after := by simp only [crowded, Estate.after, result]
  rw [reached]
  exact ⟨number, named, stood⟩

end Listener

end Superserver
