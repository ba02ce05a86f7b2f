import Superserver.Host.FileTree

/-!
Where paths lead. Main statements: an entry is made where its path leads to, links at the end not
followed, and wherever nothing stands in a directory open for it; sockets that come and go change no
other path; and a path from a directory leads where the same path behind the directory's own leads
from anywhere.
-/

namespace Superserver

theorem lookup_filter_ne {κ α : Type} [BEq κ] [LawfulBEq κ] (entries : List (κ × α))
    (key other : κ) : (entries.filter fun entry => entry.1 != key).lookup other =
      if other == key then none else entries.lookup other := by
  induction entries with
  | nil => simp
  | cons entry entries ih =>
      obtain ⟨found, value⟩ := entry
      by_cases own : found = key
      · subst own
        have gone : (((found, value) :: entries).filter fun entry => entry.1 != found) =
            entries.filter fun entry => entry.1 != found := by simp
        rw [gone, ih, List.lookup_cons]
        by_cases same : other = found
        · simp [same]
        · have differ : (other == found) = false := by simpa using same
          simp [differ]
      · have kept : (((found, value) :: entries).filter fun entry => entry.1 != key) =
            (found, value) :: entries.filter fun entry => entry.1 != key := by simp [own]
        rw [kept, List.lookup_cons, List.lookup_cons, ih]
        by_cases same : other = found
        · subst same
          simp [own]
        · have differ : (other == found) = false := by simpa using same
          rw [differ]

namespace Node

def leads : Node → Bool
  | .directory _ | .link _ => true
  | _ => false

end Node

namespace FileTree

variable {tree other : FileTree} {here path place : Path} {node : Node}

theorem node?_put (proper : place ≠ []) :
    (tree.put place node).node? path = if path = place then some node else tree.node? path := by
  unfold node? put
  by_cases root : path = []
  · subst root
    rw [if_neg proper.symm]
    rfl
  · have inside : path.isEmpty = false := by simpa using root
    rw [inside, List.lookup_cons]
    by_cases same : path = place
    · simp [same]
    · have differ : (path == place) = false := by simpa using same
      simp [differ, same, lookup_filter_ne]

theorem node?_drop (proper : place ≠ []) :
    (tree.drop place).node? path = if path = place then none else tree.node? path := by
  unfold node? drop
  by_cases root : path = []
  · subst root
    rw [if_neg proper.symm]
    rfl
  · have inside : path.isEmpty = false := by simpa using root
    rw [inside, lookup_filter_ne]
    by_cases same : path = place <;> simp [same]

/-! ### Walks -/

structure Proper (name : Bytes) : Prop where
  dot : name ≠ FileTree.dot
  dotDot : name ≠ FileTree.dotDot
  short : name.length ≤ nameMax

/-- A walk that ends, step by step. -/
inductive Leads (tree : FileTree) (follow : Bool) : Nat → Path → List Bytes → Path → Prop where
  | here {links : Nat} {here : Path} : Leads tree follow links here [] here
  | stay {links : Nat} {here place : Path} {names : List Bytes} :
      Leads tree follow links here names place → Leads tree follow links here (dot :: names) place
  | up {links : Nat} {here place : Path} {names : List Bytes} :
      Leads tree follow links here.dropLast names place →
        Leads tree follow links here (dotDot :: names) place
  | down {links : Nat} {here place : Path} {name : Bytes} {names : List Bytes} {writable : Bool} :
      Proper name → tree.node? (here ++ [name]) = some (.directory writable) →
        Leads tree follow links (here ++ [name]) names place →
        Leads tree follow links here (name :: names) place
  | jump {links : Nat} {here place : Path} {name target : Bytes} {names : List Bytes} :
      Proper name → tree.node? (here ++ [name]) = some (.link target) →
        (names.isEmpty && !follow) = false →
        Leads tree follow links (if isAbsolute target then [] else here)
          (strictNames target ++ names) place →
        Leads tree follow (links + 1) here (name :: names) place
  | last {links : Nat} {here : Path} {name : Bytes} :
      Proper name → (tree.node? (here ++ [name])).filter Node.leads = none →
        Leads tree follow links here [name] (here ++ [name])
  | link {links : Nat} {here : Path} {name target : Bytes} :
      Proper name → tree.node? (here ++ [name]) = some (.link target) → follow = false →
        Leads tree follow links here [name] (here ++ [name])

theorem filter_leads_eq_none {found : Option Node}
    (file : ∀ writable, found ≠ some (.directory writable))
    (unlinked : ∀ target, found ≠ some (.link target)) : found.filter Node.leads = none := by
  cases found with
  | none => rfl
  | some node =>
      cases node with
      | directory writable => exact absurd rfl (file writable)
      | link target => exact absurd rfl (unlinked target)
      | _ => rfl

theorem leads_of_walkFrom {follow : Bool} {links : Nat} {names : List Bytes}
    {jump : Path → List Bytes → Except Nat Path}
    (jumps : ∀ start rest, jump start rest = .ok place →
      ∃ fewer, links = fewer + 1 ∧ Leads tree follow fewer start rest place)
    (walked : tree.walkFrom follow jump here names = .ok place) :
    Leads tree follow links here names place := by
  -- The names are walked one by one; the walk behind a link is what `jumps` is about.
  fun_induction FileTree.walkFrom tree follow jump here names with
  | case1 here =>
      cases walked
      exact .here
  | case2 here names ih => exact .stay (ih walked)
  | case3 here names _ ih => exact .up (ih walked)
  | case4 => cases walked
  | case5 here name names dot dotDot short next missing final =>
      obtain rfl : here ++ [name] = place := Except.ok.inj walked
      obtain rfl := List.isEmpty_iff.mp final
      have proper : Proper name := ⟨dot, dotDot, Nat.not_lt.mp short⟩
      have missing : tree.node? (here ++ [name]) = none := missing
      exact .last proper (by rw [missing]; rfl)
  | case6 => cases walked
  | case7 here name names dot dotDot short next writable directory ih =>
      exact .down ⟨dot, dotDot, Nat.not_lt.mp short⟩ directory (ih walked)
  | case8 here name names dot dotDot short next target link stays =>
      obtain rfl : here ++ [name] = place := Except.ok.inj walked
      simp only [Bool.and_eq_true, Bool.not_eq_true'] at stays
      obtain rfl := List.isEmpty_iff.mp stays.1
      exact .link ⟨dot, dotDot, Nat.not_lt.mp short⟩ link stays.2
  | case9 here name names dot dotDot short next target link on =>
      obtain ⟨fewer, rfl, leads⟩ := jumps _ _ walked
      exact .jump ⟨dot, dotDot, Nat.not_lt.mp short⟩ link (by simpa using on) leads
  | case10 here name names dot dotDot short next node file unlinked found final =>
      obtain rfl : here ++ [name] = place := Except.ok.inj walked
      obtain rfl := List.isEmpty_iff.mp final
      have proper : Proper name := ⟨dot, dotDot, Nat.not_lt.mp short⟩
      refine .last proper (filter_leads_eq_none ?_ ?_)
      · intro writable same
        exact file writable (Option.some.inj (found.symm.trans same))
      · intro target same
        exact unlinked target (Option.some.inj (found.symm.trans same))
  | case11 => cases walked

theorem leads_of_walk {follow : Bool} {links : Nat} {names : List Bytes}
    (walked : tree.walk follow links here names = .ok place) :
    Leads tree follow links here names place := by
  induction links generalizing here names with
  | zero =>
      refine leads_of_walkFrom ?_ walked
      intro start rest jumped
      cases jumped
  | succ links ih =>
      refine leads_of_walkFrom ?_ walked
      intro start rest jumped
      exact ⟨links, rfl, ih jumped⟩

theorem walk_nil (follow : Bool) (links : Nat) : tree.walk follow links here [] = .ok here := by
  cases links <;> rfl

theorem walk_dot (follow : Bool) (links : Nat) (names : List Bytes) :
    tree.walk follow links here (dot :: names) = tree.walk follow links here names := by
  cases links <;> rw [FileTree.walk, walkFrom, if_pos rfl]

theorem walk_dotDot (follow : Bool) (links : Nat) (names : List Bytes) :
    tree.walk follow links here (dotDot :: names) = tree.walk follow links here.dropLast names := by
  cases links <;> rw [FileTree.walk, walkFrom, if_neg (by decide), if_pos rfl]

theorem walkFrom_name {follow : Bool} {jump : Path → List Bytes → Except Nat Path} {name : Bytes}
    {names : List Bytes} (proper : Proper name) :
    tree.walkFrom follow jump here (name :: names) =
      match tree.node? (here ++ [name]) with
      | none => if names.isEmpty then .ok (here ++ [name]) else .error Errno.noEntry
      | some (.directory _) => tree.walkFrom follow jump (here ++ [name]) names
      | some (.link target) =>
          if names.isEmpty && !follow then .ok (here ++ [name])
          else jump (if isAbsolute target then [] else here) (strictNames target ++ names)
      | some _ => if names.isEmpty then .ok (here ++ [name]) else .error Errno.notDirectory := by
  have short := Nat.not_lt.mpr proper.short
  cases found : tree.node? (here ++ [name]) with
  | none =>
      simp only [FileTree.walkFrom, if_neg proper.dot, if_neg proper.dotDot, if_neg short, found]
  | some node =>
      cases node <;>
        simp only [FileTree.walkFrom, if_neg proper.dot, if_neg proper.dotDot, if_neg short, found]

theorem walk_name {follow : Bool} {links : Nat} {name : Bytes} {names : List Bytes}
    (proper : Proper name) :
    tree.walk follow links here (name :: names) =
      match tree.node? (here ++ [name]) with
      | none => if names.isEmpty then .ok (here ++ [name]) else .error Errno.noEntry
      | some (.directory _) => tree.walk follow links (here ++ [name]) names
      | some (.link target) =>
          if names.isEmpty && !follow then .ok (here ++ [name])
          else match links with
            | 0 => .error Errno.linkLoop
            | links + 1 =>
                tree.walk follow links (if isAbsolute target then [] else here)
                  (strictNames target ++ names)
      | some _ => if names.isEmpty then .ok (here ++ [name]) else .error Errno.notDirectory := by
  cases links with
  | zero => exact walkFrom_name proper
  | succ links => exact walkFrom_name proper

theorem walk_of_leads {follow : Bool} {links : Nat} {names : List Bytes}
    (leads : Leads tree follow links here names place) :
    tree.walk follow links here names = .ok place := by
  induction leads with
  | here => exact walk_nil ..
  | stay _ ih => rw [walk_dot, ih]
  | up _ ih => rw [walk_dotDot, ih]
  | down proper directory _ ih =>
      rw [walk_name proper]
      simp only [directory]
      exact ih
  | jump proper link on _ ih =>
      rw [walk_name proper]
      simp only [link, on]
      exact ih
  | @last links here name proper bare =>
      rw [walk_name proper]
      generalize tree.node? (here ++ [name]) = found at bare
      cases found with
      | none => rfl
      | some node => cases node <;> first | rfl | cases bare
  | link proper link stays =>
      rw [walk_name proper]
      simp [link, stays]

theorem walk_eq_ok_iff {follow : Bool} {links : Nat} {names : List Bytes} :
    tree.walk follow links here names = .ok place ↔ Leads tree follow links here names place :=
  ⟨leads_of_walk, walk_of_leads⟩

theorem locate_eq_ok_iff {follow : Bool} {text : Bytes} :
    tree.locate follow here text = .ok place ↔
      text ≠ [] ∧ text.length < pathMax ∧
        Leads tree follow linkMax (if isAbsolute text then [] else here) (strictNames text)
          place := by
  unfold locate
  rw [← walk_eq_ok_iff]
  by_cases empty : text = []
  · simp [empty]
  · by_cases long : pathMax ≤ text.length
    · simp [empty, long, Nat.not_lt.mpr long]
    · simp [empty, long, Nat.not_le.mp long]

/-! ### Trees that lead alike -/

/-- The same directories and links stand in both trees. -/
def Alike (tree other : FileTree) : Prop :=
  ∀ path, (tree.node? path).filter Node.leads = (other.node? path).filter Node.leads

namespace Alike

theorem refl (tree : FileTree) : Alike tree tree := fun _ => rfl

theorem symm (alike : Alike tree other) : Alike other tree := fun path => (alike path).symm

theorem trans {third : FileTree} (alike : Alike tree other) (next : Alike other third) :
    Alike tree third :=
  fun path => (alike path).trans (next path)

theorem put (proper : place ≠ []) (bare : (tree.node? place).filter Node.leads = none)
    (plain : node.leads = false) : Alike tree (tree.put place node) := by
  intro path
  rw [node?_put proper]
  by_cases same : path = place
  · subst same
    rw [if_pos rfl, bare, Option.filter_some_neg (by simp [plain])]
  · rw [if_neg same]

theorem drop (proper : place ≠ []) (bare : (tree.node? place).filter Node.leads = none) :
    Alike tree (tree.drop place) := by
  intro path
  rw [node?_drop proper]
  by_cases same : path = place
  · subst same
    simp [bare]
  · rw [if_neg same]

theorem node? (alike : Alike tree other) (leads : node.leads = true)
    (found : tree.node? path = some node) : other.node? path = some node := by
  have kept := alike path
  rw [found, Option.filter_some_pos leads] at kept
  exact (Option.filter_eq_some_iff.mp kept.symm).1

theorem leads (alike : Alike tree other) {follow : Bool} {links : Nat} {names : List Bytes}
    (leads : Leads tree follow links here names place) :
    Leads other follow links here names place := by
  induction leads with
  | here => exact .here
  | stay _ ih => exact .stay ih
  | up _ ih => exact .up ih
  | down proper directory _ ih => exact .down proper (alike.node? rfl directory) ih
  | jump proper link on _ ih => exact .jump proper (alike.node? rfl link) on ih
  | last proper bare => exact .last proper ((alike _).symm.trans bare)
  | link proper link stays => exact .link proper (alike.node? rfl link) stays

theorem locate (alike : Alike tree other) {follow : Bool} {text : Bytes}
    (located : tree.locate follow here text = .ok place) :
    other.locate follow here text = .ok place := by
  obtain ⟨entered, short, leads⟩ := locate_eq_ok_iff.mp located
  exact locate_eq_ok_iff.mpr ⟨entered, short, alike.leads leads⟩

theorem parentWritable (alike : Alike tree other) (writable : tree.parentWritable path = true) :
    other.parentWritable path = true := by
  simp only [FileTree.parentWritable, beq_iff_eq] at writable ⊢
  exact alike.node? rfl writable

end Alike

/-! ### Making and removing entries -/

theorem leads_name {links : Nat} {name : Bytes} (proper : Proper name) :
    Leads tree false links here [name] (here ++ [name]) := by
  cases found : tree.node? (here ++ [name]) with
  | none => exact .last proper (by rw [found]; rfl)
  | some node =>
      cases node with
      | directory writable => exact .down proper found .here
      | link target => exact .link proper found rfl
      | _ => exact .last proper (by rw [found]; rfl)

theorem Leads.append_name {links : Nat} {names all : List Bytes} {directory : Path} {name : Bytes}
    (leads : Leads tree true links here all directory) (split : all = names ++ [dot])
    (proper : Proper name) :
    Leads tree false links here (names ++ [name]) (directory ++ [name]) := by
  -- The dot at the end of the longer walk is where the last name is looked up.
  induction leads generalizing names with
  | here => simp at split
  | stay leads ih =>
      cases names with
      | nil =>
          cases split
          cases leads
          exact leads_name proper
      | cons first names =>
          cases split
          exact .stay (ih rfl)
  | up leads ih =>
      cases names with
      | nil => cases split
      | cons first names =>
          cases split
          exact .up (ih rfl)
  | down own directory leads ih =>
      cases names with
      | nil =>
          cases split
          exact absurd rfl own.dot
      | cons first names =>
          cases split
          exact .down own directory (ih rfl)
  | jump own link on leads ih =>
      cases names with
      | nil =>
          cases split
          exact absurd rfl own.dot
      | cons first names =>
          cases split
          refine .jump own link (by simp) ?_
          have next := @ih (strictNames _ ++ names) (List.append_assoc ..).symm
          rwa [List.append_assoc] at next
  | last own bare =>
      cases names with
      | nil =>
          cases split
          exact absurd rfl own.dot
      | cons first names => simp at split
  | link own link stays => cases stays

theorem find_eq_ok_iff {follow : Bool} {text : Bytes} {node : Node} :
    tree.find follow here text = .ok node ↔
      ∃ place, tree.locate follow here text = .ok place ∧ tree.node? place = some node := by
  simp only [find, Bind.bind, Except.bind]
  cases tree.locate follow here text with
  | error error => simp
  | ok place =>
      simp only
      split <;> simp_all

theorem create_eq_ok {text : Bytes} {number : Nat} {after : FileTree}
    (made : tree.create here text (.socket number) = .ok after) :
    ∃ place, place ≠ [] ∧ tree.locate false here text = .ok place ∧ tree.node? place = none ∧
      tree.parentWritable place = true ∧ after = tree.put place (.socket number) := by
  simp only [create, throw, throwThe, MonadExceptOf.throw, Bind.bind, Except.bind, Pure.pure,
    Except.pure] at made
  split at made
  · cases made
  rename_i entered
  split at made
  · cases made
  rename_i short
  split at made
  · cases made
  rename_i last final
  split at made
  · cases made
  rename_i directory walked
  split at made
  · cases made
  rename_i plain
  split at made
  · cases made
  rename_i fits
  split at made
  · cases made
  rename_i free
  split at made
  · cases made
  rename_i unended
  split at made
  · rename_i writable
    cases made
    simp only [Bool.or_eq_true, decide_eq_true_eq, not_or] at plain
    have proper : Proper last := ⟨plain.1, plain.2, Nat.not_lt.mp fits⟩
    obtain ⟨front, parts⟩ := List.getLast?_eq_some_iff.mp final
    rw [parts, List.dropLast_concat] at walked
    have leads := (leads_of_walk walked).append_name rfl proper
    have strict : strictNames text = front ++ [last] := by
      simpa [strictNames, parts] using unended
    rw [← strict] at leads
    refine ⟨directory ++ [last], by simp, ?_, by simpa using free, writable, rfl⟩
    exact locate_eq_ok_iff.mpr ⟨by simpa using entered, Nat.not_le.mp short, leads⟩
  · cases made

theorem remove_of_locate {text : Bytes} {number : Nat}
    (located : tree.locate false here text = .ok place)
    (found : tree.node? place = some (.socket number)) :
    tree.remove here text =
      if tree.parentWritable place then .ok (tree.drop place) else .error Errno.accessDenied := by
  simp only [remove, Bind.bind, Except.bind, located, found]

theorem remove_of_unlocated {text : Bytes} {error : Nat}
    (unlocated : tree.locate false here text = .error error) :
    tree.remove here text = .error error := by
  simp only [remove, Bind.bind, Except.bind, unlocated]

/-! ### Directories that stand -/

def Plain (name : Bytes) : Prop := name ≠ [] ∧ slash ∉ name

theorem slash_not_mem_of_mem_splitNames (text : Bytes) :
    ∀ name ∈ splitNames text, slash ∉ name := by
  induction text with
  | nil => simp [splitNames]
  | cons byte text ih =>
      intro name member
      rw [splitNames] at member
      split at member
      · rcases List.mem_cons.mp member with rfl | member
        · exact List.not_mem_nil
        · exact ih name member
      · rename_i other
        split at member
        · cases List.mem_singleton.mp member
          simpa using Ne.symm other
        · rename_i first names parts
          rw [parts] at ih
          rcases List.mem_cons.mp member with rfl | member
          · simpa [Ne.symm other] using ih first (List.mem_cons_self ..)
          · exact ih name (List.mem_cons_of_mem _ member)

theorem plain_of_mem_strictNames {text name : Bytes} (member : name ∈ strictNames text) :
    Plain name := by
  rcases List.mem_append.mp member with member | member
  · obtain ⟨part, filled⟩ := List.mem_filter.mp member
    exact ⟨by simpa using filled, slash_not_mem_of_mem_splitNames text name part⟩
  · split at member
    · cases List.mem_singleton.mp member
      exact ⟨by decide, by decide⟩
    · cases member

inductive Stands (tree : FileTree) : Path → Prop where
  | root : Stands tree []
  | enter {here : Path} {name : Bytes} {writable : Bool} :
      Stands tree here → Plain name → Proper name →
        tree.node? (here ++ [name]) = some (.directory writable) → Stands tree (here ++ [name])

theorem Stands.dropLast (stands : Stands tree here) : Stands tree here.dropLast := by
  cases stands with
  | root => exact .root
  | enter stands plain proper directory =>
      rw [List.dropLast_concat]
      exact stands

theorem Stands.plain (stands : Stands tree here) : ∀ name ∈ here, Plain name := by
  induction stands with
  | root => simp
  | enter _ plain _ _ ih =>
      intro name member
      rcases List.mem_append.mp member with member | member
      · exact ih name member
      · cases List.mem_singleton.mp member
        exact plain

theorem Alike.stands (alike : Alike tree other) (stands : Stands tree here) :
    Stands other here := by
  induction stands with
  | root => exact .root
  | enter _ plain proper directory ih => exact .enter ih plain proper (alike.node? rfl directory)

theorem Leads.stands {follow : Bool} {links : Nat} {names : List Bytes}
    (leads : Leads tree follow links here names place) (stands : Stands tree here)
    (plain : ∀ name ∈ names, Plain name) :
    Stands tree place ∨
      ∃ front name, place = front ++ [name] ∧ Stands tree front ∧ Plain name ∧ Proper name := by
  induction leads with
  | here => exact .inl stands
  | stay _ ih => exact ih stands fun name member => plain name (List.mem_cons_of_mem _ member)
  | up _ ih =>
      exact ih stands.dropLast fun name member => plain name (List.mem_cons_of_mem _ member)
  | down proper directory _ ih =>
      refine ih (.enter stands (plain _ (List.mem_cons_self ..)) proper directory) ?_
      exact fun name member => plain name (List.mem_cons_of_mem _ member)
  | jump proper link on _ ih =>
      refine ih ?_ ?_
      · split
        · exact .root
        · exact stands
      · intro name member
        rcases List.mem_append.mp member with member | member
        · exact plain_of_mem_strictNames member
        · exact plain name (List.mem_cons_of_mem _ member)
  | last proper bare =>
      exact .inr ⟨_, _, rfl, stands, plain _ (List.mem_cons_self ..), proper⟩
  | link proper link stays =>
      exact .inr ⟨_, _, rfl, stands, plain _ (List.mem_cons_self ..), proper⟩

theorem stands_of_directory {text : Bytes} (stands : Stands tree here)
    (found : tree.directory here text = .ok place) : Stands tree place := by
  simp only [directory, Bind.bind, Except.bind] at found
  split at found
  · cases found
  rename_i target located
  split at found
  · rename_i writable directory
    cases found
    obtain ⟨_, _, leads⟩ := locate_eq_ok_iff.mp located
    have start : Stands tree (if isAbsolute text then [] else here) := by
      split
      · exact .root
      · exact stands
    rcases leads.stands start (fun name => plain_of_mem_strictNames) with stands |
      ⟨front, name, rfl, above, plain, proper⟩
    · exact stands
    · exact .enter above plain proper directory
  · cases found
  · cases found

/-- A walk to a place where nothing stands comes to its last name in a directory. -/
theorem Leads.split_name {links : Nat} {all : List Bytes}
    (leads : Leads tree false links here all place) (stands : Stands tree here)
    (plain : ∀ name ∈ all, Plain name) (free : tree.node? place = none) :
    ∃ names name directory, all = names ++ [name] ∧ Proper name ∧ place = directory ++ [name] ∧
      Leads tree true links here (names ++ [dot]) directory := by
  induction leads with
  | here =>
      -- The walk has gone nowhere, and the directory it starts from does stand.
      cases stands with
      | root => cases free
      | enter _ _ _ directory => cases free.symm.trans directory
  | stay leads ih =>
      obtain ⟨names, name, directory, rfl, proper, rfl, front⟩ :=
        ih stands (fun name member => plain name (List.mem_cons_of_mem _ member)) free
      exact ⟨dot :: names, name, directory, rfl, proper, rfl, .stay front⟩
  | up leads ih =>
      obtain ⟨names, name, directory, rfl, proper, rfl, front⟩ :=
        ih stands.dropLast (fun name member => plain name (List.mem_cons_of_mem _ member)) free
      exact ⟨dotDot :: names, name, directory, rfl, proper, rfl, .up front⟩
  | down own entered leads ih =>
      obtain ⟨names, name, directory, rfl, proper, rfl, front⟩ :=
        ih (.enter stands (plain _ (List.mem_cons_self ..)) own entered)
          (fun name member => plain name (List.mem_cons_of_mem _ member)) free
      exact ⟨_ :: names, name, directory, rfl, proper, rfl, .down own entered front⟩
  | @jump links here place name target rest own link on leads ih =>
      have start : Stands tree (if isAbsolute target then [] else here) := by
        split
        · exact .root
        · exact stands
      have behind : rest ≠ [] := by
        rintro rfl
        cases on
      obtain ⟨between, last, rfl⟩ := (List.eq_nil_or_concat rest).resolve_left behind
      obtain ⟨names, final, directory, split, proper, rfl, front⟩ := ih start (by
        intro name member
        rcases List.mem_append.mp member with member | member
        · exact plain_of_mem_strictNames member
        · exact plain name (List.mem_cons_of_mem _ member)) free
      rw [List.concat_eq_append, ← List.append_assoc] at split
      obtain ⟨rfl, same⟩ := List.append_inj' split rfl
      obtain rfl := List.singleton_inj.mp same
      refine ⟨name :: between, last, directory, by simp, proper, rfl, ?_⟩
      refine .jump own link (by simp) ?_
      rw [List.append_assoc] at front
      exact front
  | @last links here name proper bare => exact ⟨[], name, here, rfl, proper, rfl, .stay .here⟩
  | link proper link stays => cases free.symm.trans link

theorem create_of_locate {text : Bytes} {number : Nat}
    (stands : Stands tree (if isAbsolute text then [] else here))
    (located : tree.locate false here text = .ok place) (free : tree.node? place = none)
    (writable : tree.parentWritable place = true) :
    tree.create here text (.socket number) = .ok (tree.put place (.socket number)) := by
  obtain ⟨entered, short, leads⟩ := locate_eq_ok_iff.mp located
  obtain ⟨front, last, directory, split, proper, rfl, above⟩ :=
    leads.split_name stands (fun name => plain_of_mem_strictNames) free
  -- A slash at the end would ask for a directory under the last name.
  have unended : endsInSlash text = false := by
    cases ended : endsInSlash text with
    | false => rfl
    | true =>
        rw [strictNames, if_pos ended] at split
        obtain ⟨_, same⟩ := List.append_inj' split rfl
        exact absurd (List.singleton_inj.mp same).symm proper.dot
  have parts : names text = front ++ [last] := by simpa [strictNames, unended] using split
  have final : (names text).getLast? = some last := by rw [parts, List.getLast?_concat]
  have walked : tree.walk true linkMax (if isAbsolute text then [] else here)
      ((names text).dropLast ++ [dot]) = .ok directory := by
    rw [parts, List.dropLast_concat]
    exact walk_of_leads above
  have named : (decide (last = dot) || decide (last = dotDot)) = false := by
    simp [proper.dot, proper.dotDot]
  simp only [create, throw, throwThe, MonadExceptOf.throw, Bind.bind, Except.bind, Pure.pure,
    Except.pure]
  rw [if_neg (by simpa using entered), if_neg (Nat.not_le.mpr short)]
  simp only [final, walked, named, Nat.not_lt.mpr proper.short, free, unended, writable]
  rfl

/-! ### Paths from the root -/

def behind (here : Path) (text : Bytes) : Bytes :=
  (here.flatMap fun name => slash :: name) ++ slash :: text

theorem names_slash (text : Bytes) : names (slash :: text) = names text := by
  simp [names, splitNames]

theorem splitNames_append_slash {name : Bytes} (free : slash ∉ name) (text : Bytes) :
    splitNames (name ++ slash :: text) = name :: splitNames text := by
  induction name with
  | nil => simp [splitNames]
  | cons byte name ih =>
      simp only [List.mem_cons, not_or] at free
      rw [List.cons_append, splitNames, if_neg (Ne.symm free.1), ih free.2]

theorem names_behind {here : Path} (plain : ∀ name ∈ here, Plain name) (text : Bytes) :
    names (behind here text) = here ++ names text := by
  induction here with
  | nil => exact names_slash text
  | cons name here ih =>
      have first := plain name (List.mem_cons_self ..)
      have rest := ih fun other member => plain other (List.mem_cons_of_mem _ member)
      have split : behind (name :: here) text = slash :: (name ++ behind here text) := by
        simp [behind]
      have led : ∃ tail, behind here text = slash :: tail ∧ names tail = here ++ names text := by
        cases here with
        | nil => exact ⟨text, rfl, rfl⟩
        | cons second others =>
            refine ⟨second ++ behind others text, by simp [behind], ?_⟩
            rw [← rest, ← names_slash]
            simp [behind]
      obtain ⟨tail, same, others⟩ := led
      rw [split, names_slash, same, names, splitNames_append_slash first.2,
        List.filter_cons_of_pos (by simpa using first.1)]
      exact congrArg (name :: ·) others

theorem walk_of_stands (stands : Stands tree here) (follow : Bool) (links : Nat)
    (names : List Bytes) :
    tree.walk follow links [] (here ++ names) = tree.walk follow links here names := by
  induction stands generalizing names with
  | root => rfl
  | enter _ _ proper directory ih =>
      rw [List.append_assoc, List.singleton_append, ih, walk_name proper, directory]

theorem locate_behind (stands : Stands tree here) {text : Bytes} (entered : text ≠ [])
    (relative : isAbsolute text = false) (short : (behind here text).length < pathMax)
    (follow : Bool) (start : Path) :
    tree.locate follow start (behind here text) = tree.locate follow here text := by
  have ends : endsInSlash (behind here text) = endsInSlash text := by
    obtain ⟨front, last, rfl⟩ := (List.eq_nil_or_concat text).resolve_left entered
    have split : behind here (front.concat last) = behind here front ++ [last] := by simp [behind]
    rw [endsInSlash, endsInSlash, split, List.concat_eq_append, List.getLast?_concat,
      List.getLast?_concat]
  have absolute : isAbsolute (behind here text) = true := by
    cases here <;> simp [isAbsolute, behind]
  have strict : strictNames (behind here text) = here ++ strictNames text := by
    rw [strictNames, names_behind stands.plain, ends, strictNames, List.append_assoc]
  have inside : text.length < pathMax := by
    simp only [behind, List.length_append, List.length_cons] at short
    omega
  rw [locate, if_neg (by simp [behind]), if_neg (by omega), absolute, strict, if_pos rfl,
    walk_of_stands stands, locate, if_neg (by simpa using entered), if_neg (by omega), relative]
  rfl

theorem locate_of_absolute {text : Bytes} (absolute : isAbsolute text = true) (follow : Bool)
    (here start : Path) : tree.locate follow start text = tree.locate follow here text := by
  simp [locate, absolute]

theorem endsInSlash_spell (proper : here ≠ []) (plain : ∀ name ∈ here, Plain name) :
    endsInSlash (spell here) = false := by
  obtain ⟨front, name, rfl⟩ := (List.eq_nil_or_concat here).resolve_left proper
  have last := plain name (by simp)
  obtain ⟨start, byte, rfl⟩ := (List.eq_nil_or_concat name).resolve_left last.1
  have other : byte ≠ slash := by
    rintro rfl
    exact last.2 (by simp)
  have split : spell (front.concat (start.concat byte)) =
      (front.flatMap fun name => slash :: name) ++ slash :: start ++ [byte] := by
    simp [spell]
  rw [endsInSlash, split, List.getLast?_concat]
  simpa using other

end FileTree

end Superserver
