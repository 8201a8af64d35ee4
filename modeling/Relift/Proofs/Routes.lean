import Relift.Proofs.Host
import Relift.Proofs.Machine

/-!
# The routes of paths

Which places a path passes and where it leads is settled by the path alone; the
tree decides only whether the route can be followed.  What stands at a place is
therefore changed by an operation only if the place is on the route of its path,
and for most operations only if the route ends there, at this or at another name
of the same file.  Machines are tidy for that reason.

## Main results

* `walk_eq_ok_iff` — a path can be followed just if it passes directories.
* `Machine.tidy` — what a machine does in a scratch directory is not seen
  elsewhere, but at the other names of files in it.
-/

namespace Relift

namespace FileTree

/-! ## Routes -/

/-- The places from which the parts of a path are followed. -/
def passed : Place → List String → List Place
  | _, [] => []
  | place, part :: rest => place :: passed (follow place part) rest

/-- The place to which parts lead, if they can be followed. -/
def destination (place : Place) (parts : List String) : Place :=
  parts.foldl follow place

theorem passed_append (before after : List String) :
    ∀ place, passed place (before ++ after) =
      passed place before ++ passed (destination place before) after := by
  induction before with
  | nil => intro place; rfl
  | cons part before ih =>
      intro place
      show place :: passed (follow place part) (before ++ after) = _
      rw [ih]
      rfl

theorem destination_append (before after : List String) (place : Place) :
    destination place (before ++ after) =
      destination (destination place before) after :=
  List.foldl_append

theorem walk_eq_ok_iff {tree : FileTree} {parts : List String}
    {place last : Place} :
    tree.walk place parts = .ok last ↔
      (∀ other ∈ passed place parts, tree.node? other = some .directory) ∧
        last = destination place parts := by
  induction parts generalizing place with
  | nil =>
      constructor
      · intro h
        cases h
        exact ⟨fun _ hmem => absurd hmem List.not_mem_nil, rfl⟩
      · rintro ⟨-, rfl⟩
        rfl
  | cons part rest ih =>
      rw [walk_cons_eq_ok, ih, passed, List.forall_mem_cons, and_assoc]
      rfl

/-- The places that an absolute path passes. -/
def way (path : String) : List Place :=
  passed [] (pathParts path)

/-- The place that an absolute path names. -/
def target (path : String) : Place :=
  destination [] (pathParts path)

/-- The name after a path is passed last.  A slash at the end of the path makes
no difference, for the empty part that it leaves goes nowhere. -/
private theorem route_join {root name : String}
    (hroot : Path.isAbsolute root = true) (hname : Path.IsName name) :
    (∀ place, place ∈ way (Path.join root name) ↔
      place ∈ way root ∨ place = target root) ∧
    target (Path.join root name) = target root ++ [name] := by
  have hparts : (Path.splitSlashes name.toList).map String.ofList = [name] := by
    rw [Path.splitSlashes_of_not_mem hname.2.2.2]
    simp
  rcases Path.join_cases hroot hname.not_isAbsolute with
    ⟨before, hbefore, hjoin⟩ | hjoin
  · have hidle : pathParts root =
        (Path.splitSlashes before).map String.ofList ++ [""] := by
      rw [pathParts, hbefore, Path.splitSlashes_append, List.map_append]
      rfl
    have hlonger : pathParts (Path.join root name) =
        (Path.splitSlashes before).map String.ofList ++ [name] := by
      rw [pathParts, hjoin, Path.splitSlashes_append, List.map_append, hparts]
    rw [way, way, target, target, hidle, hlonger, passed_append, passed_append,
      destination_append, destination_append]
    generalize destination [] _ = last
    refine ⟨fun place => ?_, follow_of_isName hname last⟩
    show place ∈ _ ++ [last] ↔ place ∈ _ ++ [last] ∨ place = last
    simp
  · have hlonger : pathParts (Path.join root name) = pathParts root ++ [name] := by
      rw [pathParts, hjoin, Path.splitSlashes_append, List.map_append, hparts]
      rfl
    rw [way, way, target, target, hlonger, passed_append, destination_append]
    refine ⟨fun place => ?_, follow_of_isName hname _⟩
    show place ∈ _ ++ [destination [] (pathParts root)] ↔ _
    simp

theorem mem_way_join {root name : String} {place : Place}
    (hroot : Path.isAbsolute root = true) (hname : Path.IsName name) :
    place ∈ way (Path.join root name) ↔ place ∈ way root ∨ place = target root :=
  (route_join hroot hname).1 place

theorem target_join {root name : String}
    (hroot : Path.isAbsolute root = true) (hname : Path.IsName name) :
    target (Path.join root name) = target root ++ [name] :=
  (route_join hroot hname).2

/-- What an absolute path names is found if the path passes directories. -/
theorem lookup_eq_ok_iff {tree : FileTree} {base place : Place} {path : String}
    {node : Node} (hpath : Path.isAbsolute path = true) :
    tree.lookup base path = .ok (place, node) ↔
      (∀ other ∈ way path, tree.node? other = some .directory) ∧
        place = target path ∧ tree.node? place = some node := by
  rw [lookup, resolve_of_isAbsolute hpath]
  cases hwalk : tree.walk [] (pathParts path) with
  | error e =>
      constructor
      · intro h
        cases h
      · rintro ⟨hway, hplace, -⟩
        cases hwalk.symm.trans (walk_eq_ok_iff.mpr ⟨hway, hplace⟩)
  | ok last =>
      obtain ⟨hway, rfl⟩ := walk_eq_ok_iff.mp hwalk
      simp only [bind, Except.bind]
      cases hnode : tree.node? (destination [] (pathParts path)) with
      | none =>
          constructor
          · intro h
            cases h
          · rintro ⟨-, rfl, hsome⟩
            cases hnode.symm.trans hsome
      | some found =>
          constructor
          · intro h
            cases h
            exact ⟨hway, rfl, hnode⟩
          · rintro ⟨-, rfl, hsome⟩
            cases hnode.symm.trans hsome
            rfl

/-- An absolute path names a directory if it passes directories and leads to
one. -/
theorem isDirectoryAt_iff {tree : FileTree} {base : Place} {path : String}
    (hpath : Path.isAbsolute path = true) :
    tree.isDirectoryAt base path = true ↔
      (∀ place ∈ way path, tree.node? place = some .directory) ∧
        tree.node? (target path) = some .directory := by
  constructor
  · intro h
    rw [isDirectoryAt] at h
    split at h
    next place hlookup =>
      obtain ⟨hway, rfl, hnode⟩ := (lookup_eq_ok_iff hpath).mp hlookup
      exact ⟨hway, hnode⟩
    next => cases h
  · rintro ⟨hway, hnode⟩
    rw [isDirectoryAt, (lookup_eq_ok_iff hpath).mpr ⟨hway, rfl, hnode⟩]

/-! ## Changes -/

theorem node?_setContent {tree : FileTree} {place other : Place}
    (hplace : tree.node? place ≠ some .directory)
    (hother : tree.sameFile place other ≠ true) (content : Bytes) :
    (tree.setContent place content).node? other = tree.node? other := by
  rw [setContent]
  split
  · rcases node?_replace (ne_nil_of_node? hplace) _ other with hkept | ⟨hsame, -⟩
    · exact hkept
    · exact absurd hsame hother
  · rfl
  · rw [node?_set, if_neg]
    rintro ⟨rfl, -⟩
    exact hother (tree.sameFile_self other)

private theorem start_mem_route (place : Place) (parts : List String) :
    place ∈ passed place parts ∨ place = destination place parts := by
  cases parts with
  | nil => exact .inr rfl
  | cons part rest => exact .inl List.mem_cons_self

/-- Directories are made only where nothing was, on the way or at its end. -/
theorem makeAlong_changes {parts : List String} {tree tree' : FileTree}
    {place : Place} (h : tree.makeAlong place parts = .ok tree')
    (other : Place) :
    tree'.node? other = tree.node? other ∨ tree.node? other = none ∧
      (other ∈ passed place parts ∨ other = destination place parts) := by
  induction parts generalizing tree place with
  | nil => exact .inl (by rw [makeAlong_nil h])
  | cons part rest ih =>
      have hlater : other ∈ passed (follow place part) rest ∨
          other = destination (follow place part) rest →
          other ∈ passed place (part :: rest) ∨
            other = destination place (part :: rest) :=
        Or.imp (List.mem_cons_of_mem place) id
      rcases makeAlong_cons h with h | ⟨hnone, h⟩
      · exact (ih h).imp id fun hmade => ⟨hmade.1, hlater hmade.2⟩
      · by_cases hnext : other = follow place part
        · rw [hnext]
          exact .inr ⟨hnone, hnext ▸ hlater (hnext ▸ start_mem_route _ rest)⟩
        · have hset := node?_set tree (follow place part) other .directory
          rw [if_neg fun hsame => hnext hsame.1] at hset
          rw [← hset]
          exact (ih h).imp id fun hmade => ⟨hmade.1, hlater hmade.2⟩

end FileTree

/-! ## Machines -/

namespace Machine

open FileTree

/-- The files of a machine by their places.  Directories have one name only, so
that an absolute path always leads to the same place, and what stands there may
be a file with other names. -/
def places : View Machine Place Node where
  look m place := m.tree.node? place
  within root place := target root <+: place
  onWay root place := place ∈ way root
  leads root m place :=
    ∃ inner, target root <+: inner ∧ m.tree.sameFile inner place = true

theorem isDigit_scratchEnding {n : Nat} {c : Char}
    (h : c ∈ (scratchEnding n).toList) : c.isDigit = true := by
  rw [scratchEnding, String.toList_ofList, List.mem_append] at h
  rcases h with h | h
  · rw [List.eq_of_mem_replicate h]
    decide
  · exact Nat.isDigit_of_mem_toDigits (by decide) (by decide) h

/-- A label with a number after it is a name, for the texts that are none have
no digit. -/
theorem isName_scratch {label : String} (h : Path.IsName label) (n : Nat) :
    Path.IsName (label ++ scratchEnding n) := by
  obtain ⟨c, -, hlast⟩ := getLast?_scratchEnding n
  have hc : c ∈ (scratchEnding n).toList := List.mem_of_getLast? hlast
  have hmem : c ∈ (label ++ scratchEnding n).toList := by
    rw [String.toList_append]
    exact List.mem_append_right _ hc
  have hdigit := isDigit_scratchEnding hc
  have hother : ∀ other : String, other.toList.all (fun d => !d.isDigit) →
      label ++ scratchEnding n ≠ other := by
    rintro other hall rfl
    have hnot := List.all_eq_true.mp hall c hmem
    simp [hdigit] at hnot
  refine ⟨hother "" (by decide), hother "." (by decide), hother ".." (by decide),
    fun hslash => ?_⟩
  rw [String.toList_append, List.mem_append] at hslash
  rcases hslash with hslash | hslash
  · exact h.2.2.2 hslash
  · exact absurd (isDigit_scratchEnding hslash) (by decide)

/-- A machine on which no scratch directory can be made stays as it was. -/
theorem eq_of_makeScratch_error {directory label : String} {e : SystemError}
    {m m' : Machine} (h : makeScratch directory label m = (.error e, m')) :
    m' = m := by
  rcases makeScratch_cases directory label m with ⟨e', hmade⟩ |
    ⟨path, tree, hmade, -⟩
  · exact (Prod.mk.inj (h.symm.trans hmade)).2
  · cases (Prod.mk.inj (hmade.symm.trans h)).1

theorem scratch_below {directory label path : String} {m m' : Machine}
    (hdirectory : Path.isAbsolute directory = true)
    (h : makeScratch directory label m = (.ok path, m')) :
    ∃ n, path = Path.join directory (label ++ scratchEnding n) := by
  simp only [makeScratch, if_pos hdirectory] at h
  cases htree : m.tree.makeDirectory m.place (m.scratchPath directory label) with
  | error e =>
      rw [htree] at h
      cases h
  | ok tree =>
      rw [htree] at h
      cases h
      exact ⟨_, rfl⟩

/-- The directories that belong to one lie below it, and their paths pass all
that its path passes. -/
theorem owns_cases {root directory : String}
    (hroot : Path.isAbsolute root = true)
    (h : host.Owns root directory) :
    Path.isAbsolute directory = true ∧ target root <+: target directory ∧
      (directory = root ∨ target root ∈ way directory ∧
        ∀ place ∈ way root, place ∈ way directory) := by
  cases h with
  | root => exact ⟨hroot, List.prefix_refl _, .inl rfl⟩
  | @scratch name label _ m m' hname hlabel hmade =>
      have hparent : Path.isAbsolute (Path.join root name) = true :=
        Path.isAbsolute_join hroot name
      rw [host_makeScratch] at hmade
      obtain ⟨n, rfl⟩ := scratch_below hparent hmade
      have hentry : Path.IsName (label ++ scratchEnding n) :=
        isName_scratch hlabel n
      refine ⟨Path.isAbsolute_join hparent _, ?_, .inr ⟨?_, fun place hplace => ?_⟩⟩
      · rw [target_join hparent hentry, target_join hroot hname,
          List.append_assoc]
        exact List.prefix_append _ _
      · rw [mem_way_join hparent hentry, mem_way_join hroot hname]
        exact .inl (.inr rfl)
      · rw [mem_way_join hparent hentry, mem_way_join hroot hname]
        exact .inl (.inl hplace)

/-- A scratch directory is made where its path leads, and nothing stood there
or below. -/
theorem makeScratch_places {directory label path : String} {m m' : Machine}
    (h : makeScratch directory label m = (.ok path, m')) :
    Path.isAbsolute path = true ∧
      (∀ place ∈ way path, m.tree.node? place = some .directory) ∧
      m.tree.isVacant (target path) = true ∧
      m'.tree = m.tree.set (target path) .directory := by
  obtain ⟨habsolute, ⟨c, hc, hlast⟩, hmade⟩ := makeScratch_eq_ok h
  obtain ⟨place, hresolve, hvacant, htree⟩ := makeDirectory_eq_ok hmade
  rw [trimSlashes_of_getLast? hc hlast, resolve_of_isAbsolute habsolute] at hresolve
  obtain ⟨hway, rfl⟩ := walk_eq_ok_iff.mp hresolve
  exact ⟨habsolute, hway, hvacant, htree⟩

theorem isAbsolute_of_isScratch {root : String} (h : host.IsScratch root) :
    Path.isAbsolute root = true := by
  obtain ⟨directory, label, m, m', hmade⟩ := h
  rw [host_makeScratch] at hmade
  exact (makeScratch_places hmade).1

theorem target_ne_nil_of_isScratch {root : String} (h : host.IsScratch root) :
    target root ≠ [] := by
  obtain ⟨directory, label, m, m', hmade⟩ := h
  rw [host_makeScratch] at hmade
  exact ne_nil_of_isVacant (makeScratch_places hmade).2.2.1

/-- A change that gives no file a further name is unmoved where it changes no
node. -/
theorem unmoved_of_linksNothing {root : String} {m m' : Machine}
    (hlinks : m.tree.LinksNothing m'.tree) {place : Place}
    (hnode : m'.tree.node? place = m.tree.node? place)
    (hleads : ¬ places.leads root m place) : places.Unmoved root m m' place := by
  refine ⟨hnode, ?_⟩
  rintro ⟨inner, hinner, hsame⟩
  exact hleads ⟨inner, hinner, hlinks.sameFile hsame⟩

theorem spares_refl (root : String) (m : Machine) : places.Spares root m m :=
  fun _ _ hleads => ⟨rfl, hleads⟩

/-- A scratch directory below another is not seen outside that one. -/
theorem spares_makeScratch {directory label root path : String}
    {m m' : Machine} (h : makeScratch directory label m = (.ok path, m'))
    (hbelow : target root <+: target path) : places.Spares root m m' := by
  obtain ⟨-, -, -, htree⟩ := makeScratch_places h
  intro place hplace hleads
  refine unmoved_of_linksNothing ?_ ?_ hleads
  · rw [htree]
    exact linksNothing_set m.tree (target path) .directory
  · rw [htree, node?_set, if_neg]
    rintro ⟨rfl, -⟩
    exact hplace hbelow

/-- Nothing in a new scratch directory leads out of it. -/
theorem unmoved_made {directory label root : String} {m m' : Machine}
    (h : makeScratch directory label m = (.ok root, m')) {place : Place}
    (hplace : ¬ places.within root place) : places.Unmoved root m m' place := by
  obtain ⟨-, -, hvacant, -⟩ := makeScratch_places h
  refine spares_makeScratch h (List.prefix_refl _) place hplace ?_
  rintro ⟨inner, hinner, hsame⟩
  rw [sameFile, entry_of_isVacant hvacant hinner, Bool.or_false,
    decide_eq_true_eq] at hsame
  exact hplace (hsame ▸ hinner)

theorem spares_writeBytes {root directory name : String} {content : Bytes}
    {answer : Except SystemError Unit} {m m' : Machine}
    (hroot : Path.isAbsolute root = true) (howned : host.Owns root directory)
    (hname : Path.IsName name)
    (h : host.writeBytes (Path.join directory name) content m = (answer, m')) :
    places.Spares root m m' := by
  obtain ⟨hdirectory, hbelow, -⟩ := owns_cases hroot howned
  rw [host_writeBytes] at h
  cases hresult : m.tree.write m.place (Path.join directory name) content with
  | error e =>
      rw [hresult] at h
      cases h
      exact spares_refl root m
  | ok tree =>
      rw [hresult] at h
      cases h
      obtain ⟨written, hresolve, hwritten, htree⟩ := write_eq_ok hresult
      rw [trimSlashes_join hdirectory hname,
        resolve_of_isAbsolute (Path.isAbsolute_join hdirectory name)] at hresolve
      obtain ⟨-, hlast⟩ := walk_eq_ok_iff.mp hresolve
      have hinner : target root <+: written := by
        rw [hlast.trans (target_join hdirectory hname)]
        exact hbelow.trans (List.prefix_append _ _)
      intro place hplace hleads
      refine unmoved_of_linksNothing (grows_write hresult).links ?_ hleads
      show tree.node? place = m.tree.node? place
      rw [htree]
      exact node?_setContent hwritten (fun hsame => hleads ⟨written, hinner, hsame⟩)
        content

theorem spares_removeDirectory {root directory : String}
    (hroot : Path.isAbsolute root = true) (howned : host.Owns root directory)
    (m : Machine) : places.Spares root m (removeDirectory directory m) := by
  obtain ⟨habsolute, hbelow, -⟩ := owns_cases hroot howned
  rw [removeDirectory]
  split
  next place hlookup =>
    obtain ⟨-, rfl, -⟩ := (lookup_eq_ok_iff habsolute).mp hlookup
    intro other hother hleads
    refine unmoved_of_linksNothing (linksNothing_remove m.tree _) ?_ hleads
    show (m.tree.remove (target directory)).node? other = m.tree.node? other
    rw [node?_remove, if_neg fun hremoved => hother (hbelow.trans hremoved.1)]
  next => exact spares_refl root m

/-- A directory other than the root is gone when it is removed. -/
theorem isDirectory_removeDirectory {root : String}
    (hroot : Path.isAbsolute root = true) (hne : target root ≠ [])
    (m : Machine) :
    host.isDirectory (removeDirectory root m) root = false := by
  rw [removeDirectory, Bool.eq_false_iff]
  intro hthere
  split at hthere
  next place hlookup =>
    obtain ⟨-, rfl, -⟩ := (lookup_eq_ok_iff hroot).mp hlookup
    obtain ⟨-, hnode⟩ := (isDirectoryAt_iff hroot).mp hthere
    rw [node?_remove, if_pos ⟨List.prefix_refl _, hne⟩] at hnode
    cases hnode
  next hnot =>
    obtain ⟨hway, hnode⟩ := (isDirectoryAt_iff hroot).mp hthere
    exact hnot _ ((lookup_eq_ok_iff hroot).mpr ⟨hway, rfl, hnode⟩)

/-- Only what is missing on the way to a directory is made outside it. -/
theorem makeDirectories_below {root name : String}
    {answer : Except SystemError Unit} {m m' : Machine}
    (hroot : Path.isAbsolute root = true) (hname : Path.IsName name)
    (h : host.makeDirectories (Path.join root name) m = (answer, m'))
    {place : Place} (hplace : ¬ target root <+: place)
    (hleads : ¬ places.leads root m place) :
    places.Unmoved root m m' place ∨
      place ∈ way root ∧ m.tree.node? place = none := by
  have hpath : Path.isAbsolute (Path.join root name) = true :=
    Path.isAbsolute_join hroot name
  have hmade : m.tree.makeDirectories m.place (Path.join root name) =
      m.tree.makeAlong [] (pathParts (Path.join root name)) := by
    rw [FileTree.makeDirectories, Path.isEmpty_of_isAbsolute hpath, hpath]
    rfl
  rw [host_makeDirectories, hmade] at h
  cases hresult : m.tree.makeAlong [] (pathParts (Path.join root name)) with
  | error e =>
      rw [hresult] at h
      cases h
      exact .inl ⟨rfl, hleads⟩
  | ok tree =>
      rw [hresult] at h
      cases h
      rcases makeAlong_changes hresult place with hsame | ⟨hnone, hroute⟩
      · exact .inl (unmoved_of_linksNothing (grows_makeAlong hresult).links hsame
          hleads)
      · rcases hroute with hpassed | hlast
        · rcases (mem_way_join hroot hname).mp hpassed with hway | rfl
          · exact .inr ⟨hway, hnone⟩
          · exact absurd (List.prefix_refl _) hplace
        · have htarget : place = target root ++ [name] :=
            hlast.trans (target_join hroot hname)
          exact absurd (htarget ▸ List.prefix_append _ _) hplace

/-- Machines are tidy. -/
theorem tidy : host.Tidy places where
  unmade := by
    intro directory label e m m' h place
    rw [host_makeScratch] at h
    rw [eq_of_makeScratch_error h]
  made := by
    intro directory label root m m' h
    rw [host_makeScratch] at h
    obtain ⟨-, hway, hvacant, htree⟩ := makeScratch_places h
    refine ⟨fun place hplace => node?_of_isVacant hvacant hplace,
      fun place hplace => unmoved_made h hplace, fun place hplace => ?_⟩
    have hdirectory : m.tree.node? place = some .directory := hway place hplace
    show m'.tree.node? place ≠ none
    rw [htree, node?_set]
    split
    · nofun
    · rw [hdirectory]
      nofun
  makeDirectories hscratch hname h _ hplace hleads :=
    makeDirectories_below (isAbsolute_of_isScratch hscratch) hname h hplace hleads
  makeScratch := by
    intro root name label answer m m' hscratch hname hlabel h
    have hroot := isAbsolute_of_isScratch hscratch
    cases answer with
    | error e =>
        rw [host_makeScratch] at h
        rw [eq_of_makeScratch_error h]
        exact spares_refl root m
    | ok path =>
        obtain ⟨-, hbelow, -⟩ := owns_cases hroot (.scratch hname hlabel h)
        rw [host_makeScratch] at h
        exact spares_makeScratch h hbelow
  writeBytes hscratch howned hname h :=
    spares_writeBytes (isAbsolute_of_isScratch hscratch) howned hname h
  removeDirectory := by
    intro root directory m hscratch howned
    rw [host_removeDirectory]
    exact spares_removeDirectory (isAbsolute_of_isScratch hscratch) howned m
  removed := by
    intro root owned m hscratch howned
    rw [host_removeDirectory]
    have hroot := isAbsolute_of_isScratch hscratch
    have hgone := isDirectory_removeDirectory hroot
      (target_ne_nil_of_isScratch hscratch) m
    rcases owns_cases hroot howned with ⟨habsolute, -, rfl | ⟨htarget, hway⟩⟩
    · exact hgone
    · rw [Bool.eq_false_iff] at hgone ⊢
      intro hthere
      obtain ⟨hdirectories, -⟩ := (isDirectoryAt_iff habsolute).mp hthere
      exact hgone ((isDirectoryAt_iff hroot).mpr
        ⟨fun place hplace => hdirectories place (hway place hplace),
          hdirectories _ htarget⟩)

end Machine

end Relift
