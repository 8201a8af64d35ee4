import Relift.Machine.FileTree
import Relift.Proofs.Host
import Relift.Proofs.Ordered

/-!
# Following paths in file trees

Which place a path names depends on its parts only; the tree merely decides
whether it can be followed (`walk_cons_eq_ok`).  Hence a path that can be
followed in two trees leads to the same place in both, and it can still be
followed in a tree that has lost no directory on its way.

A tree `Grows` into another when no directory is lost and neither a device nor a
further name of a file is gained; all operations of a run but removal do that.
A directory without devices and without files that have other names stays one
when the tree grows, and what is written into it can be read back.
-/

namespace Relift

/-! ## Parts of paths -/

namespace Path

theorem splitSlashes_ne_nil (text : List Char) : splitSlashes text ≠ [] := by
  cases text with
  | nil => nofun
  | cons c rest =>
      rw [splitSlashes]
      split
      · nofun
      · split <;> nofun

theorem splitSlashes_append (before after : List Char) :
    splitSlashes (before ++ '/' :: after) =
      splitSlashes before ++ splitSlashes after := by
  induction before with
  | nil => rfl
  | cons c before ih =>
      rw [List.cons_append, splitSlashes, splitSlashes, ih]
      by_cases hc : c = '/'
      · rw [if_pos hc, if_pos hc, List.cons_append]
      · rw [if_neg hc, if_neg hc]
        cases hparts : splitSlashes before with
        | nil => exact absurd hparts (splitSlashes_ne_nil before)
        | cons part parts => rfl

theorem splitSlashes_of_not_mem {text : List Char} (h : '/' ∉ text) :
    splitSlashes text = [text] := by
  induction text with
  | nil => rfl
  | cons c text ih =>
      have hc : c ≠ '/' := fun hc => h (hc ▸ List.mem_cons_self)
      have htext : '/' ∉ text := fun hmem => h (List.mem_cons_of_mem c hmem)
      rw [splitSlashes, if_neg hc, ih htext]

theorem isEmpty_of_isAbsolute {path : String} (h : isAbsolute path = true) :
    path.isEmpty = false := by
  cases hpath : path.isEmpty with
  | false => rfl
  | true =>
      rw [String.isEmpty_iff.mp hpath] at h
      exact absurd h (by decide)

theorem IsName.not_isAbsolute {name : String} (h : IsName name) :
    isAbsolute name = false := by
  rw [isAbsolute, beq_eq_false_iff_ne]
  intro hhead
  exact h.2.2.2 (List.mem_of_mem_head? hhead)

/-- The two ways in which a name is put after a base. -/
theorem join_cases {base name : String} (hbase : isAbsolute base = true)
    (hname : isAbsolute name = false) :
    (∃ before, base.toList = before ++ ['/'] ∧
      (join base name).toList = before ++ '/' :: name.toList) ∨
    (join base name).toList = base.toList ++ '/' :: name.toList := by
  rw [join, hname, isEmpty_of_isAbsolute hbase]
  by_cases hlast : base.toList.getLast? = some '/'
  · obtain ⟨before, hbefore⟩ := List.getLast?_eq_some_iff.mp hlast
    exact .inl ⟨before, hbefore, by simp [hbefore]⟩
  · exact .inr (by simp [hlast])

theorem isAbsolute_join {base : String} (h : isAbsolute base = true)
    (path : String) : isAbsolute (join base path) = true := by
  cases hpath : isAbsolute path with
  | true => simp [join, hpath]
  | false =>
      have hhead : base.toList.head? = some '/' := by
        simpa [isAbsolute] using h
      rw [isAbsolute]
      rcases join_cases h hpath with ⟨before, hbefore, hjoin⟩ | hjoin
      · rw [hbefore] at hhead
        rw [hjoin]
        cases before <;> simp_all
      · rw [hjoin, List.head?_append, hhead]
        rfl

/-- A joined path ends as its second part does. -/
theorem getLast?_join {base path : String} {c : Char}
    (hbase : isAbsolute base = true) (h : path.toList.getLast? = some c) :
    (join base path).toList.getLast? = some c := by
  cases hpath : isAbsolute path with
  | true => simpa [join, hpath] using h
  | false =>
      obtain ⟨before, hbefore⟩ := List.getLast?_eq_some_iff.mp h
      rcases join_cases hbase hpath with ⟨_, -, hjoin⟩ | hjoin <;>
        rw [hjoin, hbefore, ← List.cons_append, ← List.append_assoc,
          List.getLast?_concat]

end Path

namespace FileTree

theorem trimSlashes_of_getLast? {path : String} {c : Char} (hc : c ≠ '/')
    (h : path.toList.getLast? = some c) : trimSlashes path = path := by
  obtain ⟨before, hbefore⟩ := List.getLast?_eq_some_iff.mp h
  have hkept : (path.toList.reverse.dropWhile (· == '/')).reverse =
      path.toList := by
    simp [hbefore, hc]
  rw [trimSlashes, hkept, String.ofList_toList]
  simp [hbefore]

theorem trimSlashes_join {root name : String}
    (hroot : Path.isAbsolute root = true) (hname : Path.IsName name) :
    trimSlashes (Path.join root name) = Path.join root name := by
  obtain ⟨before, c, hlast⟩ := List.eq_nil_or_concat name.toList |>.resolve_left
    (by simpa using hname.1)
  rw [List.concat_eq_append] at hlast
  have hc : c ≠ '/' := fun heq => hname.2.2.2 (by simp [hlast, heq])
  exact trimSlashes_of_getLast? hc
    (Path.getLast?_join hroot (by simp [hlast]))

/-! ## Nodes -/

theorem node?_of_ne_nil {place : Place} (hne : place ≠ []) (tree : FileTree) :
    tree.node? place = (tree.entries.get? place).map tree.nodeOf := by
  simp [node?, hne]

/-- Where a node is the same entry of the same files, the node is the same. -/
theorem node?_congr {tree tree' : FileTree} {place : Place}
    (hfiles : tree'.files = tree.files)
    (hentry : tree'.entries.get? place = tree.entries.get? place) :
    tree'.node? place = tree.node? place := by
  have hnodes : tree'.nodeOf = tree.nodeOf := by
    funext entry
    cases entry with
    | own node => rfl
    | shared number => rw [nodeOf, nodeOf, hfiles]
  rw [node?, node?, hentry, hnodes]

theorem entry_enter (tree : FileTree) (place other : Place) (entry : Entry) :
    (tree.enter place entry).entries.get? other =
      if other = place then some entry else tree.entries.get? other := by
  by_cases hsame : other = place
  · rw [if_pos hsame, hsame]
    exact Ordered.get?_insert_self tree.entries place entry
  · rw [if_neg hsame]
    exact Ordered.get?_insert_of_ne tree.entries entry hsame

theorem entry_set (tree : FileTree) (place other : Place) (node : Node) :
    (tree.set place node).entries.get? other =
      if other = place then some (.own node) else tree.entries.get? other :=
  tree.entry_enter place other (.own node)

theorem entry_remove (tree : FileTree) (place other : Place) :
    (tree.remove place).entries.get? other =
      if place <+: other then none else tree.entries.get? other := by
  rw [remove, Ordered.get?_filter]
  by_cases hbelow : place <+: other
  · simp [hbelow, List.isPrefixOf_iff_prefix.mpr hbelow]
  · have hprefix : place.isPrefixOf other = false := by
      rw [Bool.eq_false_iff]
      exact fun h => hbelow (List.isPrefixOf_iff_prefix.mp h)
    simp [hbelow, hprefix]

theorem node?_set (tree : FileTree) (place other : Place) (node : Node) :
    (tree.set place node).node? other =
      if other = place ∧ other ≠ [] then some node else tree.node? other := by
  by_cases hsame : other = place
  · by_cases hnil : other = []
    · simp [hnil, node?]
    · rw [if_pos ⟨hsame, hnil⟩, node?_of_ne_nil hnil, entry_set, if_pos hsame]
      rfl
  · rw [if_neg fun h => hsame h.1]
    exact node?_congr rfl (by rw [entry_set, if_neg hsame])

theorem node?_remove (tree : FileTree) (place other : Place) :
    (tree.remove place).node? other =
      if place <+: other ∧ other ≠ [] then none else tree.node? other := by
  by_cases hbelow : place <+: other
  · by_cases hnil : other = []
    · simp [hnil, node?]
    · rw [if_pos ⟨hbelow, hnil⟩, node?_of_ne_nil hnil, entry_remove,
        if_pos hbelow]
      rfl
  · rw [if_neg fun h => hbelow h.1]
    exact node?_congr rfl (by rw [entry_remove, if_neg hbelow])

theorem ne_nil_of_node? {tree : FileTree} {place : Place}
    (h : tree.node? place ≠ some .directory) : place ≠ [] := by
  rintro rfl
  exact h rfl

theorem sameFile_self (tree : FileTree) (place : Place) :
    tree.sameFile place place = true := by
  simp [sameFile]

/-- What replaces a file is found under the names of that file only. -/
theorem node?_replace {tree : FileTree} {place : Place} (hplace : place ≠ [])
    (node : Node) (other : Place) :
    (tree.replace place node).node? other = tree.node? other ∨
      tree.sameFile place other = true ∧ tree.node? other = tree.node? place ∧
        (tree.replace place node).node? other = some node := by
  rw [replace]
  split
  next number hentry =>
    by_cases hother : tree.entries.get? other = some (.shared number)
    · by_cases hbound : other ≠ [] ∧ number < tree.files.length
      · refine .inr ⟨by simp [sameFile, hentry, hother], ?_, ?_⟩
        · rw [node?_of_ne_nil hbound.1, node?_of_ne_nil hplace, hentry, hother]
        · rw [node?_of_ne_nil hbound.1, hother]
          simp [nodeOf, hbound.2]
      · left
        by_cases hnil : other = []
        · simp [node?, hnil]
        · have hpast : tree.files.length ≤ number := by
            rw [not_and, Nat.not_lt] at hbound
            exact hbound hnil
          rw [List.set_eq_of_length_le hpast]
    · left
      cases hnode : tree.entries.get? other with
      | none => simp [node?, hnode]
      | some entry =>
          cases entry with
          | own node => simp [node?, hnode, nodeOf]
          | shared number' =>
              have hne : number ≠ number' := fun heq => hother (heq ▸ hnode)
              simp [node?, hnode, nodeOf, List.getD_eq_getElem?_getD,
                List.getElem?_set_ne hne]
  next =>
    rw [node?_set]
    split
    next hsame =>
      rw [hsame.1]
      exact .inr ⟨tree.sameFile_self place, rfl, rfl⟩
    next => exact .inl rfl

/-- A further name does not change a file. -/
theorem node?_link (tree : FileTree) (place name : Place) :
    (tree.link place name).node? place = tree.node? place := by
  by_cases hnil : place = []
  · simp [node?, hnil]
  rw [node?_of_ne_nil hnil, node?_of_ne_nil hnil, link]
  split
  next hentry => rw [hentry]
  next number hentry =>
    have hshared : (tree.enter name (.shared number)).entries.get? place =
        some (.shared number) := by
      rw [entry_enter, hentry, ite_self]
    rw [hshared, hentry]
    rfl
  next node hentry =>
    simp only [entry_enter, ite_true, ite_self, Option.map_some]
    rw [hentry]
    simp [nodeOf, enter]

/-- Nothing stands at a vacant place or below it. -/
theorem entry_of_isVacant {tree : FileTree} {place other : Place}
    (h : tree.isVacant place = true) (hbelow : place <+: other) :
    tree.entries.get? other = none := by
  rw [isVacant, Bool.and_eq_true, List.all_eq_true] at h
  cases hentry : tree.entries.get? other with
  | none => rfl
  | some entry =>
      have hfree := h.2 other
        ((Ordered.mem_keys_iff tree.entries other).mpr ⟨entry, hentry⟩)
      rw [List.isPrefixOf_iff_prefix.mpr hbelow] at hfree
      cases hfree

theorem ne_nil_of_isVacant {tree : FileTree} {place : Place}
    (h : tree.isVacant place = true) : place ≠ [] := by
  rintro rfl
  cases h

theorem node?_of_isVacant {tree : FileTree} {place other : Place}
    (h : tree.isVacant place = true) (hbelow : place <+: other) :
    tree.node? other = none := by
  have hne : other ≠ [] := fun hnil =>
    ne_nil_of_isVacant h (List.prefix_nil.mp (hnil ▸ hbelow))
  rw [node?_of_ne_nil hne, entry_of_isVacant h hbelow]
  rfl

theorem requireDirectory_eq_ok {tree : FileTree} {place : Place} {u : Unit} :
    tree.requireDirectory place = .ok u ↔
      tree.node? place = some .directory := by
  rw [requireDirectory]
  split <;> simp_all

/-! ## Following parts -/

/-- The place to which one part of a path leads. -/
def follow (place : Place) (part : String) : Place :=
  if part = "" || part = "." then place
  else if part = ".." then place.dropLast
  else place ++ [part]

theorem follow_of_isName {name : String} (h : Path.IsName name)
    (place : Place) : follow place name = place ++ [name] := by
  obtain ⟨hempty, hdot, hdots, -⟩ := h
  simp [follow, hempty, hdot, hdots]

/-- A part can be followed from a directory, and only from there. -/
theorem walk_cons_eq_ok {tree : FileTree} {place last : Place} {part : String}
    {rest : List String} :
    tree.walk place (part :: rest) = .ok last ↔
      tree.node? place = some .directory ∧
        tree.walk (follow place part) rest = .ok last := by
  rw [walk, ← requireDirectory_eq_ok (u := ())]
  cases hplace : tree.requireDirectory place with
  | error e => simp [bind, Except.bind]
  | ok u =>
      have hnext : (if part = "" || part = "." then tree.walk place rest
          else if part = ".." then tree.walk place.dropLast rest
          else tree.walk (place ++ [part]) rest) =
            tree.walk (follow place part) rest := by
        unfold follow
        split
        · rfl
        · split <;> rfl
      simp only [bind, Except.bind, true_and]
      rw [hnext]

theorem walk_append_eq_ok {tree : FileTree} {before after : List String}
    {place last : Place} :
    tree.walk place (before ++ after) = .ok last ↔
      ∃ next, tree.walk place before = .ok next ∧
        tree.walk next after = .ok last := by
  induction before generalizing place with
  | nil => simp [walk]
  | cons part before ih =>
      simp only [List.cons_append, walk_cons_eq_ok, ih]
      constructor
      · rintro ⟨hplace, next, hbefore, hafter⟩
        exact ⟨next, ⟨hplace, hbefore⟩, hafter⟩
      · rintro ⟨next, ⟨hplace, hbefore⟩, hafter⟩
        exact ⟨hplace, next, hbefore, hafter⟩

/-- Where parts lead does not depend on the tree. -/
theorem walk_unique {tree tree' : FileTree} {parts : List String}
    {place last last' : Place} (h : tree.walk place parts = .ok last)
    (h' : tree'.walk place parts = .ok last') : last = last' := by
  induction parts generalizing place with
  | nil =>
      cases h
      cases h'
      rfl
  | cons part parts ih =>
      rw [walk_cons_eq_ok] at h h'
      exact ih h.2 h'.2

theorem walk_mono {tree tree' : FileTree}
    (hkept : ∀ place, tree.node? place = some .directory →
      tree'.node? place = some .directory)
    {parts : List String} {place last : Place}
    (h : tree.walk place parts = .ok last) :
    tree'.walk place parts = .ok last := by
  induction parts generalizing place with
  | nil => exact h
  | cons part parts ih =>
      rw [walk_cons_eq_ok] at h ⊢
      exact ⟨hkept place h.1, ih h.2⟩

/-- All places above a place are directories. -/
def Grounded (tree : FileTree) (place : Place) : Prop :=
  ∀ above, above <+: place → above ≠ place →
    tree.node? above = some .directory

theorem Grounded.follow {tree : FileTree} {place : Place}
    (h : tree.Grounded place) (hplace : tree.node? place = some .directory)
    (part : String) : tree.Grounded (follow place part) := by
  have hall : ∀ above, above <+: place → tree.node? above = some .directory := by
    intro above habove
    by_cases heq : above = place
    · rw [heq]
      exact hplace
    · exact h above habove heq
  intro above habove hne
  unfold FileTree.follow at habove hne
  split at habove
  · exact hall above habove
  · split at habove
    · exact hall above (habove.trans (List.dropLast_prefix place))
    · rcases List.prefix_concat_iff.mp habove with heq | habove
      · simp_all
      · exact hall above habove

theorem Grounded.walk {tree : FileTree} {parts : List String}
    {place last : Place} (h : tree.Grounded place)
    (hwalk : tree.walk place parts = .ok last) : tree.Grounded last := by
  induction parts generalizing place with
  | nil =>
      cases hwalk
      exact h
  | cons part parts ih =>
      rw [walk_cons_eq_ok] at hwalk
      exact ih (h.follow hwalk.1 part) hwalk.2

theorem grounded_nil (tree : FileTree) : tree.Grounded [] := by
  intro above habove hne
  exact absurd (List.prefix_nil.mp habove) hne

/-- A way that could be followed when there was no directory at a place can
still be followed when that place is removed. -/
theorem walk_remove {earlier tree : FileTree} {gone : Place}
    (hgone : earlier.node? gone ≠ some .directory) {parts : List String}
    {place last : Place} (hground : earlier.Grounded place)
    (hearlier : earlier.walk place parts = .ok last)
    (h : tree.walk place parts = .ok last) :
    (tree.remove gone).walk place parts = .ok last := by
  induction parts generalizing place with
  | nil => exact h
  | cons part parts ih =>
      rw [walk_cons_eq_ok] at hearlier h ⊢
      refine ⟨?_, ih (hground.follow hearlier.1 part) hearlier.2 h.2⟩
      have houtside : ¬ gone <+: place := by
        intro hbelow
        by_cases heq : gone = place
        · exact hgone (heq ▸ hearlier.1)
        · exact hgone (hground gone hbelow heq)
      rw [node?_remove, if_neg fun hremoved => houtside hremoved.1]
      exact h.1

theorem resolve_of_isAbsolute {path : String} (h : Path.isAbsolute path = true)
    (tree : FileTree) (base : Place) :
    tree.resolve base path = tree.walk [] (pathParts path) := by
  rw [resolve, Path.isEmpty_of_isAbsolute h, h]
  rfl

/-- The path of an entry of a directory leads to the entry.  A slash at the end
of the root makes an empty part, which goes nowhere. -/
theorem walk_join {tree : FileTree} {root name : String} {place : Place}
    (hroot : Path.isAbsolute root = true) (hname : Path.IsName name)
    (hwalk : tree.walk [] (pathParts root) = .ok place)
    (hplace : tree.node? place = some .directory) :
    tree.walk [] (pathParts (Path.join root name)) = .ok (place ++ [name]) := by
  have hparts : (Path.splitSlashes name.toList).map String.ofList = [name] := by
    rw [Path.splitSlashes_of_not_mem hname.2.2.2]
    simp
  have hstep : tree.walk place [name] = .ok (place ++ [name]) := by
    rw [walk_cons_eq_ok, follow_of_isName hname]
    exact ⟨hplace, rfl⟩
  rw [pathParts]
  rcases Path.join_cases hroot hname.not_isAbsolute with
    ⟨before, hbefore, hjoin⟩ | hjoin
  · rw [pathParts, hbefore, Path.splitSlashes_append, List.map_append,
      walk_append_eq_ok] at hwalk
    obtain ⟨next, hnext, hlast⟩ := hwalk
    have hstay : next = place := by
      have hidle := (walk_cons_eq_ok.mp hlast).2
      cases hidle
      rfl
    rw [hjoin, Path.splitSlashes_append, List.map_append, hparts,
      walk_append_eq_ok]
    exact ⟨next, hnext, hstay ▸ hstep⟩
  · rw [hjoin, Path.splitSlashes_append, List.map_append, hparts,
      walk_append_eq_ok]
    exact ⟨place, hwalk, hstep⟩

/-! ## Trees that grow -/

/-- No file gets a further name. -/
def LinksNothing (tree tree' : FileTree) : Prop :=
  ∀ place number, tree'.entries.get? place = some (.shared number) →
    tree.entries.get? place = some (.shared number)

theorem linksNothing_set (tree : FileTree) (place : Place) (node : Node) :
    tree.LinksNothing (tree.set place node) := by
  intro other number h
  rw [entry_set] at h
  split at h
  · cases h
  · exact h

theorem linksNothing_remove (tree : FileTree) (place : Place) :
    tree.LinksNothing (tree.remove place) := by
  intro other number h
  rw [entry_remove] at h
  split at h
  · cases h
  · exact h

theorem linksNothing_replace (tree : FileTree) (place : Place) (node : Node) :
    tree.LinksNothing (tree.replace place node) := by
  rw [replace]
  split
  · exact fun _ _ h => h
  · exact linksNothing_set tree place node

/-- Places that are names of one file have been so before. -/
theorem LinksNothing.sameFile {tree tree' : FileTree}
    (h : tree.LinksNothing tree') {place other : Place}
    (hsame : tree'.sameFile place other = true) :
    tree.sameFile place other = true := by
  rw [FileTree.sameFile, Bool.or_eq_true, decide_eq_true_eq] at hsame ⊢
  rcases hsame with hsame | hsame
  · exact .inl hsame
  · right
    split at hsame
    next number number' hplace hother =>
      rw [h place number hplace, h other number' hother]
      exact hsame
    next => cases hsame

/-- No directory is lost, and neither a device nor a further name of a file is
gained. -/
structure Grows (tree tree' : FileTree) : Prop where
  directory : ∀ place, tree.node? place = some .directory →
    tree'.node? place = some .directory
  device : ∀ place device, tree'.node? place = some (.device device) →
    tree.node? place = some (.device device)
  links : tree.LinksNothing tree'

theorem Grows.refl (tree : FileTree) : tree.Grows tree :=
  ⟨fun _ h => h, fun _ _ h => h, fun _ _ h => h⟩

theorem Grows.trans {a b c : FileTree} (hab : a.Grows b) (hbc : b.Grows c) :
    a.Grows c :=
  ⟨fun place h => hbc.directory place (hab.directory place h),
    fun place device h => hab.device place device (hbc.device place device h),
    fun place number h => hab.links place number (hbc.links place number h)⟩

theorem grows_set {tree : FileTree} {place : Place} {node : Node}
    (hplace : tree.node? place ≠ some .directory)
    (hnode : ∀ device, node ≠ .device device) :
    tree.Grows (tree.set place node) where
  directory other h := by
    rw [node?_set, if_neg]
    · exact h
    · rintro ⟨rfl, -⟩
      exact hplace h
  device other device h := by
    rw [node?_set] at h
    split at h
    · exact absurd (Option.some.inj h) (hnode device)
    · exact h
  links := linksNothing_set tree place node

theorem grows_replace {tree : FileTree} {place : Place} {node : Node}
    (hplace : tree.node? place ≠ some .directory)
    (hnode : ∀ device, node ≠ .device device) :
    tree.Grows (tree.replace place node) where
  directory other h := by
    rcases node?_replace (ne_nil_of_node? hplace) node other with hkept | ⟨-, hsame, -⟩
    · rw [hkept, h]
    · exact absurd (hsame.symm.trans h) hplace
  device other device h := by
    rcases node?_replace (ne_nil_of_node? hplace) node other with hkept | ⟨-, -, hnew⟩
    · rw [← hkept, h]
    · exact absurd (Option.some.inj (hnew.symm.trans h)) (hnode device)
  links := linksNothing_replace tree place node

theorem grows_setContent {tree : FileTree} {place : Place}
    (hplace : tree.node? place ≠ some .directory) (content : Bytes) :
    tree.Grows (tree.setContent place content) := by
  rw [setContent]
  split
  · exact grows_replace hplace nofun
  · exact .refl _
  · exact grows_set hplace nofun

theorem makeAlong_nil {tree tree' : FileTree} {place : Place}
    (h : tree.makeAlong place [] = .ok tree') : tree' = tree := by
  rw [makeAlong] at h
  cases hplace : tree.requireDirectory place with
  | error e =>
      rw [hplace] at h
      cases h
  | ok u =>
      rw [hplace] at h
      cases h
      rfl

/-- Each part leads to a directory, which is made if nothing is there. -/
theorem makeAlong_cons {tree tree' : FileTree} {place : Place} {part : String}
    {rest : List String} (h : tree.makeAlong place (part :: rest) = .ok tree') :
    tree.makeAlong (follow place part) rest = .ok tree' ∨
      tree.node? (follow place part) = none ∧
        (tree.set (follow place part) .directory).makeAlong (follow place part)
          rest = .ok tree' := by
  rw [makeAlong] at h
  rw [follow]
  cases hplace : tree.requireDirectory place with
  | error e =>
      rw [hplace] at h
      cases h
  | ok u =>
      rw [hplace] at h
      simp only [bind, Except.bind] at h
      split at h
      next hidle =>
        rw [if_pos hidle]
        exact .inl h
      next hidle =>
        rw [if_neg hidle]
        split at h
        next hup =>
          rw [if_pos hup]
          exact .inl h
        next hup =>
          rw [if_neg hup]
          split at h
          next hnone => exact .inr ⟨hnone, h⟩
          next => exact .inl h
          next => cases h

theorem grows_makeAlong {parts : List String} {tree tree' : FileTree}
    {place : Place} (h : tree.makeAlong place parts = .ok tree') :
    tree.Grows tree' := by
  induction parts generalizing tree place with
  | nil =>
      rw [makeAlong_nil h]
      exact .refl _
  | cons part parts ih =>
      rcases makeAlong_cons h with h | ⟨hnone, h⟩
      · exact ih h
      · have hset : tree.Grows (tree.set (follow place part) .directory) :=
          grows_set (fun hdir => nomatch hnone.symm.trans hdir) nofun
        exact hset.trans (ih h)

/-- What it takes to write a file: a place that is no directory. -/
theorem write_eq_ok {tree tree' : FileTree} {base : Place} {path : String}
    {content : Bytes} (h : tree.write base path content = .ok tree') :
    ∃ place, tree.resolve base (trimSlashes path) = .ok place ∧
      tree.node? place ≠ some .directory ∧
      tree' = tree.setContent place content := by
  rw [write, writablePlace] at h
  cases hplace : tree.resolve base (trimSlashes path) with
  | error e =>
      rw [hplace] at h
      cases h
  | ok place =>
      rw [hplace] at h
      simp only [bind, Except.bind, pure, Except.pure] at h
      refine ⟨place, rfl, ?_, ?_⟩
      · intro hdir
        rw [hdir] at h
        cases h
      · split at h
        · cases h
        · rename_i written hwritten
          split at hwritten <;> (try split at hwritten) <;> cases hwritten <;>
            exact (Except.ok.inj h).symm

theorem grows_write {tree tree' : FileTree} {base : Place} {path : String}
    {content : Bytes} (h : tree.write base path content = .ok tree') :
    tree.Grows tree' := by
  obtain ⟨place, -, hplace, rfl⟩ := write_eq_ok h
  exact grows_setContent hplace content

theorem grows_makeDirectories {tree tree' : FileTree} {base : Place}
    {path : String} (h : tree.makeDirectories base path = .ok tree') :
    tree.Grows tree' := by
  rw [makeDirectories] at h
  split at h
  · cases h
    exact .refl tree
  · exact grows_makeAlong h

/-- A directory is made where nothing was, nor below. -/
theorem makeDirectory_eq_ok {tree tree' : FileTree} {base : Place}
    {path : String} (h : tree.makeDirectory base path = .ok tree') :
    ∃ place, tree.resolve base (trimSlashes path) = .ok place ∧
      tree.isVacant place = true ∧ tree' = tree.set place .directory := by
  rw [makeDirectory] at h
  cases hplace : tree.resolve base (trimSlashes path) with
  | error e =>
      rw [hplace] at h
      cases h
  | ok place =>
      rw [hplace] at h
      simp only [bind, Except.bind] at h
      split at h
      next hvacant =>
        cases h
        exact ⟨place, rfl, hvacant, rfl⟩
      next => cases h

theorem grows_makeDirectory {tree tree' : FileTree} {base : Place}
    {path : String} (h : tree.makeDirectory base path = .ok tree') :
    tree.Grows tree' := by
  obtain ⟨place, -, hvacant, rfl⟩ := makeDirectory_eq_ok h
  have hnone := node?_of_isVacant hvacant (List.prefix_refl place)
  exact grows_set (fun hdir => nomatch hnone.symm.trans hdir) nofun

/-! ## Intact directories -/

/-- Devices lie in directories. -/
def Sound (tree : FileTree) : Prop :=
  ∀ place name device, tree.node? (place ++ [name]) = some (.device device) →
    tree.node? place = some .directory

/-- No name in a directory is that of a device, or one of several names of a
file. -/
structure Plain (tree : FileTree) (place : Place) : Prop where
  device : ∀ name device, tree.node? (place ++ [name]) ≠ some (.device device)
  single : ∀ name number,
    tree.entries.get? (place ++ [name]) ≠ some (.shared number)

theorem Grows.plain {tree tree' : FileTree} (h : tree.Grows tree')
    {place : Place} (hplain : tree.Plain place) : tree'.Plain place where
  device name device hdevice :=
    hplain.device name device (h.device _ device hdevice)
  single name number hshared :=
    hplain.single name number (h.links _ number hshared)

/-- An absolute path leads to a plain directory. -/
structure Intact (tree : FileTree) (root : String) : Prop where
  sound : tree.Sound
  isAbsolute : Path.isAbsolute root = true
  leads : ∃ place, tree.walk [] (pathParts root) = .ok place ∧
    tree.node? place = some .directory ∧ tree.Plain place

theorem sound_empty : FileTree.empty.Sound := by
  intro place name device h
  have hnone : FileTree.empty.node? (place ++ [name]) = none := by
    simp [node?, empty, Ordered.Map.get?, Ordered.Map.empty]
  cases hnone.symm.trans h

theorem Grows.sound {tree tree' : FileTree} (h : tree.Grows tree')
    (hsound : tree.Sound) : tree'.Sound := by
  intro place name device hdevice
  exact h.directory place (hsound place name device (h.device _ device hdevice))

theorem Grows.intact {tree tree' : FileTree} {root : String}
    (h : tree.Grows tree') (hintact : tree.Intact root) : tree'.Intact root := by
  obtain ⟨place, hwalk, hplace, hplain⟩ := hintact.leads
  exact ⟨h.sound hintact.sound, hintact.isAbsolute, place,
    walk_mono h.directory hwalk, h.directory place hplace, h.plain hplain⟩

theorem plain_of_isVacant {tree : FileTree} {place : Place}
    (h : tree.isVacant place = true) : tree.Plain place := by
  have hnone : ∀ name, tree.entries.get? (place ++ [name]) = none :=
    fun name => entry_of_isVacant h (List.prefix_append place [name])
  refine ⟨fun name device hdevice => ?_, fun name number hshared => ?_⟩
  · rw [node?_of_ne_nil (by simp), hnone name] at hdevice
    cases hdevice
  · cases (hnone name).symm.trans hshared

/-- A directory that is made is plain, for nothing is in it. -/
theorem intact_makeDirectory {tree tree' : FileTree} {base : Place}
    {path : String} {c : Char} (hsound : tree.Sound)
    (hpath : Path.isAbsolute path = true) (hc : c ≠ '/')
    (hlast : path.toList.getLast? = some c)
    (h : tree.makeDirectory base path = .ok tree') : tree'.Intact path := by
  have hgrows := grows_makeDirectory h
  obtain ⟨place, hresolve, hvacant, rfl⟩ := makeDirectory_eq_ok h
  rw [trimSlashes_of_getLast? hc hlast, resolve_of_isAbsolute hpath] at hresolve
  refine ⟨hgrows.sound hsound, hpath, place,
    walk_mono hgrows.directory hresolve, ?_,
    hgrows.plain (plain_of_isVacant hvacant)⟩
  rw [node?_set, if_pos ⟨rfl, ne_nil_of_isVacant hvacant⟩]

/-- The removal of what was not there when a directory was intact leaves the
directory intact. -/
theorem intact_remove {earlier tree : FileTree} {gone : Place} {root : String}
    (hgone : earlier.node? gone = none) (hearlier : earlier.Intact root)
    (h : tree.Intact root) : (tree.remove gone).Intact root := by
  have hnot : earlier.node? gone ≠ some .directory :=
    fun hdir => nomatch hgone.symm.trans hdir
  obtain ⟨place, hwalk, hplace, hplain⟩ := h.leads
  obtain ⟨place', hwalk', hplace', -⟩ := hearlier.leads
  obtain rfl := walk_unique hwalk hwalk'
  have houtside : ¬ gone <+: place := by
    intro hbelow
    by_cases heq : gone = place
    · exact hnot (heq ▸ hplace')
    · exact hnot ((grounded_nil earlier).walk hwalk' gone hbelow heq)
  have hkept : ∀ {other : Place} {node : Node},
      (tree.remove gone).node? other = some node →
        ¬ (gone <+: other ∧ other ≠ []) ∧ tree.node? other = some node := by
    intro other node hnode
    rw [node?_remove] at hnode
    split at hnode
    · cases hnode
    next hstays => exact ⟨hstays, hnode⟩
  refine ⟨?_, h.isAbsolute, place,
    walk_remove hnot (grounded_nil earlier) hwalk' hwalk, ?_, ?_⟩
  · intro other name device hdevice
    obtain ⟨hstays, hdevice⟩ := hkept hdevice
    have habove : ¬ (gone <+: other ∧ other ≠ []) := fun hbelow =>
      hstays ⟨hbelow.1.trans (List.prefix_append other [name]), by simp⟩
    rw [node?_remove, if_neg habove]
    exact h.sound other name device hdevice
  · rw [node?_remove, if_neg fun hbelow => houtside hbelow.1]
    exact hplace
  · exact ⟨fun name device hdevice => hplain.device name device (hkept hdevice).2,
      fun name number hshared => hplain.single name number
        (linksNothing_remove tree gone _ number hshared)⟩

/-- A file with one name only is replaced in its place. -/
theorem replace_of_single {tree : FileTree} {place : Place}
    (h : ∀ number, tree.entries.get? place ≠ some (.shared number))
    (node : Node) : tree.replace place node = tree.set place node := by
  rw [replace]
  split
  next number hshared => exact absurd hshared (h number)
  next => rfl

/-- A file of an intact directory that is written. -/
theorem write_join {tree tree' : FileTree} {base : Place} {root name : String}
    {content : Bytes} (hintact : tree.Intact root) (hname : Path.IsName name)
    (h : tree.write base (Path.join root name) content = .ok tree') :
    ∃ place executable, tree.walk [] (pathParts root) = .ok place ∧
      tree.node? place = some .directory ∧
      tree' = tree.set (place ++ [name]) (.file content executable) := by
  obtain ⟨place, hwalk, hplace, hplain⟩ := hintact.leads
  obtain ⟨target, hresolve, htarget, rfl⟩ := write_eq_ok h
  rw [trimSlashes_join hintact.isAbsolute hname,
    resolve_of_isAbsolute (Path.isAbsolute_join hintact.isAbsolute name),
    walk_join hintact.isAbsolute hname hwalk hplace] at hresolve
  cases hresolve
  rw [setContent]
  split
  next old executable hfile =>
    exact ⟨place, executable, hwalk, hplace,
      replace_of_single (hplain.single name) _⟩
  next device hdevice => exact absurd hdevice (hplain.device name device)
  next => exact ⟨place, false, hwalk, hplace, rfl⟩

/-- What an entry of a directory holds. -/
theorem read_join {tree : FileTree} {base place : Place} {root name : String}
    (hroot : Path.isAbsolute root = true) (hname : Path.IsName name)
    (hwalk : tree.walk [] (pathParts root) = .ok place)
    (hplace : tree.node? place = some .directory) :
    tree.read base (Path.join root name) =
      match tree.node? (place ++ [name]) with
      | some .directory => .error .isDirectory
      | some (.file content _) => .ok content
      | some _ => .ok []
      | none => .error .notFound := by
  rw [read, lookup, resolve_of_isAbsolute (Path.isAbsolute_join hroot name),
    walk_join hroot hname hwalk hplace]
  simp only [bind, Except.bind]
  rcases tree.node? (place ++ [name]) with _ | (_ | _ | _ | _) <;> rfl

end FileTree

end Relift
