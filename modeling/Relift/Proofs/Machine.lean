import Relift.Machine.Basic
import Relift.Proofs.FileTree

/-!
# Machines keep files

Only devices and files with several names stand in the way of reading back what
was written on a machine.  With the plain directories, which have neither, as
the intact ones, its operations keep all that a host has to promise.
-/

namespace Relift.Machine

/-- A state of a machine is sound if its devices lie in directories. -/
def Sound (m : Machine) : Prop :=
  m.tree.Sound

/-- An absolute path leads to a plain directory. -/
def Intact (root : String) (m : Machine) : Prop :=
  m.tree.Intact root

/-! ## Scratch directories -/

theorem isAbsolute_pathOf (place : Place) :
    Path.isAbsolute (FileTree.pathOf place) = true := by
  cases place with
  | nil => decide
  | cons name rest =>
      simp [FileTree.pathOf, Path.isAbsolute, String.toList_append]

/-- The name of a scratch directory ends with a digit. -/
theorem getLast?_scratchEnding (n : Nat) :
    ∃ c, c ≠ '/' ∧ (scratchEnding n).toList.getLast? = some c := by
  obtain ⟨before, c, hdigits⟩ :=
    (List.eq_nil_or_concat (Nat.toDigits 10 n)).resolve_left Nat.toDigits_ne_nil
  rw [List.concat_eq_append] at hdigits
  refine ⟨c, ?_, ?_⟩
  · rintro rfl
    have hslash : ('/' : Char).isDigit = true :=
      Nat.isDigit_of_mem_toDigits (by decide) (by decide)
        (hdigits ▸ List.mem_append_right before (List.mem_singleton_self _))
    exact absurd hslash (by decide)
  · rw [scratchEnding, hdigits, String.toList_ofList, ← List.append_assoc,
      List.getLast?_concat]

theorem isAbsolute_scratchPath (m : Machine) {base : String}
    (hbase : Path.isAbsolute base = true) (label : String) :
    Path.isAbsolute (m.scratchPath base label) = true :=
  Path.isAbsolute_join hbase _

theorem getLast?_scratchPath (m : Machine) {base : String}
    (hbase : Path.isAbsolute base = true) (label : String) :
    ∃ c, c ≠ '/' ∧ (m.scratchPath base label).toList.getLast? = some c := by
  rw [scratchPath]
  generalize ((List.range (m.tree.entries.size + 1)).find? _).getD 0 = n
  obtain ⟨c, hc, hlast⟩ := getLast?_scratchEnding n
  refine ⟨c, hc, Path.getLast?_join hbase ?_⟩
  rw [String.toList_append, List.getLast?_append, hlast]
  rfl

/-- A scratch directory is made at an absolute path that does not end with a
slash, or nothing is changed. -/
theorem makeScratch_cases (directory label : String) (m : Machine) :
    (∃ e, makeScratch directory label m = (.error e, m)) ∨
    ∃ path tree, makeScratch directory label m = (.ok path, { m with tree }) ∧
      Path.isAbsolute path = true ∧
      (∃ c, c ≠ '/' ∧ path.toList.getLast? = some c) ∧
      m.tree.makeDirectory m.place path = .ok tree := by
  cases hchosen : (if Path.isAbsolute directory then .ok directory
      else m.workingDirectory.map fun working => Path.join working directory :
        Except SystemError String) with
  | error e => exact .inl ⟨e, by simp only [makeScratch, hchosen]⟩
  | ok base =>
      have hbase : Path.isAbsolute base = true := by
        by_cases hdirectory : Path.isAbsolute directory = true
        · rw [if_pos hdirectory] at hchosen
          exact Except.ok.inj hchosen ▸ hdirectory
        · rw [if_neg hdirectory, workingDirectory] at hchosen
          split at hchosen
          · exact Except.ok.inj hchosen ▸
              Path.isAbsolute_join (isAbsolute_pathOf m.place) directory
          · cases hchosen
      cases htree : m.tree.makeDirectory m.place (m.scratchPath base label) with
      | error e =>
          refine .inl ⟨.atPath e (m.scratchPath base label), ?_⟩
          simp only [makeScratch, hchosen, htree]
      | ok tree =>
          refine .inr ⟨m.scratchPath base label, tree, ?_,
            m.isAbsolute_scratchPath hbase label,
            m.getLast?_scratchPath hbase label, htree⟩
          simp only [makeScratch, hchosen, htree]

theorem makeScratch_eq_ok {directory label path : String} {m m' : Machine}
    (h : makeScratch directory label m = (.ok path, m')) :
    Path.isAbsolute path = true ∧
      (∃ c, c ≠ '/' ∧ path.toList.getLast? = some c) ∧
      m.tree.makeDirectory m.place path = .ok m'.tree := by
  rcases makeScratch_cases directory label m with ⟨e, hmade⟩ |
    ⟨path', tree, hmade, habsolute, hlast, htree⟩
  · exact nomatch hmade.symm.trans h
  · obtain ⟨hpath, hm⟩ := Prod.mk.inj (hmade.symm.trans h)
    rw [← Except.ok.inj hpath, ← hm]
    exact ⟨habsolute, hlast, htree⟩

/-! ## The laws -/

/-- A change of the files that only lets them grow keeps directories intact. -/
theorem intact_change {m m' : Machine} {root : String}
    {result : Except SystemError FileTree} {answer : Except SystemError Unit}
    (hgrows : ∀ tree, result = .ok tree → m.tree.Grows tree)
    (h : m.change result = (answer, m')) (hroot : Intact root m) :
    Intact root m' := by
  cases result with
  | error e =>
      cases h
      exact hroot
  | ok tree =>
      cases h
      exact (hgrows tree rfl).intact hroot

theorem intact_makeScratch {directory label root : String} {m m' : Machine}
    {answer : Except SystemError String}
    (h : makeScratch directory label m = (answer, m')) (hroot : Intact root m) :
    Intact root m' := by
  rcases makeScratch_cases directory label m with ⟨e, hmade⟩ |
    ⟨path, tree, hmade, -, -, htree⟩
  · rw [← (Prod.mk.inj (hmade.symm.trans h)).2]
    exact hroot
  · rw [← (Prod.mk.inj (hmade.symm.trans h)).2]
    exact (FileTree.grows_makeDirectory htree).intact hroot

theorem intact_removeDirectory {directory label scratch root : String}
    {m₀ m₁ m : Machine} (h : makeScratch directory label m₀ = (.ok scratch, m₁))
    (hroot₀ : Intact root m₀) (hroot : Intact root m) :
    Intact root (removeDirectory scratch m) := by
  obtain ⟨habsolute, ⟨c, hc, hlast⟩, hmade⟩ := makeScratch_eq_ok h
  obtain ⟨place, hresolve, hvacant, -⟩ := FileTree.makeDirectory_eq_ok hmade
  have hnone := FileTree.node?_of_isVacant hvacant (List.prefix_refl place)
  rw [FileTree.trimSlashes_of_getLast? hc hlast,
    FileTree.resolve_of_isAbsolute habsolute] at hresolve
  rw [removeDirectory]
  split
  next gone hlookup =>
    have hgone : m.tree.walk [] (FileTree.pathParts scratch) = .ok gone := by
      rw [FileTree.lookup, FileTree.resolve_of_isAbsolute habsolute] at hlookup
      cases hwalk : m.tree.walk [] (FileTree.pathParts scratch) with
      | error e =>
          rw [hwalk] at hlookup
          cases hlookup
      | ok found =>
          rw [hwalk] at hlookup
          simp only [bind, Except.bind] at hlookup
          split at hlookup <;> cases hlookup
          rfl
    obtain rfl := FileTree.walk_unique hresolve hgone
    exact FileTree.intact_remove hnone hroot₀ hroot
  next => exact hroot

theorem host_makeScratch : host.makeScratch = makeScratch := by
  rw [host]

theorem host_removeDirectory : host.removeDirectory = removeDirectory := by
  rw [host]

theorem host_makeDirectories (path : String) (m : Machine) :
    host.makeDirectories path m =
      m.change (m.tree.makeDirectories m.place path) := by
  rw [host]

theorem host_writeBytes (path : String) (content : Bytes) (m : Machine) :
    host.writeBytes path content m =
      m.change (m.tree.write m.place path content) := by
  rw [host]

/-- A machine in which a file has been written. -/
theorem writeBytes_eq_ok {path : String} {content : Bytes} {m m' : Machine}
    {u : Unit} (h : host.writeBytes path content m = (.ok u, m')) :
    ∃ tree, m.tree.write m.place path content = .ok tree ∧
      m' = { m with tree } := by
  rw [host_writeBytes] at h
  cases hwrite : m.tree.write m.place path content with
  | error e =>
      rw [hwrite] at h
      exact nomatch (Prod.mk.inj h).1
  | ok tree =>
      rw [hwrite] at h
      exact ⟨tree, rfl, (Prod.mk.inj h).2.symm⟩

theorem read_written {root name : String} {content : Bytes} {m m' : Machine}
    {u : Unit} (hroot : Intact root m) (hname : Path.IsName name)
    (h : host.writeBytes (Path.join root name) content m = (.ok u, m')) :
    host.readBytes m' (Path.join root name) = .ok content := by
  obtain ⟨tree, hwrite, rfl⟩ := writeBytes_eq_ok h
  have hgrows := FileTree.grows_write hwrite
  obtain ⟨place, executable, hwalk, hplace, rfl⟩ :=
    FileTree.write_join hroot hname hwrite
  show FileTree.read _ m.place _ = _
  rw [FileTree.read_join hroot.isAbsolute hname
    (FileTree.walk_mono hgrows.directory hwalk)
    (hgrows.directory place hplace), FileTree.node?_set, if_pos (by simp)]

theorem read_beside {root name other : String} {content : Bytes}
    {m m' : Machine} {u : Unit} (hroot : Intact root m)
    (hname : Path.IsName name) (hother : Path.IsName other) (hne : other ≠ name)
    (h : host.writeBytes (Path.join root name) content m = (.ok u, m')) :
    host.readBytes m' (Path.join root other) =
      host.readBytes m (Path.join root other) := by
  obtain ⟨tree, hwrite, rfl⟩ := writeBytes_eq_ok h
  have hgrows := FileTree.grows_write hwrite
  obtain ⟨place, executable, hwalk, hplace, rfl⟩ :=
    FileTree.write_join hroot hname hwrite
  show FileTree.read _ m.place _ = FileTree.read m.tree m.place _
  rw [FileTree.read_join hroot.isAbsolute hother
    (FileTree.walk_mono hgrows.directory hwalk)
    (hgrows.directory place hplace), FileTree.node?_set, if_neg (by simp [hne]),
    FileTree.read_join hroot.isAbsolute hother hwalk hplace]

/-- Machines keep files. -/
theorem lawful : host.Lawful Sound Intact where
  sound_of_intact h := h.sound
  scratch_intact hsound h := by
    rw [host_makeScratch] at h
    obtain ⟨habsolute, ⟨c, hc, hlast⟩, hmade⟩ := makeScratch_eq_ok h
    exact FileTree.intact_makeDirectory hsound habsolute hc hlast hmade
  intact_makeScratch h hroot := by
    rw [host_makeScratch] at h
    exact intact_makeScratch h hroot
  intact_makeDirectories h hroot := by
    rw [host_makeDirectories] at h
    exact intact_change (fun _ => FileTree.grows_makeDirectories) h hroot
  intact_writeBytes h hroot := by
    rw [host_writeBytes] at h
    exact intact_change (fun _ => FileTree.grows_write) h hroot
  intact_removeScratch h hroot₀ hroot := by
    rw [host_makeScratch] at h
    rw [host_removeDirectory]
    exact intact_removeDirectory h hroot₀ hroot
  read_written := read_written
  read_beside := read_beside

end Relift.Machine
