import Relift.Host

/-!
# What a host has to promise

A run works with files in directories that it makes itself.  What it writes
there can be read back only if nothing stands in the way: a link in such a
directory could lead any of its names to any other place.  Which directories
are free of such things is for each host to say; `Host.Lawful` takes it as a
predicate and states what has to follow for directories that have it.

What is done in a scratch directory has no effect elsewhere, unless something in
it leads there, and a scratch directory that is removed is gone: `Host.Tidy`
states this of locations, for any way to tell what stands at them and what leads
to them.
-/

namespace Relift

/-- A text that can name an entry of a directory. -/
def Path.IsName (name : String) : Prop :=
  name ≠ "" ∧ name ≠ "." ∧ name ≠ ".." ∧ '/' ∉ name.toList

instance (name : String) : Decidable (Path.IsName name) :=
  inferInstanceAs (Decidable (_ ∧ _))

variable {σ : Type}

/-- A host keeps files.  A state is sound if the host can be in it at all.  That
`root` is intact in a state says that the state is sound and `root` one of its
directories, without links and devices. -/
structure Host.Lawful (host : Host σ) (sound : σ → Prop)
    (intact : String → σ → Prop) : Prop where
  sound_of_intact : ∀ {root s}, intact root s → sound s
  /-- A new scratch directory is intact. -/
  scratch_intact : ∀ {directory label root s s'}, sound s →
    host.makeScratch directory label s = (.ok root, s') → intact root s'
  intact_makeScratch : ∀ {directory label root answer s s'},
    host.makeScratch directory label s = (answer, s') → intact root s →
    intact root s'
  intact_makeDirectories : ∀ {path root answer s s'},
    host.makeDirectories path s = (answer, s') → intact root s → intact root s'
  intact_writeBytes : ∀ {path content root answer s s'},
    host.writeBytes path content s = (answer, s') → intact root s →
    intact root s'
  /-- The removal of a scratch directory does no harm to a directory that was
  there before it. -/
  intact_removeScratch : ∀ {directory label scratch root s₀ s₁ s},
    host.makeScratch directory label s₀ = (.ok scratch, s₁) → intact root s₀ →
    intact root s → intact root (host.removeDirectory scratch s)
  /-- What was written into an intact directory is there. -/
  read_written : ∀ {root name content s s'}, intact root s → Path.IsName name →
    host.writeBytes (Path.join root name) content s = (.ok (), s') →
    host.readBytes s' (Path.join root name) = .ok content
  /-- The other files of the directory are as they were. -/
  read_beside : ∀ {root name other content s s'}, intact root s →
    Path.IsName name → Path.IsName other → other ≠ name →
    host.writeBytes (Path.join root name) content s = (.ok (), s') →
    host.readBytes s' (Path.join root other) =
      host.readBytes s (Path.join root other)

/-- The directory at `root`, or a scratch directory made in an entry of it. -/
inductive Host.Owns (host : Host σ) (root : String) : String → Prop where
  | root : Owns host root root
  | scratch {name label path : String} {s s' : σ} (hname : Path.IsName name)
      (hlabel : Path.IsName label)
      (hmade : host.makeScratch (Path.join root name) label s = (.ok path, s')) :
      Owns host root path

/-- A path at which a scratch directory can be made. -/
def Host.IsScratch (host : Host σ) (root : String) : Prop :=
  ∃ directory label s s', host.makeScratch directory label s = (.ok root, s')

/-- A way to look at the files of a host: by locations of type `ι`, at which
things of type `α` may stand. -/
structure View (σ ι α : Type) where
  look : σ → ι → Option α
  /-- A location is that of a directory, or lies below it. -/
  within : String → ι → Prop
  /-- A path passes through a location before its end. -/
  onWay : String → ι → Prop
  /-- A path into a directory leads to a location, as through a link. -/
  leads : String → σ → ι → Prop

/-- Between two states nothing is changed at a location, and nothing in a
directory is made to lead there. -/
def View.Unmoved {ι α : Type} (view : View σ ι α) (root : String) (s s' : σ)
    (i : ι) : Prop :=
  view.look s' i = view.look s i ∧ ¬ view.leads root s' i

/-- Between two states nothing is changed outside a directory where nothing in
the directory leads to. -/
def View.Spares {ι α : Type} (view : View σ ι α) (root : String) (s s' : σ) :
    Prop :=
  ∀ i, ¬ view.within root i → ¬ view.leads root s i → view.Unmoved root s s' i

/-- What is done in a scratch directory is seen outside it only where something
in it leads to, and what is removed is gone. -/
structure Host.Tidy {ι α : Type} (host : Host σ) (view : View σ ι α) : Prop where
  /-- Where no scratch directory can be made, nothing is changed. -/
  unmade : ∀ {directory label e s s'},
    host.makeScratch directory label s = (.error e, s') →
    ∀ i, view.look s' i = view.look s i
  /-- A scratch directory is made where nothing was, with nothing in it that
  leads out of it, and its path can be followed. -/
  made : ∀ {directory label root s s'},
    host.makeScratch directory label s = (.ok root, s') →
    (∀ i, view.within root i → view.look s i = none) ∧
    (∀ i, ¬ view.within root i → view.Unmoved root s s' i) ∧
    ∀ i, view.onWay root i → view.look s' i ≠ none
  /-- Of the places outside, only missing ones on the way are made. -/
  makeDirectories : ∀ {root name answer s s'}, host.IsScratch root →
    Path.IsName name → host.makeDirectories (Path.join root name) s = (answer, s') →
    ∀ i, ¬ view.within root i → ¬ view.leads root s i →
      view.Unmoved root s s' i ∨ view.onWay root i ∧ view.look s i = none
  makeScratch : ∀ {root name label answer s s'}, host.IsScratch root →
    Path.IsName name → Path.IsName label →
    host.makeScratch (Path.join root name) label s = (answer, s') →
    view.Spares root s s'
  writeBytes : ∀ {root directory name content answer s s'},
    host.IsScratch root → host.Owns root directory → Path.IsName name →
    host.writeBytes (Path.join directory name) content s = (answer, s') →
    view.Spares root s s'
  removeDirectory : ∀ {root directory s}, host.IsScratch root →
    host.Owns root directory →
    view.Spares root s (host.removeDirectory directory s)
  /-- A scratch directory that is removed is gone, with those made in it. -/
  removed : ∀ {root owned s}, host.IsScratch root → host.Owns root owned →
    host.isDirectory (host.removeDirectory root s) owned = false

end Relift
