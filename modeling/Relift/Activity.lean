/-!
# Activities

An activity works on the state of a host.  It answers with a value or an error,
and whatever it reports on the way is kept in order, also when it fails.
-/

namespace Relift

/-- What an activity leaves: its answer, the state and what it reported. -/
structure Outcome (σ ω α : Type) where
  value : α
  state : σ
  notes : List ω

/-- Work on states of type `σ` that reports notes of type `ω` and answers with
an `α` or an error of type `ε`. -/
def Activity (σ ω ε α : Type) : Type :=
  σ → Outcome σ ω (Except ε α)

namespace Activity

variable {σ ω ω' ε ε' α β : Type}

/-- The activity that only answers. -/
protected def pure (a : α) : Activity σ ω ε α :=
  fun s => ⟨.ok a, s, []⟩

/-- One activity after another; the second is left out when the first
fails. -/
protected def bind (x : Activity σ ω ε α) (f : α → Activity σ ω ε β) : Activity σ ω ε β :=
  fun s =>
    match x s with
    | ⟨.error e, s', notes⟩ => ⟨.error e, s', notes⟩
    | ⟨.ok a, s', notes⟩ => ⟨(f a s').value, (f a s').state, notes ++ (f a s').notes⟩

instance : Monad (Activity σ ω ε) where
  pure := Activity.pure
  bind := Activity.bind

/-- The activity that only fails. -/
def fail (e : ε) : Activity σ ω ε α :=
  fun s => ⟨.error e, s, []⟩

/-- The activity that only reports. -/
def report (note : ω) : Activity σ ω ε Unit :=
  fun s => ⟨.ok (), s, [note]⟩

/-- The activity that reports several notes. -/
def reportAll (notes : List ω) : Activity σ ω ε Unit :=
  fun s => ⟨.ok (), s, notes⟩

/-- The activity that has a given answer. -/
def ofExcept (answer : Except ε α) : Activity σ ω ε α :=
  fun s => ⟨answer, s, []⟩

/-- The activity that looks at the state. -/
def inspect (look : σ → Except ε α) : Activity σ ω ε α :=
  fun s => ⟨look s, s, []⟩

/-- The activity that changes the state. -/
def perform (change : σ → Except ε α × σ) : Activity σ ω ε α :=
  fun s => ⟨(change s).1, (change s).2, []⟩

/-- An activity whose error has become part of its answer. -/
def settle (x : Activity σ ω ε α) : Activity σ ω ε' (Except ε α) :=
  fun s => ⟨.ok (x s).value, (x s).state, (x s).notes⟩

/-- An activity after which the state is cleaned up, whatever its answer. -/
def cleanUp (x : Activity σ ω ε α) (clean : σ → σ) : Activity σ ω ε α :=
  fun s => ⟨(x s).value, clean (x s).state, (x s).notes⟩

/-- An activity whose errors are seen as others. -/
def mapError (x : Activity σ ω ε α) (f : ε → ε') : Activity σ ω ε' α :=
  fun s => ⟨(x s).value.mapError f, (x s).state, (x s).notes⟩

/-- An activity whose notes are told in other words. -/
def retell (x : Activity σ ω ε α) (f : ω → List ω') : Activity σ ω' ε α :=
  fun s => ⟨(x s).value, (x s).state, (x s).notes.flatMap f⟩

end Activity

end Relift
