import Relift.Activity

/-!
# How activities compose

An activity is a function from states to outcomes, and every longer activity is
a chain of `bind`s.  This module says once what a `bind` does on a given state,
forwards (`bind_of_ok`, `bind_of_error`) and backwards (`bind_value_error`), so
that no later proof opens its definition.  Activities form a lawful monad, hence
chains may be cut and joined anywhere.

Four ways to speak about a whole chain follow its shape: which notes it
reports (`Tells`), what it brings about (`wp`), that it does the same as
another one on states of another type (`Related`), and that it does the same as
another one but for the notes (`Agree`).
-/

namespace Relift.Activity

variable {σ ω ω' ε ε' α β : Type}

/-! ## One state at a time -/

/-- After a success the second activity goes on from the state reached, and
its notes follow. -/
theorem bind_of_ok {x : Activity σ ω ε α} {s s' : σ} {a : α} {notes : List ω}
    (h : x s = ⟨.ok a, s', notes⟩) (f : α → Activity σ ω ε β) :
    (x >>= f) s = ⟨(f a s').value, (f a s').state, notes ++ (f a s').notes⟩ := by
  show Activity.bind x f s = _
  rw [Activity.bind, h]

/-- After a failure the second activity is left out. -/
theorem bind_of_error {x : Activity σ ω ε α} {s s' : σ} {e : ε}
    {notes : List ω} (h : x s = ⟨.error e, s', notes⟩)
    (f : α → Activity σ ω ε β) :
    (x >>= f) s = ⟨.error e, s', notes⟩ := by
  show Activity.bind x f s = _
  rw [Activity.bind, h]

/-- A chain that fails has one of its parts fail. -/
theorem bind_value_error {x : Activity σ ω ε α} {f : α → Activity σ ω ε β}
    {s : σ} {e : ε} (h : ((x >>= f) s).value = .error e) :
    (x s).value = .error e ∨
      ∃ a s' notes, x s = ⟨.ok a, s', notes⟩ ∧ (f a s').value = .error e := by
  rcases hx : x s with ⟨e' | a, s', notes⟩
  · rw [bind_of_error hx] at h
    cases h
    exact .inl rfl
  · rw [bind_of_ok hx] at h
    exact .inr ⟨a, s', notes, rfl, h⟩

@[simp] theorem pure_apply (a : α) (s : σ) :
    (pure a : Activity σ ω ε α) s = ⟨.ok a, s, []⟩ := rfl

@[simp] theorem fail_apply (e : ε) (s : σ) :
    (fail e : Activity σ ω ε α) s = ⟨.error e, s, []⟩ := rfl

@[simp] theorem report_apply (note : ω) (s : σ) :
    (report note : Activity σ ω ε Unit) s = ⟨.ok (), s, [note]⟩ := rfl

@[simp] theorem reportAll_apply (notes : List ω) (s : σ) :
    (reportAll notes : Activity σ ω ε Unit) s = ⟨.ok (), s, notes⟩ := rfl

@[simp] theorem ofExcept_apply (answer : Except ε α) (s : σ) :
    (ofExcept answer : Activity σ ω ε α) s = ⟨answer, s, []⟩ := rfl

@[simp] theorem inspect_apply (look : σ → Except ε α) (s : σ) :
    (inspect look : Activity σ ω ε α) s = ⟨look s, s, []⟩ := rfl

@[simp] theorem perform_apply (change : σ → Except ε α × σ) (s : σ) :
    (perform change : Activity σ ω ε α) s =
      ⟨(change s).1, (change s).2, []⟩ := rfl

@[simp] theorem settle_apply (x : Activity σ ω ε α) (s : σ) :
    (settle x : Activity σ ω ε' (Except ε α)) s =
      ⟨.ok (x s).value, (x s).state, (x s).notes⟩ := rfl

@[simp] theorem cleanUp_apply (x : Activity σ ω ε α) (clean : σ → σ) (s : σ) :
    cleanUp x clean s = ⟨(x s).value, clean (x s).state, (x s).notes⟩ := rfl

@[simp] theorem mapError_apply (x : Activity σ ω ε α) (f : ε → ε') (s : σ) :
    mapError x f s = ⟨(x s).value.mapError f, (x s).state, (x s).notes⟩ := rfl

@[simp] theorem retell_apply (x : Activity σ ω ε α) (f : ω → List ω') (s : σ) :
    retell x f s = ⟨(x s).value, (x s).state, (x s).notes.flatMap f⟩ := rfl

/-! ## First steps that cannot fail -/

@[simp] theorem report_bind (note : ω) (f : Unit → Activity σ ω ε β) (s : σ) :
    (report note >>= f) s =
      ⟨(f () s).value, (f () s).state, note :: (f () s).notes⟩ :=
  bind_of_ok (report_apply note s) f

@[simp] theorem reportAll_bind (notes : List ω) (f : Unit → Activity σ ω ε β)
    (s : σ) :
    (reportAll notes >>= f) s =
      ⟨(f () s).value, (f () s).state, notes ++ (f () s).notes⟩ :=
  bind_of_ok (reportAll_apply notes s) f

@[simp] theorem inspect_ok_bind (look : σ → α) (f : α → Activity σ ω ε β)
    (s : σ) :
    ((inspect fun s => .ok (look s)) >>= f) s = f (look s) s :=
  bind_of_ok (inspect_apply (fun s => .ok (look s)) s) f

@[simp] theorem settle_bind (x : Activity σ ω ε α)
    (f : Except ε α → Activity σ ω ε' β) (s : σ) :
    (settle x >>= f) s =
      let next := f (x s).value (x s).state
      ⟨next.value, next.state, (x s).notes ++ next.notes⟩ :=
  bind_of_ok (settle_apply x s) f

/-! ## Monad laws -/

private theorem bind_pure_self (x : Activity σ ω ε α) :
    Activity.bind x Activity.pure = x := by
  funext s
  rcases hx : x s with ⟨_ | a, s', notes⟩ <;>
    simp [Activity.bind, Activity.pure, hx]

private theorem pure_bind_self (a : α) (f : α → Activity σ ω ε β) :
    Activity.bind (Activity.pure a) f = f a := by
  funext s
  simp [Activity.bind, Activity.pure]

private theorem bind_bind {γ : Type} (x : Activity σ ω ε α)
    (f : α → Activity σ ω ε β) (g : β → Activity σ ω ε γ) :
    Activity.bind (Activity.bind x f) g =
      Activity.bind x (fun a => Activity.bind (f a) g) := by
  funext s
  rcases hx : x s with ⟨_ | a, s', first⟩
  · simp [Activity.bind, hx]
  · rcases hf : f a s' with ⟨_ | b, s'', second⟩ <;>
      simp [Activity.bind, hx, hf]

instance : LawfulMonad (Activity σ ω ε) :=
  LawfulMonad.mk' _ bind_pure_self pure_bind_self bind_bind

/-! ## What is reported

`Tells P x` says that `x` reports only notes with `P`, on every state and
whether it answers or fails.  It follows the shape of the activity.
-/

/-- All notes of an activity have a property. -/
def Tells (P : ω → Prop) (x : Activity σ ω ε α) : Prop :=
  ∀ s, ∀ note ∈ (x s).notes, P note

section Tells

variable {P : ω → Prop}

theorem tells_pure (a : α) : Tells P (pure a : Activity σ ω ε α) := by
  intro s note hnote
  simp at hnote

theorem tells_ofExcept (answer : Except ε α) :
    Tells P (ofExcept answer : Activity σ ω ε α) := by
  intro s note hnote
  simp at hnote

theorem tells_inspect (look : σ → Except ε α) :
    Tells P (inspect look : Activity σ ω ε α) := by
  intro s note hnote
  simp at hnote

theorem tells_perform (change : σ → Except ε α × σ) :
    Tells P (perform change : Activity σ ω ε α) := by
  intro s note hnote
  simp at hnote

theorem tells_report {note : ω} (h : P note) :
    Tells P (report note : Activity σ ω ε Unit) := by
  intro s other hother
  simp only [report_apply, List.mem_singleton] at hother
  exact hother ▸ h

theorem tells_reportAll {notes : List ω} (h : ∀ note ∈ notes, P note) :
    Tells P (reportAll notes : Activity σ ω ε Unit) :=
  fun _ => h

theorem tells_bind {x : Activity σ ω ε α} {f : α → Activity σ ω ε β}
    (hx : Tells P x) (hf : ∀ a, Tells P (f a)) : Tells P (x >>= f) := by
  intro s note hnote
  have hfirst := hx s
  rcases h : x s with ⟨e | a, s', notes⟩
  · rw [bind_of_error h] at hnote
    rw [h] at hfirst
    exact hfirst note hnote
  · rw [bind_of_ok h] at hnote
    rw [h] at hfirst
    rcases List.mem_append.mp hnote with hnote | hnote
    · exact hfirst note hnote
    · exact hf a s' note hnote

theorem tells_mapError {x : Activity σ ω ε α} (f : ε → ε') (h : Tells P x) :
    Tells P (x.mapError f) :=
  h

theorem tells_cleanUp {x : Activity σ ω ε α} (clean : σ → σ) (h : Tells P x) :
    Tells P (x.cleanUp clean) :=
  h

theorem tells_retell {Q : ω' → Prop} (x : Activity σ ω ε α) {f : ω → List ω'}
    (h : ∀ note, ∀ told ∈ f note, Q told) : Tells Q (x.retell f) := by
  intro s told htold
  obtain ⟨note, -, hmem⟩ := List.mem_flatMap.mp htold
  exact h note told hmem

/-- An activity without admissible notes reports nothing. -/
theorem Tells.notes_eq_nil {x : Activity σ ω ε α}
    (h : Tells (fun _ => False) x) (s : σ) : (x s).notes = [] :=
  List.eq_nil_iff_forall_not_mem.mpr (h s)

end Tells

/-! ## What is brought about

`wp x post fault s` is the weakest precondition of `x` at the state `s`: from
there `x` either answers, and answer and state have `post`, or fails, and error
and state have `fault`.  Notes play no part.  Each rule below is an equivalence,
so a chain of activities can be rewritten into a statement about its primitive
steps.
-/

/-- From a state an activity answers with `post` or fails with `fault`. -/
def wp (x : Activity σ ω ε α) (post : α → σ → Prop) (fault : ε → σ → Prop)
    (s : σ) : Prop :=
  match (x s).value with
  | .ok a => post a (x s).state
  | .error e => fault e (x s).state

section WeakestPrecondition

variable {post post' : α → σ → Prop} {fault fault' : ε → σ → Prop} {s : σ}

theorem wp_of_ok {x : Activity σ ω ε α} {a : α} {s' : σ} {notes : List ω}
    (h : x s = ⟨.ok a, s', notes⟩) : wp x post fault s ↔ post a s' := by
  rw [wp, h]

theorem wp_of_error {x : Activity σ ω ε α} {e : ε} {s' : σ} {notes : List ω}
    (h : x s = ⟨.error e, s', notes⟩) : wp x post fault s ↔ fault e s' := by
  rw [wp, h]

/-- The weakest precondition of an activity of which nothing is known. -/
theorem wp_iff {x : Activity σ ω ε α} :
    wp x post fault s ↔
      (∀ a s' notes, x s = ⟨.ok a, s', notes⟩ → post a s') ∧
      ∀ e s' notes, x s = ⟨.error e, s', notes⟩ → fault e s' := by
  rcases h : x s with ⟨e | a, s', notes⟩
  · rw [wp_of_error h]
    simp
  · rw [wp_of_ok h]
    simp

theorem wp_mono {x : Activity σ ω ε α} (h : wp x post fault s)
    (hpost : ∀ a s', post a s' → post' a s')
    (hfault : ∀ e s', fault e s' → fault' e s') : wp x post' fault' s := by
  rw [wp_iff] at h ⊢
  exact ⟨fun a s' notes hx => hpost a s' (h.1 a s' notes hx),
    fun e s' notes hx => hfault e s' (h.2 e s' notes hx)⟩

theorem wp_pure (a : α) :
    wp (pure a : Activity σ ω ε α) post fault s ↔ post a s :=
  Iff.rfl

theorem wp_fail (e : ε) :
    wp (fail e : Activity σ ω ε α) post fault s ↔ fault e s :=
  Iff.rfl

theorem wp_report (note : ω) {post : Unit → σ → Prop} :
    wp (report note : Activity σ ω ε Unit) post fault s ↔ post () s :=
  Iff.rfl

theorem wp_reportAll (notes : List ω) {post : Unit → σ → Prop} :
    wp (reportAll notes : Activity σ ω ε Unit) post fault s ↔ post () s :=
  Iff.rfl

theorem wp_inspect (look : σ → Except ε α) :
    wp (inspect look : Activity σ ω ε α) post fault s ↔
      (∀ a, look s = .ok a → post a s) ∧ ∀ e, look s = .error e → fault e s := by
  rcases h : look s with e | a <;> simp [wp, h]

theorem wp_ofExcept (answer : Except ε α) :
    wp (ofExcept answer : Activity σ ω ε α) post fault s ↔
      (∀ a, answer = .ok a → post a s) ∧ ∀ e, answer = .error e → fault e s :=
  wp_inspect fun _ => answer

theorem wp_perform (change : σ → Except ε α × σ) :
    wp (perform change : Activity σ ω ε α) post fault s ↔
      (∀ a s', change s = (.ok a, s') → post a s') ∧
      ∀ e s', change s = (.error e, s') → fault e s' := by
  rcases h : change s with ⟨e | a, s'⟩ <;> simp [wp, h]

theorem wp_settle {x : Activity σ ω ε α} {post : Except ε α → σ → Prop}
    {fault : ε' → σ → Prop} :
    wp (settle x) post fault s ↔
      wp x (fun a => post (.ok a)) (fun e => post (.error e)) s := by
  rcases h : x s with ⟨e | a, s', notes⟩ <;> simp [wp, h]

theorem wp_cleanUp {x : Activity σ ω ε α} {clean : σ → σ} :
    wp (cleanUp x clean) post fault s ↔
      wp x (fun a s' => post a (clean s')) (fun e s' => fault e (clean s')) s :=
  Iff.rfl

theorem wp_mapError {x : Activity σ ω ε α} {f : ε → ε'}
    {fault : ε' → σ → Prop} :
    wp (mapError x f) post fault s ↔ wp x post (fun e => fault (f e)) s := by
  rw [wp, wp, mapError_apply]
  cases (x s).value with
  | error e => exact Iff.rfl
  | ok a => exact Iff.rfl

theorem wp_retell {x : Activity σ ω ε α} {f : ω → List ω'} :
    wp (retell x f) post fault s ↔ wp x post fault s :=
  Iff.rfl

theorem wp_bind {x : Activity σ ω ε α} {f : α → Activity σ ω ε β}
    {post : β → σ → Prop} :
    wp (x >>= f) post fault s ↔
      wp x (fun a s' => wp (f a) post fault s') fault s := by
  rcases h : x s with ⟨e | a, s', notes⟩
  · rw [wp_of_error h, wp_of_error (bind_of_error h f)]
  · rw [wp_of_ok h, wp, bind_of_ok h]
    exact Iff.rfl

end WeakestPrecondition

/-- An activity keeps a property of the state, whether it answers or fails. -/
def Keeps (P : σ → Prop) (x : Activity σ ω ε α) : Prop :=
  ∀ s, P s → P (x s).state

theorem Keeps.of_eq {P : σ → Prop} {x : Activity σ ω ε α} (h : Keeps P x)
    {s s' : σ} {value : Except ε α} {notes : List ω}
    (hx : x s = ⟨value, s', notes⟩) (hs : P s) : P s' := by
  have hstate := h s hs
  rw [hx] at hstate
  exact hstate

theorem keeps_iff_wp {P : σ → Prop} {x : Activity σ ω ε α} :
    Keeps P x ↔ ∀ s, P s → wp x (fun _ => P) (fun _ => P) s := by
  refine forall_congr' fun s => imp_congr_right fun _ => ?_
  rcases h : x s with ⟨e | a, s', notes⟩
  · rw [wp_of_error h]
  · rw [wp_of_ok h]

section Keeps

variable {P : σ → Prop}

theorem keeps_pure (a : α) : Keeps P (pure a : Activity σ ω ε α) :=
  fun _ hs => hs

theorem keeps_fail (e : ε) : Keeps P (fail e : Activity σ ω ε α) :=
  fun _ hs => hs

theorem keeps_report (note : ω) :
    Keeps P (report note : Activity σ ω ε Unit) :=
  fun _ hs => hs

theorem keeps_reportAll (notes : List ω) :
    Keeps P (reportAll notes : Activity σ ω ε Unit) :=
  fun _ hs => hs

theorem keeps_ofExcept (answer : Except ε α) :
    Keeps P (ofExcept answer : Activity σ ω ε α) :=
  fun _ hs => hs

theorem keeps_inspect (look : σ → Except ε α) :
    Keeps P (inspect look : Activity σ ω ε α) :=
  fun _ hs => hs

theorem keeps_perform {change : σ → Except ε α × σ}
    (h : ∀ s, P s → P (change s).2) :
    Keeps P (perform change : Activity σ ω ε α) :=
  h

theorem keeps_mapError {x : Activity σ ω ε α} (f : ε → ε') (h : Keeps P x) :
    Keeps P (x.mapError f) :=
  h

theorem keeps_retell {x : Activity σ ω ε α} (f : ω → List ω')
    (h : Keeps P x) : Keeps P (x.retell f) :=
  h

theorem keeps_cleanUp {x : Activity σ ω ε α} {clean : σ → σ} (h : Keeps P x)
    (hclean : ∀ s, P s → P (clean s)) : Keeps P (x.cleanUp clean) :=
  fun s hs => hclean _ (h s hs)

theorem keeps_bind {x : Activity σ ω ε α} {f : α → Activity σ ω ε β}
    (hx : Keeps P x) (hf : ∀ a, Keeps P (f a)) : Keeps P (x >>= f) := by
  intro s hs
  rcases h : x s with ⟨e | a, s', notes⟩
  · rw [bind_of_error h]
    exact hx.of_eq h hs
  · rw [bind_of_ok h]
    exact hf a s' (hx.of_eq h hs)

end Keeps

/-! ## Activities on related states

`Related R y x` says that `y` and `x` cannot be told apart by their answers and
their notes, and that they keep the relation `R` between their states.  It
follows the shape of the activities as well.
-/

/-- Two activities do the same on states of a relation, and keep it. -/
def Related {τ : Type} (R : τ → σ → Prop) (y : Activity τ ω ε α)
    (x : Activity σ ω ε α) : Prop :=
  ∀ t s, R t s → (y t).value = (x s).value ∧ (y t).notes = (x s).notes ∧
    R (y t).state (x s).state

section Related

variable {τ : Type} {R : τ → σ → Prop}

theorem related_pure (a : α) :
    Related R (pure a : Activity τ ω ε α) (pure a) :=
  fun _ _ h => ⟨rfl, rfl, h⟩

theorem related_fail (e : ε) :
    Related R (fail e : Activity τ ω ε α) (fail e) :=
  fun _ _ h => ⟨rfl, rfl, h⟩

theorem related_report (note : ω) :
    Related R (report note : Activity τ ω ε Unit) (report note) :=
  fun _ _ h => ⟨rfl, rfl, h⟩

theorem related_reportAll (notes : List ω) :
    Related R (reportAll notes : Activity τ ω ε Unit) (reportAll notes) :=
  fun _ _ h => ⟨rfl, rfl, h⟩

theorem related_ofExcept (answer : Except ε α) :
    Related R (ofExcept answer : Activity τ ω ε α) (ofExcept answer) :=
  fun _ _ h => ⟨rfl, rfl, h⟩

theorem related_inspect {look' : τ → Except ε α} {look : σ → Except ε α}
    (hlook : ∀ t s, R t s → look' t = look s) :
    Related R (inspect look' : Activity τ ω ε α) (inspect look) :=
  fun t s h => ⟨hlook t s h, rfl, h⟩

theorem related_perform {change' : τ → Except ε α × τ}
    {change : σ → Except ε α × σ}
    (hchange : ∀ t s, R t s → (change' t).1 = (change s).1 ∧
      R (change' t).2 (change s).2) :
    Related R (perform change' : Activity τ ω ε α) (perform change) :=
  fun t s h => ⟨(hchange t s h).1, rfl, (hchange t s h).2⟩

variable {y : Activity τ ω ε α} {x : Activity σ ω ε α}

theorem related_settle (h : Related R y x) :
    Related R (settle y : Activity τ ω ε' (Except ε α)) (settle x) := by
  intro t s hR
  obtain ⟨hvalue, hnotes, hstate⟩ := h t s hR
  exact ⟨congrArg Except.ok hvalue, hnotes, hstate⟩

theorem related_cleanUp (h : Related R y x) {clean' : τ → τ} {clean : σ → σ}
    (hclean : ∀ t s, R t s → R (clean' t) (clean s)) :
    Related R (cleanUp y clean') (cleanUp x clean) := by
  intro t s hR
  obtain ⟨hvalue, hnotes, hstate⟩ := h t s hR
  exact ⟨hvalue, hnotes, hclean _ _ hstate⟩

theorem related_mapError (h : Related R y x) (f : ε → ε') :
    Related R (mapError y f) (mapError x f) := by
  intro t s hR
  obtain ⟨hvalue, hnotes, hstate⟩ := h t s hR
  exact ⟨congrArg (Except.mapError f) hvalue, hnotes, hstate⟩

theorem related_retell (h : Related R y x) (f : ω → List ω') :
    Related R (retell y f) (retell x f) := by
  intro t s hR
  obtain ⟨hvalue, hnotes, hstate⟩ := h t s hR
  exact ⟨hvalue, congrArg (List.flatMap f) hnotes, hstate⟩

theorem related_bind (h : Related R y x) {g : α → Activity τ ω ε β}
    {f : α → Activity σ ω ε β} (hf : ∀ a, Related R (g a) (f a)) :
    Related R (y >>= g) (x >>= f) := by
  intro t s hR
  have hfirst := h t s hR
  rcases hx : x s with ⟨e | a, s', notes⟩ <;>
    rcases hy : y t with ⟨e' | a', t', notes'⟩ <;>
    rw [hx, hy] at hfirst <;> obtain ⟨hvalue, hnotes, hstate⟩ := hfirst
  · cases hvalue
    rw [bind_of_error hx, bind_of_error hy]
    exact ⟨rfl, hnotes, hstate⟩
  · cases hvalue
  · cases hvalue
  · cases hvalue
    obtain ⟨hvalue, hnext, hstate⟩ := hf a t' s' hstate
    rw [bind_of_ok hx, bind_of_ok hy]
    exact ⟨hvalue, congr (congrArg _ hnotes) hnext, hstate⟩

end Related

/-! ## Activities that differ in their notes only -/

/-- Two activities answer alike and leave the same state, whatever they
report. -/
def Agree (x y : Activity σ ω ε α) : Prop :=
  ∀ s, (x s).value = (y s).value ∧ (x s).state = (y s).state

theorem Agree.refl (x : Activity σ ω ε α) : Agree x x :=
  fun _ => ⟨rfl, rfl⟩

theorem Agree.bind {x y : Activity σ ω ε α} {f g : α → Activity σ ω ε β}
    (h : Agree x y) (hf : ∀ a, Agree (f a) (g a)) :
    Agree (x >>= f) (y >>= g) := by
  intro s
  obtain ⟨hvalue, hstate⟩ := h s
  rcases hx : x s with ⟨e | a, s', notes⟩ <;>
    rcases hy : y s with ⟨e' | a', s'', notes'⟩ <;>
    rw [hx, hy] at hvalue hstate <;> cases hvalue <;> cases hstate
  · rw [bind_of_error hx, bind_of_error hy]
    exact ⟨rfl, rfl⟩
  · rw [bind_of_ok hx, bind_of_ok hy]
    exact hf a s'

end Relift.Activity
