/-
# CxlMailbox.Proofs.Effect — running steps, and one run following another

Drives and tasks are functions of a state that answer or fail.  Here are the equations of their
sequences, for any state:

* `bind_ok`, `bind_error` and `bind_eq_ok_iff` run one step after another;
* `Keeps P x` says that `x` keeps `P`, however it ends;
* `Follows g x y` says that `y` does to the images of the states under `g` what `x` does to the
  states: the same answer, and the image of the state that is left.  A sequence follows a sequence
  part by part (`Follows.bind`), so two runs over related backends are compared operation by
  operation and never unfolded as a whole.
-/
namespace CxlMailbox.Effect

set_option autoImplicit false

variable {σ τ ε α β : Type}

/-! ## Sequences of steps -/

theorem bind_ok {x : ExceptT ε (StateM σ) α} {s t : σ} {a : α} (ran : x s = (.ok a, t))
    (next : α → ExceptT ε (StateM σ) β) : (x >>= next) s = next a t := by
  simp only [bind, ExceptT.bind, ExceptT.mk, StateT.bind, ran, ExceptT.bindCont]

theorem bind_error {x : ExceptT ε (StateM σ) α} {s t : σ} {e : ε} (ran : x s = (.error e, t))
    (next : α → ExceptT ε (StateM σ) β) : (x >>= next) s = (.error e, t) := by
  simp only [bind, ExceptT.bind, ExceptT.mk, StateT.bind, ran, ExceptT.bindCont]
  rfl

theorem bind_apply (x : ExceptT ε (StateM σ) α) (next : α → ExceptT ε (StateM σ) β) (s : σ) :
    (x >>= next) s = match x s with
      | (.ok a, t) => next a t
      | (.error e, t) => (.error e, t) := by
  rcases ran : x s with ⟨_ | _, t⟩
  · exact bind_error ran next
  · exact bind_ok ran next

/-- A sequence succeeds exactly if both its parts do, the second where the first has led. -/
theorem bind_eq_ok_iff {x : ExceptT ε (StateM σ) α} {next : α → ExceptT ε (StateM σ) β} {s t : σ}
    {b : β} : (x >>= next) s = (.ok b, t) ↔ ∃ a u, x s = (.ok a, u) ∧ next a u = (.ok b, t) := by
  rw [bind_apply]
  constructor
  · intro ran
    rcases first : x s with ⟨e | a, u⟩
    · rw [first] at ran
      cases ran
    · rw [first] at ran
      exact ⟨a, u, rfl, ran⟩
  · rintro ⟨a, u, first, second⟩
    rw [first]
    exact second

/-- The same for steps that leave nothing behind. -/
theorem except_bind_eq_ok_iff {x : Except ε α} {next : α → Except ε β} {b : β} :
    (x >>= next) = .ok b ↔ ∃ a, x = .ok a ∧ next a = .ok b := by
  rcases x with e | a
  · exact iff_of_false nofun (by rintro ⟨_, ⟨⟩, -⟩)
  · simp only [Except.ok.injEq, exists_eq_left']
    rfl

/-- A step whose answer is renamed leaves what it leaves. -/
theorem bind_pure_apply (x : ExceptT ε (StateM σ) α) (name : α → β) (s : σ) :
    (x >>= fun a => (pure (name a) : ExceptT ε (StateM σ) β)) s =
      ((x s).1.map name, (x s).2) := by
  rw [bind_apply]
  rcases x s with ⟨_ | _, t⟩ <;> rfl

theorem except_apply (answer : Except ε α) (s : σ) :
    (liftM answer : ExceptT ε (StateM σ) α) s = (answer, s) := by
  cases answer <;> rfl

theorem tryCatch_apply (x : ExceptT ε (StateM σ) α) (handle : ε → ExceptT ε (StateM σ) α)
    (s : σ) :
    (tryCatch x handle : ExceptT ε (StateM σ) α) s = match x s with
      | (.ok a, t) => (.ok a, t)
      | (.error e, t) => handle e t := by
  simp only [tryCatch, tryCatchThe, MonadExceptOf.tryCatch, ExceptT.tryCatch, ExceptT.mk, bind,
    StateT.bind]
  rcases x s with ⟨_ | _, t⟩ <;> rfl

/-- An answer whose value is known is that value. -/
theorem ok_of_toOption {answer : Except ε α} {a : α} (value : answer.toOption = some a) :
    answer = .ok a := by
  cases answer with
  | error e => cases value
  | ok b => exact congrArg Except.ok (Option.some.inj value)

/-! ## What a step keeps -/

/-- A property of the state that `x` keeps, whether it answers or fails. -/
def Keeps (P : σ → Prop) (x : ExceptT ε (StateM σ) α) : Prop := ∀ s, P s → P (x s).2

namespace Keeps

variable {P : σ → Prop}

theorem pure (a : α) : Keeps P (pure a : ExceptT ε (StateM σ) α) := fun _ holds => holds

theorem throw (e : ε) : Keeps P (throw e : ExceptT ε (StateM σ) α) := fun _ holds => holds

theorem except (answer : Except ε α) : Keeps P (liftM answer : ExceptT ε (StateM σ) α) := by
  intro s holds
  rw [except_apply]
  exact holds

theorem bind {x : ExceptT ε (StateM σ) α} {next : α → ExceptT ε (StateM σ) β} (first : Keeps P x)
    (rest : ∀ a, Keeps P (next a)) : Keeps P (x >>= next) := by
  intro s holds
  have kept := first s holds
  rcases ran : x s with ⟨e | a, t⟩ <;> rw [ran] at kept
  · rw [bind_error ran]
    exact kept
  · rw [bind_ok ran]
    exact rest a t kept

end Keeps

/-! ## One run following another -/

/-- What `x` does to a state, `y` does to its image. -/
def Follows (g : σ → τ) (x : ExceptT ε (StateM σ) α) (y : ExceptT ε (StateM τ) α) : Prop :=
  ∀ s, y (g s) = ((x s).1, g (x s).2)

namespace Follows

variable {g : σ → τ}

theorem pure (a : α) : Follows g (pure a : ExceptT ε (StateM σ) α) (Pure.pure a) := fun _ => rfl

theorem throw (e : ε) :
    Follows g (throw e : ExceptT ε (StateM σ) α) (MonadExcept.throw e) := fun _ => rfl

theorem except (answer : Except ε α) :
    Follows g (liftM answer : ExceptT ε (StateM σ) α) (liftM answer) := fun s => by
  rw [except_apply, except_apply]

theorem bind {x : ExceptT ε (StateM σ) α} {y : ExceptT ε (StateM τ) α}
    {next : α → ExceptT ε (StateM σ) β} {next' : α → ExceptT ε (StateM τ) β}
    (first : Follows g x y) (rest : ∀ a, Follows g (next a) (next' a)) :
    Follows g (x >>= next) (y >>= next') := by
  intro s
  rw [bind_apply, bind_apply, first s]
  rcases x s with ⟨e | a, t⟩
  · rfl
  · exact rest a t

theorem tryCatch {x : ExceptT ε (StateM σ) α} {y : ExceptT ε (StateM τ) α}
    {handle : ε → ExceptT ε (StateM σ) α} {handle' : ε → ExceptT ε (StateM τ) α}
    (first : Follows g x y) (rest : ∀ e, Follows g (handle e) (handle' e)) :
    Follows g (MonadExcept.tryCatch x handle) (MonadExcept.tryCatch y handle') := by
  intro s
  have left := tryCatch_apply x handle s
  have right := tryCatch_apply y handle' (g s)
  rw [first s] at right
  refine right.trans ?_
  rw [show MonadExcept.tryCatch x handle s = _ from left]
  rcases x s with ⟨e | a, t⟩
  · exact rest e t
  · rfl

end Follows

end CxlMailbox.Effect
