import Mathlib
import Chatbot.Engine.Bot

/-!
# A small logic of runs

A `Run` reads and changes the bot and may be cut short; an `Attempt` may also fail with a
command error. Two kinds of statements about them are used by the proofs about the engine:

* `Run.Returns x P`: every value that `x` returns satisfies `P`, from whatever state it starts.
* `Run.Agree I x y`: from every state satisfying `I`, the runs `x` and `y` end alike (the same
  value, or the same cut, and the same state), and that state satisfies `I` again.
  `Attempt.Agree` is the same for attempts. A run that agrees with itself *keeps* `I`.
* `Run.Related P Q x y`: from every two states related by `P`, the runs `x` and `y` end alike
  (the same value, or the same cut), in states related by `Q`; `Attempt.Related` is the same for
  attempts, and `Run.Sim R`, `Attempt.Sim R` keep one relation `R`. The two runs may differ, and
  so may their states, as long as the relation holds.

Each comes with its rules for `pure`, bind, reading and writing the state, failing and catching,
so that a statement about a whole command follows the command's own text, one step at a time,
and never unfolds the monads.

## What is proved

* `Run.run_bind_ok`, `Run.run_bind_error`: a bind runs its continuation from where the first run
  ended, unless that run was cut short.
* The rules of `Run.Returns`, `Run.Agree`, `Attempt.Agree`, `Run.Related` and
  `Attempt.Related`.
-/

namespace Chatbot

namespace Run

variable {α β : Type}

theorem run_bind_ok {x : Run α} {f : α → Run β} {b b₁ : Bot} {a : α}
    (h : x.run.run b = (.ok a, b₁)) : (x >>= f).run.run b = (f a).run.run b₁ := by
  simp only [ExceptT.run_bind, StateT.run_bind, h]
  rfl

theorem run_bind_error {x : Run α} {f : α → Run β} {b b₁ : Bot} {e : Cut}
    (h : x.run.run b = (.error e, b₁)) : (x >>= f).run.run b = (.error e, b₁) := by
  simp only [ExceptT.run_bind, StateT.run_bind, h]
  rfl

theorem run_tryCatch_error {x : Run α} {h : Cut → Run α} {b b₁ : Bot} {e : Cut}
    (hx : x.run.run b = (.error e, b₁)) :
    (tryCatchThe Cut x h).run.run b = (h e).run.run b₁ := by
  have hx' : StateT.run x b = (.error e, b₁) := hx
  simp only [tryCatchThe, MonadExceptOf.tryCatch, ExceptT.tryCatch, ExceptT.mk, ExceptT.run,
    StateT.run_bind, hx']
  rfl

theorem run_tryCatch_ok {x : Run α} {h : Cut → Run α} {b b₁ : Bot} {a : α}
    (hx : x.run.run b = (.ok a, b₁)) : (tryCatchThe Cut x h).run.run b = (.ok a, b₁) := by
  have hx' : StateT.run x b = (.ok a, b₁) := hx
  simp only [tryCatchThe, MonadExceptOf.tryCatch, ExceptT.tryCatch, ExceptT.mk, ExceptT.run,
    StateT.run_bind, hx']
  rfl

@[simp] theorem run_get (b : Bot) : (get : Run Bot).run.run b = (.ok b, b) := rfl

@[simp] theorem run_set (b b' : Bot) : (set b' : Run PUnit).run.run b = (.ok ⟨⟩, b') := rfl

@[simp] theorem run_pure (a : α) (b : Bot) : (pure a : Run α).run.run b = (.ok a, b) := rfl

@[simp] theorem run_throw (e : Cut) (b : Bot) : (throw e : Run α).run.run b = (.error e, b) :=
  rfl

end Run

/-- A run lifted into an attempt and followed by more: the rest starts where the run ended. -/
theorem Attempt.run_lift_bind_ok {α β : Type} {x : Run α} {f : α → Attempt β} {b b₁ : Bot}
    {a : α} (h : x.run.run b = (.ok a, b₁)) :
    ((monadLift x : Attempt α) >>= f).run.run.run b = (f a).run.run.run b₁ := by
  have hlift : (monadLift x : Attempt α).run.run.run b = (.ok (.ok a), b₁) := by
    show (Except.ok <$> x).run.run b = _
    rw [← bind_pure_comp, Run.run_bind_ok h]
    rfl
  rw [ExceptT.run_bind, Run.run_bind_ok hlift]

/-! ### Postconditions -/

/-- Every value that `x` returns satisfies `P`, from whatever state it starts; a run cut short
returns nothing. -/
def Run.Returns {α : Type} (x : Run α) (P : α → Prop) : Prop :=
  ∀ b a b', x.run.run b = (.ok a, b') → P a

namespace Run.Returns

variable {α β : Type} {P : α → Prop} {Q : β → Prop}

theorem pure {a : α} (h : P a) : Run.Returns (pure a) P := by
  intro b a' b' hr
  cases hr
  exact h

theorem of_forall {x : Run α} (h : ∀ a, P a) : x.Returns P :=
  fun _ a _ _ => h a

theorem imp {x : Run α} {P' : α → Prop} (hx : x.Returns P) (h : ∀ a, P a → P' a) :
    x.Returns P' :=
  fun b a b' hr => h a (hx b a b' hr)

theorem bind {x : Run α} {f : α → Run β} (hx : x.Returns P) (hf : ∀ a, P a → (f a).Returns Q) :
    (x >>= f).Returns Q := by
  intro b c b' h
  rcases hxb : x.run.run b with ⟨r, b₁⟩
  cases r with
  | error e =>
    rw [Run.run_bind_error hxb] at h
    cases h
  | ok a =>
    rw [Run.run_bind_ok hxb] at h
    exact hf a (hx b a b₁ hxb) b₁ c b' h

/-- A run whose continuation returns only values satisfying `Q` whatever it is given. -/
theorem bind_of {x : Run α} {f : α → Run β} (hf : ∀ a, (f a).Returns Q) : (x >>= f).Returns Q :=
  bind (P := fun _ => True) (of_forall fun _ => trivial) fun a _ => hf a

theorem map {x : Run α} {f : α → β} (hx : x.Returns P) (h : ∀ a, P a → Q (f a)) :
    (f <$> x).Returns Q := by
  rw [← bind_pure_comp]
  exact bind hx fun a ha => pure (h a ha)

end Run.Returns

/-! ### Agreement under an invariant -/

/-- From every state satisfying `I`, the runs `x` and `y` end alike, in a state satisfying `I`. -/
def Run.Agree {α : Type} (I : Bot → Prop) (x y : Run α) : Prop :=
  ∀ b, I b → x.run.run b = y.run.run b ∧ I (y.run.run b).2

/-- From every state satisfying `I`, the attempts `x` and `y` end alike, in a state satisfying
`I`. -/
def Attempt.Agree {α : Type} (I : Bot → Prop) (x y : Attempt α) : Prop :=
  Run.Agree I x.run y.run

namespace Run.Agree

variable {α β : Type} {I : Bot → Prop}

theorem pure (a : α) : Run.Agree I (pure a) (pure a) :=
  fun _ hb => ⟨rfl, hb⟩

theorem throw (e : Cut) : Run.Agree I (throw e : Run α) (throw e) :=
  fun _ hb => ⟨rfl, hb⟩

theorem set {b' : Bot} (h : I b') : Run.Agree I (set b') (set b') :=
  fun _ _ => ⟨rfl, h⟩

theorem bind {x y : Run α} {f g : α → Run β} (hxy : Run.Agree I x y)
    (hfg : ∀ a, Run.Agree I (f a) (g a)) : Run.Agree I (x >>= f) (y >>= g) := by
  intro b hb
  obtain ⟨hrun, hI⟩ := hxy b hb
  rcases hy : y.run.run b with ⟨r, b₁⟩
  rw [hy] at hrun hI
  cases r with
  | error e =>
    rw [Run.run_bind_error hrun, Run.run_bind_error hy]
    exact ⟨rfl, hI⟩
  | ok a =>
    rw [Run.run_bind_ok hrun, Run.run_bind_ok hy]
    exact hfg a b₁ hI

/-- Reading the state: the continuations need agree only on the states satisfying `I`. -/
theorem get_bind {f g : Bot → Run β} (hfg : ∀ b, I b → Run.Agree I (f b) (g b)) :
    Run.Agree I (get >>= f) (get >>= g) := by
  intro b hb
  rw [Run.run_bind_ok (Run.run_get b), Run.run_bind_ok (Run.run_get b)]
  exact hfg b hb b hb

/-- A catch of cuts: a cut is handed to the handlers, from the state where it happened. -/
theorem tryCatch {x y : Run α} {h k : Cut → Run α} (hxy : Run.Agree I x y)
    (hhk : ∀ e, Run.Agree I (h e) (k e)) :
    Run.Agree I (tryCatchThe Cut x h) (tryCatchThe Cut y k) := by
  intro b hb
  obtain ⟨hrun, hI⟩ := hxy b hb
  rcases hy : y.run.run b with ⟨r, b₁⟩
  rw [hy] at hrun hI
  cases r with
  | error e =>
    rw [Run.run_tryCatch_error hrun, Run.run_tryCatch_error hy]
    exact hhk e b₁ hI
  | ok a =>
    rw [Run.run_tryCatch_ok hrun, Run.run_tryCatch_ok hy]
    exact ⟨rfl, hI⟩

theorem map {x y : Run α} {f : α → β} (hxy : Run.Agree I x y) :
    Run.Agree I (f <$> x) (f <$> y) := by
  rw [← bind_pure_comp, ← bind_pure_comp]
  exact bind hxy fun a => pure (f a)

end Run.Agree

namespace Attempt.Agree

variable {α β : Type} {I : Bot → Prop}

theorem pure (a : α) : Attempt.Agree I (pure a) (pure a) :=
  Run.Agree.pure (Except.ok a)

/-- A failure ends the attempt: what would follow it does not matter. -/
theorem throw_bind (e : CommandError) {f g : α → Attempt β} :
    Attempt.Agree I (throw e >>= f) (throw e >>= g) :=
  fun _ hb => ⟨rfl, hb⟩

theorem throw (e : CommandError) : Attempt.Agree I (throw e : Attempt α) (throw e) :=
  Run.Agree.pure (Except.error e)

/-- A run lifted into an attempt. -/
theorem lift {x y : Run α} (hxy : Run.Agree I x y) :
    Attempt.Agree I (monadLift x : Attempt α) (monadLift y) :=
  Run.Agree.map hxy

theorem throwCut (e : Cut) : Attempt.Agree I (throwThe Cut e : Attempt α) (throwThe Cut e) :=
  lift (Run.Agree.throw e)

theorem bind {x y : Attempt α} {f g : α → Attempt β} (hxy : Attempt.Agree I x y)
    (hfg : ∀ a, Attempt.Agree I (f a) (g a)) : Attempt.Agree I (x >>= f) (y >>= g) := by
  unfold Attempt.Agree
  rw [ExceptT.run_bind, ExceptT.run_bind]
  refine Run.Agree.bind hxy fun r => ?_
  cases r with
  | ok a => exact hfg a
  | error e => exact Run.Agree.pure _

theorem get_bind {f g : Bot → Attempt β} (hfg : ∀ b, I b → Attempt.Agree I (f b) (g b)) :
    Attempt.Agree I (get >>= f) (get >>= g) :=
  Run.Agree.get_bind hfg

theorem set {b' : Bot} (h : I b') : Attempt.Agree I (set b') (set b') :=
  lift (Run.Agree.set h)

theorem modify {f : Bot → Bot} (h : ∀ b, I b → I (f b)) :
    Attempt.Agree I (modify f) (modify f) :=
  fun b hb => ⟨rfl, h b hb⟩

theorem ite {c : Prop} [Decidable c] {x₁ y₁ x₂ y₂ : Attempt α} (h₁ : Attempt.Agree I x₁ y₁)
    (h₂ : Attempt.Agree I x₂ y₂) :
    Attempt.Agree I (if c then x₁ else x₂) (if c then y₁ else y₂) := by
  split
  · exact h₁
  · exact h₂

theorem tryCatchCut {x y : Attempt α} {h k : Cut → Attempt α} (hxy : Attempt.Agree I x y)
    (hhk : ∀ e, Attempt.Agree I (h e) (k e)) :
    Attempt.Agree I (tryCatchThe Cut x h) (tryCatchThe Cut y k) :=
  Run.Agree.tryCatch hxy hhk

end Attempt.Agree

/-! ### Runs from related states -/

/-- From every two states related by `P`, the runs `x` and `y` end alike (the same value, or
the same cut), in states related by `Q`. -/
def Run.Related {α : Type} (P Q : Bot → Bot → Prop) (x y : Run α) : Prop :=
  ∀ b₁ b₂, P b₁ b₂ →
    (x.run.run b₁).1 = (y.run.run b₂).1 ∧ Q (x.run.run b₁).2 (y.run.run b₂).2

/-- `Run.Related` for attempts: the same failure, or the same value, or the same cut. -/
def Attempt.Related {α : Type} (P Q : Bot → Bot → Prop) (x y : Attempt α) : Prop :=
  Run.Related P Q x.run y.run

/-- The runs `x` and `y` keep the relation `R` between their states. -/
abbrev Run.Sim {α : Type} (R : Bot → Bot → Prop) (x y : Run α) : Prop := Run.Related R R x y

/-- The attempts `x` and `y` keep the relation `R` between their states. -/
abbrev Attempt.Sim {α : Type} (R : Bot → Bot → Prop) (x y : Attempt α) : Prop :=
  Attempt.Related R R x y

namespace Run.Related

variable {α β : Type} {P Q S : Bot → Bot → Prop}

theorem pure (h : ∀ b₁ b₂, P b₁ b₂ → Q b₁ b₂) (a : α) :
    Run.Related P Q (pure a) (pure a) :=
  fun b₁ b₂ hb => ⟨rfl, h b₁ b₂ hb⟩

theorem throw (h : ∀ b₁ b₂, P b₁ b₂ → Q b₁ b₂) (e : Cut) :
    Run.Related P Q (throw e : Run α) (throw e) :=
  fun b₁ b₂ hb => ⟨rfl, h b₁ b₂ hb⟩

theorem weaken {P' : Bot → Bot → Prop} {x y : Run α}
    (h : ∀ b₁ b₂, P' b₁ b₂ → P b₁ b₂)
    (hxy : Run.Related P Q x y) : Run.Related P' Q x y :=
  fun b₁ b₂ hb => hxy b₁ b₂ (h b₁ b₂ hb)

/-- A bind; a cut ends both runs where the first parts ended, so `Q` must give `S` there. -/
theorem bind {x y : Run α} {f g : α → Run β} (hxy : Run.Related P Q x y)
    (hfg : ∀ a, Run.Related Q S (f a) (g a)) (hQS : ∀ b₁ b₂, Q b₁ b₂ → S b₁ b₂) :
    Run.Related P S (x >>= f) (y >>= g) := by
  intro b₁ b₂ hb
  obtain ⟨hout, hQ⟩ := hxy b₁ b₂ hb
  rcases hx : x.run.run b₁ with ⟨r₁, c₁⟩
  rcases hy : y.run.run b₂ with ⟨r₂, c₂⟩
  rw [hx, hy] at hout hQ
  obtain rfl : r₁ = r₂ := hout
  cases r₁ with
  | error e =>
    rw [Run.run_bind_error hx, Run.run_bind_error hy]
    exact ⟨rfl, hQS c₁ c₂ hQ⟩
  | ok a =>
    rw [Run.run_bind_ok hx, Run.run_bind_ok hy]
    exact hfg a c₁ c₂ hQ

/-- Reading the states: the continuations run from exactly the states read. -/
theorem get_bind {f g : Bot → Run β}
    (hfg : ∀ b₁ b₂, P b₁ b₂ →
      Run.Related (fun c₁ c₂ => c₁ = b₁ ∧ c₂ = b₂) Q (f b₁) (g b₂)) :
    Run.Related P Q (get >>= f) (get >>= g) := by
  intro b₁ b₂ hb
  rw [Run.run_bind_ok (Run.run_get b₁), Run.run_bind_ok (Run.run_get b₂)]
  exact hfg b₁ b₂ hb b₁ b₂ ⟨rfl, rfl⟩

theorem set {b₁' b₂' : Bot} (h : Q b₁' b₂') : Run.Related P Q (set b₁') (set b₂') :=
  fun _ _ _ => ⟨rfl, h⟩

/-- A catch of cuts: the same cut reaches both handlers. -/
theorem tryCatch {x y : Run α} {h k : Cut → Run α} (hxy : Run.Related P Q x y)
    (hhk : ∀ e, Run.Related Q S (h e) (k e)) (hQS : ∀ b₁ b₂, Q b₁ b₂ → S b₁ b₂) :
    Run.Related P S (tryCatchThe Cut x h) (tryCatchThe Cut y k) := by
  intro b₁ b₂ hb
  obtain ⟨hout, hQ⟩ := hxy b₁ b₂ hb
  rcases hx : x.run.run b₁ with ⟨r₁, c₁⟩
  rcases hy : y.run.run b₂ with ⟨r₂, c₂⟩
  rw [hx, hy] at hout hQ
  obtain rfl : r₁ = r₂ := hout
  cases r₁ with
  | error e =>
    rw [Run.run_tryCatch_error hx, Run.run_tryCatch_error hy]
    exact hhk e c₁ c₂ hQ
  | ok a =>
    rw [Run.run_tryCatch_ok hx, Run.run_tryCatch_ok hy]
    exact ⟨rfl, hQS c₁ c₂ hQ⟩

theorem map {x y : Run α} {f : α → β} (hxy : Run.Related P Q x y) :
    Run.Related P Q (f <$> x) (f <$> y) := by
  rw [← bind_pure_comp, ← bind_pure_comp]
  exact bind hxy (fun a => pure (fun _ _ h => h) (f a)) fun _ _ h => h

end Run.Related

namespace Attempt.Related

variable {α β : Type} {P Q S : Bot → Bot → Prop}

theorem pure (h : ∀ b₁ b₂, P b₁ b₂ → Q b₁ b₂) (a : α) :
    Attempt.Related P Q (pure a) (pure a) :=
  Run.Related.pure h (Except.ok a)

/-- A failure ends the attempt: what would follow it does not matter. -/
theorem throw_bind (h : ∀ b₁ b₂, P b₁ b₂ → Q b₁ b₂) (e : CommandError)
    {f g : α → Attempt β} :
    Attempt.Related P Q (throw e >>= f) (throw e >>= g) :=
  fun b₁ b₂ hb => ⟨rfl, h b₁ b₂ hb⟩

theorem throw (h : ∀ b₁ b₂, P b₁ b₂ → Q b₁ b₂) (e : CommandError) :
    Attempt.Related P Q (throw e : Attempt α) (throw e) :=
  Run.Related.pure h (Except.error e)

theorem weaken {P' : Bot → Bot → Prop} {x y : Attempt α}
    (h : ∀ b₁ b₂, P' b₁ b₂ → P b₁ b₂)
    (hxy : Attempt.Related P Q x y) : Attempt.Related P' Q x y :=
  Run.Related.weaken h hxy

/-- A run lifted into an attempt. -/
theorem lift {x y : Run α} (hxy : Run.Related P Q x y) :
    Attempt.Related P Q (monadLift x : Attempt α) (monadLift y) :=
  Run.Related.map hxy

theorem throwCut (h : ∀ b₁ b₂, P b₁ b₂ → Q b₁ b₂) (e : Cut) :
    Attempt.Related P Q (throwThe Cut e : Attempt α) (throwThe Cut e) :=
  lift (Run.Related.throw h e)

/-- A bind; a failure or a cut ends both attempts where the first parts ended, so `Q` must
give `S` there. -/
theorem bind {x y : Attempt α} {f g : α → Attempt β} (hxy : Attempt.Related P Q x y)
    (hfg : ∀ a, Attempt.Related Q S (f a) (g a))
    (hQS : ∀ b₁ b₂, Q b₁ b₂ → S b₁ b₂) :
    Attempt.Related P S (x >>= f) (y >>= g) := by
  unfold Attempt.Related
  rw [ExceptT.run_bind, ExceptT.run_bind]
  refine Run.Related.bind hxy (fun r => ?_) hQS
  cases r with
  | ok a => exact hfg a
  | error e => exact Run.Related.pure hQS _

theorem get_bind {f g : Bot → Attempt β}
    (hfg : ∀ b₁ b₂, P b₁ b₂ →
      Attempt.Related (fun c₁ c₂ => c₁ = b₁ ∧ c₂ = b₂) Q (f b₁) (g b₂)) :
    Attempt.Related P Q (get >>= f) (get >>= g) :=
  Run.Related.get_bind hfg

theorem set {b₁' b₂' : Bot} (h : Q b₁' b₂') : Attempt.Related P Q (set b₁') (set b₂') :=
  lift (Run.Related.set h)

theorem modify {f g : Bot → Bot} (h : ∀ b₁ b₂, P b₁ b₂ → Q (f b₁) (g b₂)) :
    Attempt.Related P Q (modify f) (modify g) :=
  fun b₁ b₂ hb => ⟨rfl, h b₁ b₂ hb⟩

theorem ite {c : Prop} [Decidable c] {x₁ y₁ x₂ y₂ : Attempt α}
    (h₁ : Attempt.Related P Q x₁ y₁) (h₂ : Attempt.Related P Q x₂ y₂) :
    Attempt.Related P Q (if c then x₁ else x₂) (if c then y₁ else y₂) := by
  split
  · exact h₁
  · exact h₂

theorem tryCatchCut {x y : Attempt α} {h k : Cut → Attempt α} (hxy : Attempt.Related P Q x y)
    (hhk : ∀ e, Attempt.Related Q S (h e) (k e))
    (hQS : ∀ b₁ b₂, Q b₁ b₂ → S b₁ b₂) :
    Attempt.Related P S (tryCatchThe Cut x h) (tryCatchThe Cut y k) :=
  Run.Related.tryCatch hxy hhk hQS

end Attempt.Related

/-! The rules with one relation kept throughout. -/

namespace Run.Sim

variable {α β : Type} {R : Bot → Bot → Prop}

theorem pure (a : α) : Run.Sim R (pure a) (pure a) := Run.Related.pure (fun _ _ h => h) a

theorem bind {x y : Run α} {f g : α → Run β} (hxy : Run.Sim R x y)
    (hfg : ∀ a, Run.Sim R (f a) (g a)) : Run.Sim R (x >>= f) (y >>= g) :=
  Run.Related.bind hxy hfg fun _ _ h => h

/-- Reading the states, when the continuations keep `R` from any related states. -/
theorem get_bind {f g : Bot → Run β}
    (hfg : ∀ b₁ b₂, R b₁ b₂ → Run.Sim R (f b₁) (g b₂)) :
    Run.Sim R (get >>= f) (get >>= g) :=
  Run.Related.get_bind fun b₁ b₂ hb =>
    Run.Related.weaken (fun _ _ h => h.1 ▸ h.2 ▸ hb) (hfg b₁ b₂ hb)

end Run.Sim

namespace Attempt.Sim

variable {α β : Type} {R : Bot → Bot → Prop}

theorem pure (a : α) : Attempt.Sim R (pure a) (pure a) := Attempt.Related.pure (fun _ _ h => h) a

theorem throw_bind (e : CommandError) {f g : α → Attempt β} :
    Attempt.Sim R (throw e >>= f) (throw e >>= g) :=
  Attempt.Related.throw_bind (fun _ _ h => h) e

theorem throw (e : CommandError) : Attempt.Sim R (throw e : Attempt α) (throw e) :=
  Attempt.Related.throw (fun _ _ h => h) e

theorem bind {x y : Attempt α} {f g : α → Attempt β} (hxy : Attempt.Sim R x y)
    (hfg : ∀ a, Attempt.Sim R (f a) (g a)) : Attempt.Sim R (x >>= f) (y >>= g) :=
  Attempt.Related.bind hxy hfg fun _ _ h => h

/-- Reading the states, when the continuations keep `R` from any related states. -/
theorem get_bind {f g : Bot → Attempt β}
    (hfg : ∀ b₁ b₂, R b₁ b₂ → Attempt.Sim R (f b₁) (g b₂)) :
    Attempt.Sim R (get >>= f) (get >>= g) :=
  Run.Sim.get_bind hfg

end Attempt.Sim

end Chatbot
