import Chatbot.Proofs.RunEffects

/-!
# Silence changes nothing but the messages sent

The silent flag of a context is read in one place: a reply in a silent context sends nothing.
A reply that is sent on a transport that delivers succeeds, so the flag cannot change which way
a run goes. Run a line in a context and again in the same context made silent, from the same
state: both runs give the same result (the same answer, or both cut short at the same
deadline) and leave the same state, the registry, the word model, the random source, the clock
and the removal reports included, except that the silent run delivers no message.

A reference is evaluated by running its line in the silenced context, so the text spliced in
for it is what the same line gives when run with replies.

The proof is `run_sim` for the relation "the same state, with the messages delivered before the
run": every change a run makes keeps it, and so do the two contexts' replies.

## What is proved

* `Frame.withOutbox`: the relation is kept by a run's own changes.
* `RepliesSim.silent`: a delivered reply and a silent one keep it.
* `Engine.run_silent_eq_loud`: the silent run of a line agrees with the run with replies.
-/

namespace Chatbot

open Chatbot.Engine

/-- The second state is the first with `o` as the messages delivered. -/
def WithOutbox (o : List String) (b₁ b₂ : Bot) : Prop := b₂ = { b₁ with outbox := o }

/-- States that differ only in the messages delivered stay so under a run's own changes. -/
theorem Frame.withOutbox (o : List String) : Frame (WithOutbox o) where
  alike := by
    rintro b₁ _ rfl
    rfl
  registry := by
    rintro b₁ _ r rfl -
    rfl
  removals := by
    rintro b₁ _ l rfl
    rfl
  chain := by
    rintro b₁ _ ch rfl
    rfl
  source := by
    rintro b₁ _ src rfl
    rfl
  clock := by
    rintro b₁ _ t rfl
    rfl

/-- On a transport that delivers, a reply adds to the messages delivered and succeeds; in the
silent context it does nothing. Either way the states differ only in the messages delivered. -/
theorem RepliesSim.silent {c : Context} (hc : c.transport.delivers = true) (o : List String) :
    RepliesSim (WithOutbox o) c true := fun t => by
  rw [reply_of_silent (c := { c with silent := true }) rfl]
  unfold reply
  split
  · exact Attempt.Sim.pure ()
  · rintro b₁ _ rfl
    exact ⟨rfl, rfl⟩

/-- **Silence changes nothing but the messages sent.** On a transport that delivers, a line
run in a context made silent gives what it gives with replies, and leaves the state the run
with replies leaves, with the messages delivered as they were before the run. -/
theorem Engine.run_silent_eq_loud (c : Context) (hc : c.transport.delivers = true)
    (line : String) (b : Bot) :
    ((run { c with silent := true } line).run.run b).1 = ((run c line).run.run b).1 ∧
      ((run { c with silent := true } line).run.run b).2 =
        { ((run c line).run.run b).2 with outbox := b.outbox } := by
  obtain ⟨hresult, hstate⟩ :=
    run_sim (Frame.withOutbox b.outbox) (RepliesSim.silent hc b.outbox) line b b rfl
  exact ⟨hresult.symm, hstate⟩

/-- The caller of the console, who writes in the channel `general`. -/
def consoleCaller : Context :=
  { transport := { platform := .console, author := "tester", authorId := "tester#id",
                   channel := "general", channelId := "general#id" },
    level := .user }

/-- `echo` with a reference, run silently by a bot with the built-in commands, agrees with the
run that replies. -/
theorem Engine.echo_silent_eq_loud :
    consoleCaller.transport.delivers = true ∧
      ((run { consoleCaller with silent := true } "echo $(echo hi)").run.run
          (Bot.withBuiltins {} .recorder)).1 =
        ((run consoleCaller "echo $(echo hi)").run.run (Bot.withBuiltins {} .recorder)).1 ∧
      ((run { consoleCaller with silent := true } "echo $(echo hi)").run.run
          (Bot.withBuiltins {} .recorder)).2 =
        { ((run consoleCaller "echo $(echo hi)").run.run (Bot.withBuiltins {} .recorder)).2 with
          outbox := (Bot.withBuiltins {} .recorder).outbox } :=
  ⟨rfl, Engine.run_silent_eq_loud consoleCaller rfl _ _⟩

end Chatbot
