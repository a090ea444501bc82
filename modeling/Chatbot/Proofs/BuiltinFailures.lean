import Chatbot.Proofs.RunLogic
import Chatbot.Builtin.Catalog

/-!
# Built-in commands fail before they change anything

Every built-in command reads and checks its arguments first, then makes its one change to the
registry or the word model, and last replies. A check that fails throws before the change, and
so does a registry or pattern error, which the changing operation itself reports before it has
done anything. After the change only the reply can fail, when the transport does not deliver
it. So a built-in command that fails for any reason other than an undelivered reply leaves the
bot exactly as it found it: its registry, every command with all its fields and every alias,
its word model, and the reports of the removal observers.

Three statements about attempts carry this, each with its rules for the steps a command is
made of:

* `Attempt.Reads x`: `x` never changes the state;
* `Attempt.Committed x`: `x` fails only when a reply is not delivered;
* `Attempt.FailsClean x`: a failure of `x` other than an undelivered reply leaves the state as
  `x` found it.

A command is a run of reading steps, then a step that fails cleanly, then committed steps; the
rules `FailsClean.bind_of_reads` and `FailsClean.bind_committed` put these together.

## What is proved

* `Builtin.call_failsClean`: every built-in command fails cleanly.
* `builtin_failure_keeps_bot`: a built-in command that fails other than by an undelivered
  reply leaves the bot as it was.
-/

namespace Chatbot

open Chatbot.Builtin

namespace Attempt

variable {α β : Type}

/-- `x` leaves the state as it found it, whatever its outcome. -/
def Reads (x : Attempt α) : Prop := ∀ b, (x.run.run.run b).2 = b

/-- `x` fails only when a reply is not delivered. -/
def Committed (x : Attempt α) : Prop :=
  ∀ b e b', x.run.run.run b = (.ok (.error e), b') → ∃ t, e = .delivery t

/-- A failure of `x` other than an undelivered reply leaves the state as `x` found it. -/
def FailsClean (x : Attempt α) : Prop :=
  ∀ b e b', x.run.run.run b = (.ok (.error e), b') → (∀ t, e ≠ .delivery t) → b' = b

/-- How a bind runs: the continuation starts where the first attempt ended, unless it failed
or was cut short. -/
theorem run_bind (x : Attempt α) (f : α → Attempt β) (b : Bot) :
    (x >>= f).run.run.run b =
      match x.run.run.run b with
      | (.ok (.ok a), b₁) => (f a).run.run.run b₁
      | (.ok (.error e), b₁) => (.ok (.error e), b₁)
      | (.error c, b₁) => (.error c, b₁) := by
  rcases hx : x.run.run.run b with ⟨r, b₁⟩
  have hx' : x.run.run b = (r, b₁) := hx
  rcases r with c | e | a
  · exact Run.run_bind_error hx'
  · rw [ExceptT.run_bind, Run.run_bind_ok hx']
    rfl
  · rw [ExceptT.run_bind, Run.run_bind_ok hx']

/-! ### Steps that only read -/

namespace Reads

theorem pure (a : α) : Reads (pure a : Attempt α) := fun _ => rfl

theorem throw (e : CommandError) : Reads (throw e : Attempt α) := fun _ => rfl

theorem bind {x : Attempt α} {f : α → Attempt β} (hx : Reads x) (hf : ∀ a, Reads (f a)) :
    Reads (x >>= f) := by
  intro b
  rw [run_bind]
  have hb := hx b
  rcases hr : x.run.run.run b with ⟨r, b₁⟩
  rw [hr] at hb
  subst hb
  rcases r with c | e | a
  · rfl
  · rfl
  · exact hf a b₁

end Reads

theorem reads_get : Reads (get : Attempt Bot) := fun _ => rfl

theorem reads_liftRegistry {r : Except RegistryError α} : Reads (liftRegistry r) := by
  unfold liftRegistry
  split
  · exact Reads.pure _
  · exact Reads.throw _

theorem reads_liftWords {r : Except Words.WordsError α} : Reads (liftWords r) := by
  unfold liftWords
  split
  · exact Reads.pure _
  · exact Reads.throw _

theorem reads_required (args : List String) (i : Nat) (usage : String) :
    Reads (required args i usage) := by
  unfold required
  split
  · exact Reads.pure _
  · exact Reads.throw _

theorem reads_requiredRest (args : List String) (i : Nat) (usage : String) :
    Reads (requiredRest args i usage) := by
  unfold requiredRest
  dsimp only
  split
  · exact Reads.throw _
  · exact Reads.pure _

/-! ### Steps after the change -/

namespace Committed

theorem pure (a : α) : Committed (pure a : Attempt α) := by
  intro b e b' h
  cases h

theorem set (b₀ : Bot) : Committed (set b₀ : Attempt PUnit) := by
  intro b e b' h
  cases h

theorem modify (f : Bot → Bot) : Committed (modify f : Attempt PUnit) := by
  intro b e b' h
  cases h

theorem bind {x : Attempt α} {f : α → Attempt β} (hx : Committed x)
    (hf : ∀ a, Committed (f a)) : Committed (x >>= f) := by
  intro b e b' h
  rw [run_bind] at h
  rcases hr : x.run.run.run b with ⟨r, b₁⟩
  rw [hr] at h
  rcases r with c | e' | a
  · cases h
  · cases h
    exact hx b _ _ hr
  · exact hf a b₁ e b' h

end Committed

theorem committed_reply (ctx : Context) (text : String) : Committed (reply ctx text) := by
  unfold reply
  split
  · exact Committed.pure _
  · split
    · exact Committed.modify _
    · intro b e b' h
      cases h
      exact ⟨_, rfl⟩

theorem committed_confirm (ctx : Context) (text : String) : Committed (confirm ctx text) :=
  Committed.bind (committed_reply ctx text) fun _ => Committed.pure _

/-! ### Failing cleanly -/

namespace FailsClean

theorem of_reads {x : Attempt α} (hx : Reads x) : FailsClean x := by
  intro b e b' h _
  have hb := hx b
  rw [h] at hb
  exact hb

theorem of_committed {x : Attempt α} (hx : Committed x) : FailsClean x := by
  intro b e b' h he
  obtain ⟨t, rfl⟩ := hx b e b' h
  exact absurd rfl (he t)

/-- Reading, then failing cleanly, fails cleanly. -/
theorem bind_of_reads {x : Attempt α} {f : α → Attempt β} (hx : Reads x)
    (hf : ∀ a, FailsClean (f a)) : FailsClean (x >>= f) := by
  intro b e b' h he
  rw [run_bind] at h
  have hb := hx b
  rcases hr : x.run.run.run b with ⟨r, b₁⟩
  rw [hr] at h hb
  subst hb
  rcases r with c | e' | a
  · cases h
  · cases h
    rfl
  · exact hf a _ e b' h he

/-- Failing cleanly, then committed steps, fails cleanly: once the change is made, only a
reply can fail. -/
theorem bind_committed {x : Attempt α} {f : α → Attempt β} (hx : FailsClean x)
    (hf : ∀ a, Committed (f a)) : FailsClean (x >>= f) := by
  intro b e b' h he
  rw [run_bind] at h
  rcases hr : x.run.run.run b with ⟨r, b₁⟩
  rw [hr] at h
  rcases r with c | e' | a
  · cases h
  · cases h
    exact hx b _ _ hr he
  · obtain ⟨t, rfl⟩ := hf a b₁ e b' h
    exact absurd rfl (he t)

theorem get_bind {f : Bot → Attempt β} (hf : ∀ b, FailsClean (f b)) : FailsClean (get >>= f) :=
  bind_of_reads reads_get hf

end FailsClean

end Attempt

open Attempt

/-! ### The changing steps -/

theorem failsClean_updateRegistry (f : Registry → Except RegistryError Registry) :
    FailsClean (updateRegistry f) := by
  unfold updateRegistry
  refine FailsClean.get_bind fun _ => ?_
  exact FailsClean.bind_committed (FailsClean.of_reads reads_liftRegistry) fun _ =>
    Committed.set _

theorem failsClean_removeCommand (name : String) : FailsClean (removeCommand name) := by
  unfold removeCommand
  refine FailsClean.get_bind fun _ => ?_
  exact FailsClean.bind_committed (FailsClean.of_reads reads_liftRegistry) fun _ =>
    Committed.bind (Committed.set _) fun _ => Committed.pure _

/-- A registry change, then its confirmation. -/
theorem failsClean_update_confirm (f : Registry → Except RegistryError Registry) (ctx : Context)
    (text : String) : FailsClean (updateRegistry f >>= fun _ => confirm ctx text) :=
  FailsClean.bind_committed (failsClean_updateRegistry f) fun _ => committed_confirm ctx text

/-! ### The commands that manage commands -/

namespace Builtin.Manage

theorem failsClean_addTemplate (args : List String) (ctx : Context) :
    FailsClean (Manage.addTemplate args ctx) := by
  unfold Manage.addTemplate
  refine FailsClean.bind_of_reads (reads_required _ _ _) fun _ => ?_
  refine FailsClean.bind_of_reads (reads_requiredRest _ _ _) fun _ => ?_
  exact FailsClean.get_bind fun _ => failsClean_update_confirm _ ctx _

theorem failsClean_addExternal (args : List String) (ctx : Context) :
    FailsClean (Manage.addExternal args ctx) := by
  unfold Manage.addExternal
  refine FailsClean.bind_of_reads (reads_required _ _ _) fun _ => ?_
  refine FailsClean.bind_of_reads (reads_requiredRest _ _ _) fun _ => ?_
  exact FailsClean.get_bind fun _ => failsClean_update_confirm _ ctx _

theorem failsClean_update (args : List String) (ctx : Context) :
    FailsClean (Manage.update args ctx) := by
  unfold Manage.update
  refine FailsClean.bind_of_reads (reads_required _ _ _) fun _ => ?_
  refine FailsClean.bind_of_reads (reads_requiredRest _ _ _) fun _ => ?_
  exact failsClean_update_confirm _ ctx _

/-- `delcmd` fails cleanly: a missing or built-in command is refused before the removal, which
fails cleanly itself, and only the confirmation follows it. -/
theorem failsClean_delete (args : List String) (ctx : Context) :
    FailsClean (Manage.delete args ctx) := by
  unfold Manage.delete
  refine FailsClean.bind_of_reads (reads_required _ _ _) fun _ => ?_
  refine FailsClean.get_bind fun _ => ?_
  have hremove : ∀ name, FailsClean
      (removeCommand name >>= fun c => confirm ctx s!"Command `{c.name}` deleted") :=
    fun _ => FailsClean.bind_committed (failsClean_removeCommand _) fun _ => committed_confirm _ _
  split
  · exact FailsClean.of_reads (Reads.throw _)
  · dsimp only
    split
    · exact FailsClean.bind_of_reads (Reads.throw _) fun _ => hremove _
    · exact hremove _

theorem failsClean_addAlias (args : List String) (ctx : Context) :
    FailsClean (Manage.addAlias args ctx) := by
  unfold Manage.addAlias
  refine FailsClean.bind_of_reads (reads_required _ _ _) fun _ => ?_
  refine FailsClean.bind_of_reads (reads_required _ _ _) fun _ => ?_
  exact failsClean_update_confirm _ ctx _

theorem failsClean_setLevel (args : List String) (ctx : Context) :
    FailsClean (Manage.setLevel args ctx) := by
  unfold Manage.setLevel
  refine FailsClean.bind_of_reads (reads_required _ _ _) fun _ => ?_
  refine FailsClean.bind_of_reads (reads_required _ _ _) fun _ => ?_
  split
  · exact FailsClean.of_reads (Reads.throw _)
  · exact failsClean_update_confirm _ ctx _

/-- `settimelimit` fails cleanly: the number and the limit it gives are both checked before the
limit is stored, and only the confirmation follows. -/
theorem failsClean_setTimeLimit (args : List String) (ctx : Context) :
    FailsClean (Manage.setTimeLimit args ctx) := by
  unfold Manage.setTimeLimit
  refine FailsClean.bind_of_reads (reads_required _ _ _) fun _ => ?_
  refine FailsClean.bind_of_reads (reads_required _ _ _) fun _ => ?_
  split
  · exact FailsClean.of_reads (Reads.throw _)
  · split
    · exact FailsClean.of_reads (Reads.throw _)
    · refine FailsClean.bind_committed (failsClean_updateRegistry _) fun _ => ?_
      split <;> exact committed_confirm _ _

theorem failsClean_setPlatform (enabled : Bool) (args : List String) (ctx : Context) :
    FailsClean (Manage.setPlatform enabled args ctx) := by
  unfold Manage.setPlatform
  refine FailsClean.bind_of_reads (reads_required _ _ _) fun _ => ?_
  refine FailsClean.bind_of_reads (reads_required _ _ _) fun _ => ?_
  split
  · exact FailsClean.of_reads (Reads.throw _)
  · split <;> exact failsClean_update_confirm _ ctx _

theorem failsClean_setSubcommand (args : List String) (ctx : Context) :
    FailsClean (Manage.setSubcommand args ctx) := by
  unfold Manage.setSubcommand
  refine FailsClean.bind_of_reads (reads_required _ _ _) fun _ => ?_
  refine FailsClean.bind_of_reads (reads_required _ _ _) fun _ => ?_
  split
  · exact FailsClean.of_reads (Reads.throw _)
  · refine FailsClean.bind_committed (failsClean_updateRegistry _) fun _ => ?_
    split <;> exact committed_confirm _ _

end Builtin.Manage

/-! ### The word-model commands and help -/

namespace Builtin.WordCommands

theorem committed_setChain (c : Words.Chain) : Committed (WordCommands.setChain c) :=
  Committed.modify _

theorem failsClean_generate (args : List String) (ctx : Context) :
    FailsClean (WordCommands.generate args ctx) := by
  unfold WordCommands.generate
  refine FailsClean.get_bind fun _ => ?_
  exact FailsClean.of_committed (Committed.bind (Committed.set _) fun _ => committed_confirm _ _)

theorem failsClean_find (args : List String) (ctx : Context) :
    FailsClean (WordCommands.find args ctx) := by
  unfold WordCommands.find
  refine FailsClean.bind_of_reads (reads_requiredRest _ _ _) fun _ => ?_
  refine FailsClean.get_bind fun _ => ?_
  refine FailsClean.bind_of_reads reads_liftWords fun _ => ?_
  split <;> exact FailsClean.of_committed (committed_confirm _ _)

/-- A pattern that does not compile is refused before the words are deleted and collected. -/
theorem failsClean_delete (args : List String) (ctx : Context) :
    FailsClean (WordCommands.delete args ctx) := by
  unfold WordCommands.delete
  refine FailsClean.bind_of_reads (reads_requiredRest _ _ _) fun _ => ?_
  refine FailsClean.get_bind fun _ => ?_
  refine FailsClean.bind_committed (FailsClean.of_reads reads_liftWords) fun _ => ?_
  exact Committed.bind (committed_setChain _) fun _ => committed_confirm _ _

theorem failsClean_collect (ctx : Context) : FailsClean (WordCommands.collect ctx) := by
  unfold WordCommands.collect
  refine FailsClean.get_bind fun _ => ?_
  refine FailsClean.of_committed (Committed.bind (committed_setChain _) fun _ => ?_)
  split <;> exact committed_confirm _ _

theorem failsClean_check (ctx : Context) : FailsClean (WordCommands.check ctx) := by
  unfold WordCommands.check
  refine FailsClean.get_bind fun _ => ?_
  exact FailsClean.of_committed
    (Committed.bind (committed_setChain _) fun _ => committed_confirm _ _)

theorem failsClean_stats (args : List String) (ctx : Context) :
    FailsClean (WordCommands.stats args ctx) := by
  unfold WordCommands.stats
  refine FailsClean.get_bind fun _ => ?_
  split <;> exact FailsClean.of_committed (committed_confirm _ _)

end Builtin.WordCommands

theorem Builtin.Info.failsClean_help (args : List String) (ctx : Context) :
    FailsClean (Info.help args ctx) := by
  unfold Info.help
  refine FailsClean.get_bind fun _ => ?_
  dsimp only
  split
  · split
    · exact FailsClean.of_reads (Reads.throw _)
    · exact FailsClean.of_committed (committed_confirm _ _)
  · exact FailsClean.of_committed (committed_confirm _ _)

/-- Every built-in command fails cleanly. -/
theorem Builtin.call_failsClean (bi : Builtin) (args : List String) (ctx : Context) :
    FailsClean (bi.call args ctx) := by
  cases bi with
  | generate => exact Builtin.WordCommands.failsClean_generate args ctx
  | findWords => exact Builtin.WordCommands.failsClean_find args ctx
  | deleteWords => exact Builtin.WordCommands.failsClean_delete args ctx
  | collect => exact Builtin.WordCommands.failsClean_collect ctx
  | check => exact Builtin.WordCommands.failsClean_check ctx
  | stats => exact Builtin.WordCommands.failsClean_stats args ctx
  | addTemplate => exact Builtin.Manage.failsClean_addTemplate args ctx
  | addExternal => exact Builtin.Manage.failsClean_addExternal args ctx
  | update => exact Builtin.Manage.failsClean_update args ctx
  | delete => exact Builtin.Manage.failsClean_delete args ctx
  | «alias» => exact Builtin.Manage.failsClean_addAlias args ctx
  | setLevel => exact Builtin.Manage.failsClean_setLevel args ctx
  | setTimeLimit => exact Builtin.Manage.failsClean_setTimeLimit args ctx
  | enable => exact Builtin.Manage.failsClean_setPlatform true args ctx
  | disable => exact Builtin.Manage.failsClean_setPlatform false args ctx
  | setSubcommand => exact Builtin.Manage.failsClean_setSubcommand args ctx
  | help => exact Builtin.Info.failsClean_help args ctx
  | recite => exact FailsClean.of_committed (committed_confirm ctx _)

/-- **A failed built-in command changes nothing.** When a built-in command, called with any
words from any bot in any context, fails with an error other than an undelivered reply (a usage
error, an invalid argument, a registry error, a pattern that does not compile), the bot is
exactly as it was before the call: the registry with every command, every field of it and every
alias, the word model, and the reports of the removal observers, so no observer ran. -/
theorem builtin_failure_keeps_bot (bi : Builtin) (args : List String) (ctx : Context)
    (bot bot' : Bot) (e : CommandError)
    (h : (bi.call args ctx).run.run.run bot = (.ok (.error e), bot'))
    (he : ∀ t, e ≠ .delivery t) : bot' = bot :=
  Builtin.call_failsClean bi args ctx bot e bot' h he

/-- A context of a moderator on the console. -/
def consoleModerator : Context :=
  { transport := { platform := .console, author := "ann", authorId := "1", channel := "chat",
                   channelId := "2" },
    level := .moderator }

/-- `delcmd` without a name fails with its usage and leaves the bot as it was. -/
theorem delcmd_without_name_keeps_bot :
    (Builtin.delete.call ["delcmd"] consoleModerator).run.run.run {} =
        (.ok (.error (.usage "delcmd <name>")), {}) ∧
      (∀ t, CommandError.usage "delcmd <name>" ≠ .delivery t) ∧ ({} : Bot) = {} :=
  have hrun : (Builtin.delete.call ["delcmd"] consoleModerator).run.run.run {} =
      (.ok (.error (.usage "delcmd <name>")), {}) := rfl
  ⟨hrun, (fun _ h => by cases h),
    builtin_failure_keeps_bot .delete ["delcmd"] _ {} {} _ hrun fun _ h => by cases h⟩

end Chatbot
