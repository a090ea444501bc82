import Chatbot.Engine.Run
import Chatbot.Proofs.RunLogic
import Chatbot.Proofs.ReferenceReading

/-!
# How deep references nest

A reference runs its line one level deeper, and `evaluate` refuses one whose context has
reached the settings' depth limit `D`. Nothing else the engine does goes deeper, and nothing,
not a built-in command nor a process, changes the settings. So a run started at depth `d` nests
at most `D - d` levels below itself, whatever the commands, however they refer to themselves or
each other, and whatever the built-in commands they run do to the registry on the way; the
time limits play no part in this.

The engine is written open (`Engine.unroll`): a run takes the runs one level deeper as an
argument. The statement here is that the levels below the `D - d` that `tryRun` unrolls are
never reached: with more levels, or any run at all in place of the bottom, a run gives the same
answer and leaves the same state.

## What is proved

* `Builtin.call_keeps_settings`, `runProcess_keeps_settings`: no built-in command and no
  process changes the settings.
* `expandRefs_agree`: expanding references with two evaluators that agree gives the same run.
* `tryRunWith_agree`: a run agrees under two ways of running nested lines as soon as they agree
  one level deeper, below the limit.
* `unroll_agree`: two unrolled engines agree on every context within the limit once each has
  more levels than the limit leaves.
* `tryRunWith_unroll_eq_tryRun`: a run with any number of levels at least `D - d`, over any
  bottom, is the run `tryRun` makes.
-/

namespace Chatbot

open Chatbot.Builtin

/-- The states whose settings satisfy `P`. -/
def settingsIn (P : Settings → Prop) : Bot → Prop := fun b => P b.settings

/-! ### Nothing changes the settings -/

section SettingsKept

variable (P : Settings → Prop)

theorem reply_keeps_settings (ctx : Context) (text : String) :
    Attempt.Agree (settingsIn P) (reply ctx text) (reply ctx text) := by
  unfold reply
  split
  · exact Attempt.Agree.pure _
  · split
    · exact Attempt.Agree.modify fun _ hb => hb
    · exact Attempt.Agree.throw _

theorem notify_keeps_settings (ctx : Context) (text : String) :
    Run.Agree (settingsIn P) (notify ctx text) (notify ctx text) :=
  Run.Agree.bind (reply_keeps_settings P ctx text) fun _ => Run.Agree.pure _

theorem liftRegistry_keeps_settings {α : Type} (r : Except RegistryError α) :
    Attempt.Agree (settingsIn P) (liftRegistry r) (liftRegistry r) := by
  unfold liftRegistry
  split
  · exact Attempt.Agree.pure _
  · exact Attempt.Agree.throw _

theorem liftWords_keeps_settings {α : Type} (r : Except Words.WordsError α) :
    Attempt.Agree (settingsIn P) (liftWords r) (liftWords r) := by
  unfold liftWords
  split
  · exact Attempt.Agree.pure _
  · exact Attempt.Agree.throw _

theorem removeCommand_keeps_settings (name : String) :
    Attempt.Agree (settingsIn P) (removeCommand name) (removeCommand name) := by
  unfold removeCommand
  refine Attempt.Agree.get_bind fun b hb => ?_
  refine Attempt.Agree.bind (liftRegistry_keeps_settings P _) fun _ => ?_
  exact Attempt.Agree.bind (Attempt.Agree.set hb) fun _ => Attempt.Agree.pure _

theorem required_keeps_settings (args : List String) (i : Nat) (usage : String) :
    Attempt.Agree (settingsIn P) (required args i usage) (required args i usage) := by
  unfold required
  split
  · exact Attempt.Agree.pure _
  · exact Attempt.Agree.throw _

theorem requiredRest_keeps_settings (args : List String) (i : Nat) (usage : String) :
    Attempt.Agree (settingsIn P) (requiredRest args i usage) (requiredRest args i usage) := by
  unfold requiredRest
  dsimp only
  split
  · exact Attempt.Agree.throw _
  · exact Attempt.Agree.pure _

theorem confirm_keeps_settings (ctx : Context) (text : String) :
    Attempt.Agree (settingsIn P) (confirm ctx text) (confirm ctx text) :=
  Attempt.Agree.bind (reply_keeps_settings P ctx text) fun _ => Attempt.Agree.pure _

theorem updateRegistry_keeps_settings (f : Registry → Except RegistryError Registry) :
    Attempt.Agree (settingsIn P) (updateRegistry f) (updateRegistry f) := by
  unfold updateRegistry
  refine Attempt.Agree.get_bind fun b hb => ?_
  exact Attempt.Agree.bind (liftRegistry_keeps_settings P _) fun _ => Attempt.Agree.set hb

theorem addTemplate_keeps_settings (args : List String) (ctx : Context) :
    Attempt.Agree (settingsIn P) (Manage.addTemplate args ctx) (Manage.addTemplate args ctx) := by
  unfold Manage.addTemplate
  refine Attempt.Agree.bind (required_keeps_settings P _ _ _) fun _ => ?_
  refine Attempt.Agree.bind (requiredRest_keeps_settings P _ _ _) fun _ => ?_
  refine Attempt.Agree.get_bind fun _ _ => ?_
  exact Attempt.Agree.bind (updateRegistry_keeps_settings P _) fun _ =>
    confirm_keeps_settings P _ _

theorem addExternal_keeps_settings (args : List String) (ctx : Context) :
    Attempt.Agree (settingsIn P) (Manage.addExternal args ctx) (Manage.addExternal args ctx) := by
  unfold Manage.addExternal
  refine Attempt.Agree.bind (required_keeps_settings P _ _ _) fun _ => ?_
  refine Attempt.Agree.bind (requiredRest_keeps_settings P _ _ _) fun _ => ?_
  refine Attempt.Agree.get_bind fun _ _ => ?_
  exact Attempt.Agree.bind (updateRegistry_keeps_settings P _) fun _ =>
    confirm_keeps_settings P _ _

theorem update_keeps_settings (args : List String) (ctx : Context) :
    Attempt.Agree (settingsIn P) (Manage.update args ctx) (Manage.update args ctx) := by
  unfold Manage.update
  refine Attempt.Agree.bind (required_keeps_settings P _ _ _) fun _ => ?_
  refine Attempt.Agree.bind (requiredRest_keeps_settings P _ _ _) fun _ => ?_
  exact Attempt.Agree.bind (updateRegistry_keeps_settings P _) fun _ =>
    confirm_keeps_settings P _ _

theorem delete_keeps_settings (args : List String) (ctx : Context) :
    Attempt.Agree (settingsIn P) (Manage.delete args ctx) (Manage.delete args ctx) := by
  unfold Manage.delete
  refine Attempt.Agree.bind (required_keeps_settings P _ _ _) fun _ => ?_
  refine Attempt.Agree.get_bind fun _ _ => ?_
  split
  · exact Attempt.Agree.throw _
  · have hremove : ∀ name, Attempt.Agree (settingsIn P)
        (removeCommand name >>= fun c => confirm ctx s!"Command `{c.name}` deleted")
        (removeCommand name >>= fun c => confirm ctx s!"Command `{c.name}` deleted") :=
      fun _ => Attempt.Agree.bind (removeCommand_keeps_settings P _) fun _ =>
        confirm_keeps_settings P _ _
    dsimp only
    split
    · exact Attempt.Agree.bind (Attempt.Agree.throw _) fun _ => hremove _
    · exact hremove _

theorem addAlias_keeps_settings (args : List String) (ctx : Context) :
    Attempt.Agree (settingsIn P) (Manage.addAlias args ctx) (Manage.addAlias args ctx) := by
  unfold Manage.addAlias
  refine Attempt.Agree.bind (required_keeps_settings P _ _ _) fun _ => ?_
  refine Attempt.Agree.bind (required_keeps_settings P _ _ _) fun _ => ?_
  exact Attempt.Agree.bind (updateRegistry_keeps_settings P _) fun _ =>
    confirm_keeps_settings P _ _

theorem setLevel_keeps_settings (args : List String) (ctx : Context) :
    Attempt.Agree (settingsIn P) (Manage.setLevel args ctx) (Manage.setLevel args ctx) := by
  unfold Manage.setLevel
  refine Attempt.Agree.bind (required_keeps_settings P _ _ _) fun _ => ?_
  refine Attempt.Agree.bind (required_keeps_settings P _ _ _) fun _ => ?_
  split
  · exact Attempt.Agree.throw _
  · exact Attempt.Agree.bind (updateRegistry_keeps_settings P _) fun _ =>
      confirm_keeps_settings P _ _

theorem setTimeLimit_keeps_settings (args : List String) (ctx : Context) :
    Attempt.Agree (settingsIn P) (Manage.setTimeLimit args ctx)
      (Manage.setTimeLimit args ctx) := by
  unfold Manage.setTimeLimit
  refine Attempt.Agree.bind (required_keeps_settings P _ _ _) fun _ => ?_
  refine Attempt.Agree.bind (required_keeps_settings P _ _ _) fun _ => ?_
  split
  · exact Attempt.Agree.throw _
  · split
    · exact Attempt.Agree.throw _
    · refine Attempt.Agree.bind (updateRegistry_keeps_settings P _) fun _ => ?_
      split <;> exact confirm_keeps_settings P _ _

theorem setPlatform_keeps_settings (enabled : Bool) (args : List String) (ctx : Context) :
    Attempt.Agree (settingsIn P) (Manage.setPlatform enabled args ctx)
      (Manage.setPlatform enabled args ctx) := by
  unfold Manage.setPlatform
  refine Attempt.Agree.bind (required_keeps_settings P _ _ _) fun _ => ?_
  refine Attempt.Agree.bind (required_keeps_settings P _ _ _) fun _ => ?_
  split
  · exact Attempt.Agree.throw _
  · split <;> exact Attempt.Agree.bind (updateRegistry_keeps_settings P _) fun _ =>
      confirm_keeps_settings P _ _

theorem setSubcommand_keeps_settings (args : List String) (ctx : Context) :
    Attempt.Agree (settingsIn P) (Manage.setSubcommand args ctx)
      (Manage.setSubcommand args ctx) := by
  unfold Manage.setSubcommand
  refine Attempt.Agree.bind (required_keeps_settings P _ _ _) fun _ => ?_
  refine Attempt.Agree.bind (required_keeps_settings P _ _ _) fun _ => ?_
  split
  · exact Attempt.Agree.throw _
  · refine Attempt.Agree.bind (updateRegistry_keeps_settings P _) fun _ => ?_
    split <;> exact confirm_keeps_settings P _ _

theorem setChain_keeps_settings (c : Words.Chain) :
    Attempt.Agree (settingsIn P) (WordCommands.setChain c) (WordCommands.setChain c) :=
  Attempt.Agree.modify fun _ hb => hb

theorem generate_keeps_settings (args : List String) (ctx : Context) :
    Attempt.Agree (settingsIn P) (WordCommands.generate args ctx)
      (WordCommands.generate args ctx) := by
  unfold WordCommands.generate
  refine Attempt.Agree.get_bind fun b hb => ?_
  exact Attempt.Agree.bind (Attempt.Agree.set hb) fun _ => confirm_keeps_settings P _ _

theorem find_keeps_settings (args : List String) (ctx : Context) :
    Attempt.Agree (settingsIn P) (WordCommands.find args ctx) (WordCommands.find args ctx) := by
  unfold WordCommands.find
  refine Attempt.Agree.bind (requiredRest_keeps_settings P _ _ _) fun _ => ?_
  refine Attempt.Agree.get_bind fun _ _ => ?_
  refine Attempt.Agree.bind (liftWords_keeps_settings P _) fun _ => ?_
  split <;> exact confirm_keeps_settings P _ _

theorem deleteWords_keeps_settings (args : List String) (ctx : Context) :
    Attempt.Agree (settingsIn P) (WordCommands.delete args ctx)
      (WordCommands.delete args ctx) := by
  unfold WordCommands.delete
  refine Attempt.Agree.bind (requiredRest_keeps_settings P _ _ _) fun _ => ?_
  refine Attempt.Agree.get_bind fun _ _ => ?_
  refine Attempt.Agree.bind (liftWords_keeps_settings P _) fun _ => ?_
  exact Attempt.Agree.bind (setChain_keeps_settings P _) fun _ => confirm_keeps_settings P _ _

theorem collect_keeps_settings (ctx : Context) :
    Attempt.Agree (settingsIn P) (WordCommands.collect ctx) (WordCommands.collect ctx) := by
  unfold WordCommands.collect
  refine Attempt.Agree.get_bind fun _ _ => ?_
  refine Attempt.Agree.bind (setChain_keeps_settings P _) fun _ => ?_
  split <;> exact confirm_keeps_settings P _ _

theorem check_keeps_settings (ctx : Context) :
    Attempt.Agree (settingsIn P) (WordCommands.check ctx) (WordCommands.check ctx) := by
  unfold WordCommands.check
  refine Attempt.Agree.get_bind fun _ _ => ?_
  exact Attempt.Agree.bind (setChain_keeps_settings P _) fun _ => confirm_keeps_settings P _ _

theorem stats_keeps_settings (args : List String) (ctx : Context) :
    Attempt.Agree (settingsIn P) (WordCommands.stats args ctx) (WordCommands.stats args ctx) := by
  unfold WordCommands.stats
  refine Attempt.Agree.get_bind fun _ _ => ?_
  split <;> exact confirm_keeps_settings P _ _

theorem help_keeps_settings (args : List String) (ctx : Context) :
    Attempt.Agree (settingsIn P) (Info.help args ctx) (Info.help args ctx) := by
  unfold Info.help
  refine Attempt.Agree.get_bind fun _ _ => ?_
  dsimp only
  split
  · split
    · exact Attempt.Agree.throw _
    · exact confirm_keeps_settings P _ _
  · exact confirm_keeps_settings P _ _

/-- No built-in command changes the settings. -/
theorem Builtin.call_keeps_settings (bi : Builtin) (args : List String) (ctx : Context) :
    Attempt.Agree (settingsIn P) (bi.call args ctx) (bi.call args ctx) := by
  cases bi with
  | generate => exact generate_keeps_settings P args ctx
  | findWords => exact find_keeps_settings P args ctx
  | deleteWords => exact deleteWords_keeps_settings P args ctx
  | collect => exact collect_keeps_settings P ctx
  | check => exact check_keeps_settings P ctx
  | stats => exact stats_keeps_settings P args ctx
  | addTemplate => exact addTemplate_keeps_settings P args ctx
  | addExternal => exact addExternal_keeps_settings P args ctx
  | update => exact update_keeps_settings P args ctx
  | delete => exact delete_keeps_settings P args ctx
  | «alias» => exact addAlias_keeps_settings P args ctx
  | setLevel => exact setLevel_keeps_settings P args ctx
  | setTimeLimit => exact setTimeLimit_keeps_settings P args ctx
  | enable => exact setPlatform_keeps_settings P true args ctx
  | disable => exact setPlatform_keeps_settings P false args ctx
  | setSubcommand => exact setSubcommand_keeps_settings P args ctx
  | help => exact help_keeps_settings P args ctx
  | recite => exact confirm_keeps_settings P ctx _

/-- A process moves the clock and nothing else of the state. -/
theorem runProcess_keeps_settings (line : String) (deadline : Option Nat) :
    Attempt.Agree (settingsIn P) (Engine.runProcess line deadline)
      (Engine.runProcess line deadline) := by
  unfold Engine.runProcess
  refine Attempt.Agree.get_bind fun b hb => ?_
  split
  refine Attempt.Agree.bind (Attempt.Agree.set hb) fun _ => ?_
  split
  · exact Attempt.Agree.pure _
  · exact Attempt.Agree.throw _
  · exact Attempt.Agree.throwCut _

end SettingsKept

/-! ### Agreement of the engine under agreeing nested runs -/

section Evaluation

open Chatbot.Template

variable {I : Bot → Prop}

mutual

theorem evalPiece_agree {eval₁ eval₂ : String → Run String}
    (h : ∀ line, Run.Agree I (eval₁ line) (eval₂ line)) :
    ∀ p, Run.Agree I (evalPiece eval₁ p) (evalPiece eval₂ p)
  | .char c => Run.Agree.pure [c]
  | .group _ _ body _ =>
    Run.Agree.bind (evalPieces_agree h body) fun _ => Run.Agree.pure _
  | .ref _ _ body closed => by
    refine Run.Agree.bind (evalPieces_agree h body) fun _ => ?_
    cases closed with
    | true => exact Run.Agree.bind (h _) fun _ => Run.Agree.pure _
    | false => exact Run.Agree.pure _

theorem evalPieces_agree {eval₁ eval₂ : String → Run String}
    (h : ∀ line, Run.Agree I (eval₁ line) (eval₂ line)) :
    ∀ ps, Run.Agree I (evalPieces eval₁ ps) (evalPieces eval₂ ps)
  | [] => Run.Agree.pure []
  | p :: ps =>
    Run.Agree.bind (evalPiece_agree h p) fun a =>
      Run.Agree.bind (evalPieces_agree h ps) fun b => Run.Agree.pure (a ++ b)

end

/-- Expanding references with two evaluators that agree on every line gives runs that agree:
the scan is the evaluation of the text's pieces, which calls the evaluators on the same lines in
the same order. -/
theorem expandRefs_agree {eval₁ eval₂ : String → Run String}
    (h : ∀ line, Run.Agree I (eval₁ line) (eval₂ line)) (text : String) :
    Run.Agree I (expandRefs eval₁ text) (expandRefs eval₂ text) := by
  unfold expandRefs
  split
  · rw [scanRefs_start_eq_evalPieces, scanRefs_start_eq_evalPieces]
    exact Run.Agree.bind (evalPieces_agree h _) fun _ => Run.Agree.pure _
  · exact Run.Agree.pure _

end Evaluation

section Nesting

open Chatbot.Engine

variable {D : Nat}

/-- The states whose depth limit is `D`. -/
abbrev limitIs (D : Nat) : Bot → Prop := settingsIn fun s => s.maxDepth = D

/-- Two ways of running nested lines agree on the lines a run in `ctx` may nest: those one level
deeper, which the depth check lets through only below the limit. -/
def NestedAgree (D : Nat) (ctx : Context) (g₁ g₂ : Nested) : Prop :=
  ctx.depth < D → ∀ deadline line,
    Run.Agree (limitIs D) (g₁ deadline ctx.silenced line) (g₂ deadline ctx.silenced line)

variable {ctx : Context} {g₁ g₂ : Nested}

/-- Evaluating a reference is the same in both engines: below the limit its line runs one level
deeper, where the two agree. -/
theorem evaluate_agree (hg : NestedAgree D ctx g₁ g₂) (deadline : Option Nat) (safe : Bool)
    (line : String) :
    Run.Agree (limitIs D) (evaluate g₁ deadline safe ctx line)
      (evaluate g₂ deadline safe ctx line) := by
  have hnotice : ∀ text, Run.Agree (limitIs D) (notify ctx text >>= fun _ => pure "")
      (notify ctx text >>= fun _ => pure "") :=
    fun _ => Run.Agree.bind (notify_keeps_settings _ _ _) fun _ => Run.Agree.pure _
  unfold evaluate
  split
  · exact Run.Agree.pure _
  · refine Run.Agree.get_bind fun b hb => ?_
    split
    · exact hnotice _
    · split
      · exact hnotice _
      · split
        · exact hnotice _
        · rename_i hdepth
          have hlt : ctx.depth < D := by
            have hD : b.settings.maxDepth = D := hb
            omega
          refine Run.Agree.bind (hg hlt deadline line) fun _ => ?_
          dsimp only
          split <;> exact Run.Agree.pure _

theorem expandText_agree (hg : NestedAgree D ctx g₁ g₂) (deadline : Option Nat) (safe : Bool)
    (tokens : List String) (text : String) :
    Run.Agree (limitIs D) (expandText g₁ deadline safe ctx tokens text)
      (expandText g₂ deadline safe ctx tokens text) :=
  expandRefs_agree (evaluate_agree hg deadline safe) _

theorem dispatch_agree (hg : NestedAgree D ctx g₁ g₂) (deadline : Option Nat) (c : Command)
    (tokens : List String) :
    Attempt.Agree (limitIs D) (dispatch g₁ deadline c tokens ctx)
      (dispatch g₂ deadline c tokens ctx) := by
  unfold dispatch
  split
  · exact Attempt.Agree.pure _
  · split
    · exact Builtin.call_keeps_settings _ _ _ _
    · refine Attempt.Agree.bind (Attempt.Agree.lift (expandText_agree hg _ _ _ _)) fun _ => ?_
      exact Attempt.Agree.bind (reply_keeps_settings _ _ _) fun _ => Attempt.Agree.pure _
    · refine Attempt.Agree.bind (Attempt.Agree.lift (expandText_agree hg _ _ _ _)) fun _ => ?_
      refine Attempt.Agree.bind (runProcess_keeps_settings _ _ _) fun _ => ?_
      exact Attempt.Agree.bind (reply_keeps_settings _ _ _) fun _ => Attempt.Agree.pure _

theorem execute_agree (hg : NestedAgree D ctx g₁ g₂) (deadline : Option Nat) (c : Command)
    (line : String) (tokens : List String) :
    Attempt.Agree (limitIs D) (execute g₁ deadline c line tokens ctx)
      (execute g₂ deadline c line tokens ctx) := by
  unfold execute
  dsimp only
  split
  · exact Attempt.Agree.bind (Attempt.Agree.pure _) fun _ => dispatch_agree hg _ _ _
  · refine Attempt.Agree.bind (Attempt.Agree.lift (expandText_agree hg _ _ _ _)) fun _ => ?_
    exact Attempt.Agree.bind (Attempt.Agree.pure _) fun _ => dispatch_agree hg _ _ _

/-- Running a line is the same in both engines: past the platform and level checks the invocation
is counted and the command runs under its time limit, where the two agree. -/
theorem tryRunWith_agree (hg : NestedAgree D ctx g₁ g₂) (deadline : Option Nat)
    (line : String) :
    Attempt.Agree (limitIs D) (tryRunWith g₁ deadline ctx line)
      (tryRunWith g₂ deadline ctx line) := by
  unfold tryRunWith
  dsimp only
  split
  · exact Attempt.Agree.pure _
  · refine Attempt.Agree.get_bind fun b hb => ?_
    split
    · exact Attempt.Agree.throw _
    · refine Attempt.Agree.ite (Attempt.Agree.throw_bind _)
        (Attempt.Agree.ite (Attempt.Agree.throw_bind _) ?_)
      refine Attempt.Agree.bind (Attempt.Agree.set hb) fun _ => ?_
      split
      · exact execute_agree hg _ _ _ _
      · exact Attempt.Agree.tryCatchCut (execute_agree hg _ _ _ _) fun _ =>
          Attempt.Agree.ite (Attempt.Agree.throw _) (Attempt.Agree.throwCut _)

theorem runWith_agree (hg : NestedAgree D ctx g₁ g₂) (deadline : Option Nat) (line : String) :
    Run.Agree (limitIs D) (runWith g₁ deadline ctx line) (runWith g₂ deadline ctx line) := by
  unfold runWith
  refine Run.Agree.bind (tryRunWith_agree hg deadline line) fun _ => ?_
  split
  · exact Run.Agree.pure _
  · exact Run.Agree.bind (notify_keeps_settings _ _ _) fun _ => Run.Agree.pure _

/-- Two unrolled engines agree on every context within the limit as soon as each has more levels
than the limit leaves there: neither bottom is ever reached. By induction on the levels of the
left engine, each of which runs the next one a level deeper. -/
theorem unroll_agree (stop₁ stop₂ : Nested) (n : Nat) :
    ∀ (k : Nat) (ctx : Context), ctx.depth ≤ D → D < ctx.depth + n → D < ctx.depth + k →
      ∀ deadline line, Run.Agree (limitIs D) (unroll stop₁ n deadline ctx line)
        (unroll stop₂ k deadline ctx line) := by
  induction n with
  | zero =>
    intro k ctx hle hn
    omega
  | succ n ih =>
    intro k ctx hle hn hk deadline line
    obtain ⟨k, rfl⟩ : ∃ k', k = k' + 1 := ⟨k - 1, by omega⟩
    show Run.Agree (limitIs D) (runWith (unroll stop₁ n) deadline ctx line)
      (runWith (unroll stop₂ k) deadline ctx line)
    refine runWith_agree (fun hlt deadline' line' => ?_) deadline line
    exact ih k ctx.silenced (by simp; omega) (by simp; omega) (by simp; omega) deadline' line'

/-- `tryRun` unrolls as many levels as the limit leaves below the context. -/
theorem tryRun_run (ctx : Context) (line : String) (b : Bot) :
    (tryRun ctx line).run.run.run b =
      (tryRunWith (unroll idle (b.settings.maxDepth - ctx.depth)) none ctx line).run.run.run b := by
  unfold tryRun
  exact Attempt.run_lift_bind_ok rfl

end Nesting

/-- **References nest no deeper than the limit allows.** Whatever the commands (templates
that refer to themselves or to each other, built-in commands that change the registry on the
way) and whatever their time limits, a run in a context of depth `d` under a depth limit `D`
never goes more than `D - d` levels below itself: with any number of levels at least that, and
any run at all in place of the ones below, the run gives the same answer and leaves the same
state as `tryRun`. -/
theorem tryRunWith_unroll_eq_tryRun (stop : Engine.Nested) (n : Nat) (ctx : Context)
    (line : String) (b : Bot) (hn : b.settings.maxDepth - ctx.depth ≤ n) :
    (Engine.tryRunWith (Engine.unroll stop n) none ctx line).run.run.run b =
      (Engine.tryRun ctx line).run.run.run b := by
  have hlevels : NestedAgree b.settings.maxDepth ctx (Engine.unroll stop n)
      (Engine.unroll Engine.idle (b.settings.maxDepth - ctx.depth)) := by
    intro hlt deadline line'
    exact unroll_agree stop Engine.idle n _ ctx.silenced (by simp; omega) (by simp; omega)
      (by simp; omega) deadline line'
  rw [tryRun_run]
  exact ((tryRunWith_agree hlevels none line) b rfl).1

/-- A run that leaves a mark when it is reached. -/
def markBottom : Engine.Nested := fun _ _ _ => do
  modify fun b => { b with outbox := b.outbox ++ ["bottom reached"] }
  pure none

theorem echo_nesting_within_limit :
    (Bot.withBuiltins {} .recorder).settings.maxDepth -
        ({ transport := { platform := .console, author := "tester", authorId := "tester#id",
                          channel := "general", channelId := "general#id" },
           level := .user } : Context).depth ≤ 16 ∧
      (Engine.tryRunWith (Engine.unroll markBottom 16) none
          { transport := { platform := .console, author := "tester", authorId := "tester#id",
                           channel := "general", channelId := "general#id" },
            level := .user } "echo $(echo $(echo deep))").run.run.run
          (Bot.withBuiltins {} .recorder) =
        (Engine.tryRun
          { transport := { platform := .console, author := "tester", authorId := "tester#id",
                           channel := "general", channelId := "general#id" },
            level := .user } "echo $(echo $(echo deep))").run.run.run
          (Bot.withBuiltins {} .recorder) :=
  ⟨by decide, tryRunWith_unroll_eq_tryRun markBottom 16 _ _ _ (by decide)⟩

end Chatbot
