import Chatbot.Engine.Run
import Chatbot.Proofs.RunLogic
import Chatbot.Proofs.ReferenceReading

/-!
# What a run changes, and what silence changes

A run changes the bot in few ways: it delivers replies, it changes the registry through the
operations of the management commands, by removing a command that is not built in, or by
counting an invocation, and it records removals, replaces the word model, draws from the random
source and moves the clock. Nothing else is written, and the messages delivered are never read.

This module states that once, as `Frame R`: a relation between states that differ at most in the
messages delivered, kept by each of those changes made alike on both sides. Then every part of the
engine, every built-in command, the expansion of references and the whole run of a line, run in a
context `c` on one side and in the same context with its silent flag set to `s` on the other,
keeps any such relation, provided the two contexts' replies keep it. The silent flag is read by
replies alone, so this is all that silence can change.

The statement is made once for all such relations: the invariants of the registry, the outbox of
a silent run and the results of two runs that differ only in their silence are its instances.

## What is proved

* `Registry.EngineEdit`: the changes a run makes to the registry.
* `Frame`: relations kept by a run's own changes.
* `Builtin.call_sim`: every built-in command keeps such a relation.
* `evaluate_sim`, `tryRunWith_sim`, `runWith_sim`: the engine keeps it, given that the runs one
  level deeper do.
* `unroll_sim`, `run_sim`, `handleMessage_sim`: a whole run keeps it.
* `handleMessage_keeps_registry`: a property of the registry that the run's changes keep holds
  after any message, in any context.
-/

namespace Chatbot

open Chatbot.Builtin Chatbot.Engine Chatbot.Template

/-- The changes a run makes to the registry: an operation of a management command, the removal
of a command, found by a name, that is not built in, or one more invocation counted. -/
inductive Registry.EngineEdit : Registry → Registry → Prop
  /-- Adding a command. -/
  | register {r r' : Registry} (c : Command) : r.register c = .ok r' → Registry.EngineEdit r r'
  /-- Replacing a command's text. -/
  | updateBody {r r' : Registry} (name body : String) :
      r.updateBody name body = .ok r' → Registry.EngineEdit r r'
  /-- Adding an alias. -/
  | addAlias {r r' : Registry} (name target : String) :
      r.addAlias name target = .ok r' → Registry.EngineEdit r r'
  /-- Setting the required level. -/
  | setLevel {r r' : Registry} (name : String) (l : Level) :
      r.setLevel name l = .ok r' → Registry.EngineEdit r r'
  /-- Setting the time limit. -/
  | setTimeLimit {r r' : Registry} (name : String) (limit : Option UInt64) :
      r.setTimeLimit name limit = .ok r' → Registry.EngineEdit r r'
  /-- Enabling a platform. -/
  | enablePlatform {r r' : Registry} (name : String) (p : Platform) :
      r.enablePlatform name p = .ok r' → Registry.EngineEdit r r'
  /-- Disabling a platform. -/
  | disablePlatform {r r' : Registry} (name : String) (p : Platform) :
      r.disablePlatform name p = .ok r' → Registry.EngineEdit r r'
  /-- Allowing or forbidding use in references. -/
  | setSubcommand {r r' : Registry} (name : String) (b : Bool) :
      r.setSubcommand name b = .ok r' → Registry.EngineEdit r r'
  /-- Removing the command a name stands for, which is not built in. -/
  | remove {r r' : Registry} {name : String} {c removed : Command} : r.get? name = some c →
      c.isBuiltin = false → r.remove c.name = .ok (removed, r') → Registry.EngineEdit r r'
  /-- Counting an invocation. -/
  | recordInvocation (r : Registry) (name : String) :
      Registry.EngineEdit r (r.recordInvocation name).2

/-- A relation between states that a run's own changes keep. Related states differ at most in
the messages delivered, and changing the registry as a run does, or the removal reports, the word
model, the random source or the clock, alike on both sides, keeps them related. -/
structure Frame (R : Bot → Bot → Prop) : Prop where
  /-- Related states differ at most in the messages delivered. -/
  alike : ∀ {b₁ b₂}, R b₁ b₂ → b₂ = { b₁ with outbox := b₂.outbox }
  /-- A change of the registry made by a run. -/
  registry : ∀ {b₁ b₂ r}, R b₁ b₂ → b₁.registry.EngineEdit r →
    R { b₁ with registry := r } { b₂ with registry := r }
  /-- New removal reports. -/
  removals : ∀ {b₁ b₂} (l : List String), R b₁ b₂ →
    R { b₁ with removals := l } { b₂ with removals := l }
  /-- A new word model. -/
  chain : ∀ {b₁ b₂} (ch : Words.Chain), R b₁ b₂ →
    R { b₁ with chain := ch } { b₂ with chain := ch }
  /-- A new state of the random source. -/
  source : ∀ {b₁ b₂} (src : Words.SplitMix), R b₁ b₂ →
    R { b₁ with source := src } { b₂ with source := src }
  /-- A new clock. -/
  clock : ∀ {b₁ b₂} (t : Nat), R b₁ b₂ →
    R { b₁ with clock := t } { b₂ with clock := t }

variable {R : Bot → Bot → Prop} {c : Context} {s : Bool} {β : Type}

/-- Reading the states: the second is the first with other messages delivered. -/
theorem Frame.get_bind (hR : Frame R) {f g : Bot → Attempt β}
    (hfg : ∀ b o, R b { b with outbox := o } → Attempt.Sim R (f b) (g { b with outbox := o })) :
    Attempt.Sim R (get >>= f) (get >>= g) :=
  Attempt.Sim.get_bind fun b₁ b₂ hb => by
    obtain ⟨o, rfl⟩ : ∃ o, b₂ = { b₁ with outbox := o } := ⟨_, hR.alike hb⟩
    exact hfg b₁ o hb

/-- Reading the states in a run that cannot fail. -/
theorem Frame.run_get_bind (hR : Frame R) {f g : Bot → Run β}
    (hfg : ∀ b o, R b { b with outbox := o } → Run.Sim R (f b) (g { b with outbox := o })) :
    Run.Sim R (get >>= f) (get >>= g) :=
  Run.Sim.get_bind fun b₁ b₂ hb => by
    obtain ⟨o, rfl⟩ : ∃ o, b₂ = { b₁ with outbox := o } := ⟨_, hR.alike hb⟩
    exact hfg b₁ o hb

/-! ### Replies and the steps that do not touch the state -/

/-- The replies in `c` and in `c` with its silent flag set to `s` keep `R`. -/
def RepliesSim (R : Bot → Bot → Prop) (c : Context) (s : Bool) : Prop :=
  ∀ t, Attempt.Sim R (reply c t) (reply { c with silent := s } t)

/-- A reply in a silent context sends nothing. -/
@[simp] theorem reply_of_silent (h : c.silent = true) (text : String) : reply c text = pure () := by
  simp [reply, h]

theorem notify_sim (hreply : RepliesSim R c s) (text : String) :
    Run.Sim R (notify c text) (notify { c with silent := s } text) :=
  Run.Sim.bind (hreply text) fun _ => Run.Sim.pure _

theorem confirm_sim (hreply : RepliesSim R c s) (text : String) :
    Attempt.Sim R (confirm c text) (confirm { c with silent := s } text) :=
  Attempt.Sim.bind (hreply text) fun _ => Attempt.Sim.pure _

theorem liftRegistry_sim {α : Type} (r : Except RegistryError α) :
    Attempt.Sim R (liftRegistry r) (liftRegistry r) := by
  cases r with
  | ok a => exact Attempt.Sim.pure a
  | error e => exact Attempt.Sim.throw _

theorem liftWords_sim {α : Type} (r : Except Words.WordsError α) :
    Attempt.Sim R (liftWords r) (liftWords r) := by
  cases r with
  | ok a => exact Attempt.Sim.pure a
  | error e => exact Attempt.Sim.throw _

theorem required_sim (args : List String) (i : Nat) (usage : String) :
    Attempt.Sim R (required args i usage) (required args i usage) := by
  unfold required
  split
  · exact Attempt.Sim.pure _
  · exact Attempt.Sim.throw _

theorem requiredRest_sim (args : List String) (i : Nat) (usage : String) :
    Attempt.Sim R (requiredRest args i usage) (requiredRest args i usage) := by
  unfold requiredRest
  dsimp only
  split
  · exact Attempt.Sim.throw _
  · exact Attempt.Sim.pure _

/-! ### Changes of the registry and of the word model -/

theorem updateRegistry_sim (hR : Frame R) {f : Registry → Except RegistryError Registry}
    (hf : ∀ r r', f r = .ok r' → r.EngineEdit r') :
    Attempt.Sim R (updateRegistry f) (updateRegistry f) := by
  unfold updateRegistry
  refine hR.get_bind fun b o hb => ?_
  dsimp only
  cases hfr : f b.registry with
  | error e => exact Attempt.Sim.throw_bind _
  | ok r' =>
    simp only [liftRegistry, pure_bind]
    exact Attempt.Related.set (hR.registry hb (hf _ _ hfr))

/-- The removal that deletion makes, from the states where it found a command that is not built
in under a name. -/
theorem removeCommand_related (hR : Frame R) {b : Bot} {o : List String} {name : String}
    {cmd : Command} (hb : R b { b with outbox := o }) (hc : b.registry.get? name = some cmd)
    (hnb : cmd.isBuiltin = false) :
    Attempt.Related (fun b₁ b₂ => b₁ = b ∧ b₂ = { b with outbox := o }) R
      (removeCommand cmd.name) (removeCommand cmd.name) := by
  unfold removeCommand
  refine Attempt.Related.get_bind fun b₁ b₂ hb₁₂ => ?_
  obtain ⟨rfl, rfl⟩ := hb₁₂
  dsimp only
  cases hr : b₁.registry.remove cmd.name with
  | error e => exact Attempt.Related.throw_bind (fun _ _ h => h.1 ▸ h.2 ▸ hb) _
  | ok p =>
    obtain ⟨removed, r'⟩ := p
    simp only [liftRegistry, pure_bind]
    exact Attempt.Related.bind
      (Attempt.Related.set (hR.removals _ (hR.registry hb (.remove hc hnb hr))))
      (fun _ => Attempt.Sim.pure _) fun _ _ h => h

theorem setChain_sim (hR : Frame R) (ch : Words.Chain) :
    Attempt.Sim R (WordCommands.setChain ch) (WordCommands.setChain ch) :=
  Attempt.Related.modify fun _ _ h => hR.chain ch h

/-! ### The built-in commands -/

section Builtins

theorem addTemplate_sim (hR : Frame R) (hreply : RepliesSim R c s) (args : List String) :
    Attempt.Sim R (Manage.addTemplate args c)
      (Manage.addTemplate args { c with silent := s }) := by
  unfold Manage.addTemplate
  refine Attempt.Sim.bind (required_sim _ _ _) fun _ => ?_
  refine Attempt.Sim.bind (requiredRest_sim _ _ _) fun _ => ?_
  refine hR.get_bind fun _ _ _ => ?_
  exact Attempt.Sim.bind (updateRegistry_sim hR fun _ _ h => .register _ h) fun _ =>
    confirm_sim hreply _

theorem addExternal_sim (hR : Frame R) (hreply : RepliesSim R c s) (args : List String) :
    Attempt.Sim R (Manage.addExternal args c)
      (Manage.addExternal args { c with silent := s }) := by
  unfold Manage.addExternal
  refine Attempt.Sim.bind (required_sim _ _ _) fun _ => ?_
  refine Attempt.Sim.bind (requiredRest_sim _ _ _) fun _ => ?_
  refine hR.get_bind fun _ _ _ => ?_
  exact Attempt.Sim.bind (updateRegistry_sim hR fun _ _ h => .register _ h) fun _ =>
    confirm_sim hreply _

theorem update_sim (hR : Frame R) (hreply : RepliesSim R c s) (args : List String) :
    Attempt.Sim R (Manage.update args c) (Manage.update args { c with silent := s }) := by
  unfold Manage.update
  refine Attempt.Sim.bind (required_sim _ _ _) fun _ => ?_
  refine Attempt.Sim.bind (requiredRest_sim _ _ _) fun _ => ?_
  exact Attempt.Sim.bind (updateRegistry_sim hR fun _ _ h => .updateBody _ _ h) fun _ =>
    confirm_sim hreply _

/-- Deletion reads the command a name stands for, refuses a built-in one, and removes it from
the state it read. -/
theorem delete_sim (hR : Frame R) (hreply : RepliesSim R c s) (args : List String) :
    Attempt.Sim R (Manage.delete args c) (Manage.delete args { c with silent := s }) := by
  unfold Manage.delete
  refine Attempt.Sim.bind (required_sim _ _ _) fun name => ?_
  refine Attempt.Related.get_bind fun b₁ b₂ hb => ?_
  obtain ⟨o, rfl⟩ : ∃ o, b₂ = { b₁ with outbox := o } := ⟨_, hR.alike hb⟩
  have hback : ∀ x y, (x = b₁ ∧ y = { b₁ with outbox := o }) → R x y :=
    fun _ _ h => h.1 ▸ h.2 ▸ hb
  dsimp only
  split
  · exact Attempt.Related.throw hback _
  · rename_i cmd hcmd
    split
    · exact Attempt.Related.throw_bind hback _
    · rename_i hnb
      exact Attempt.Related.bind (removeCommand_related hR hb hcmd (by simpa using hnb))
        (fun _ => confirm_sim hreply _) fun _ _ h => h

theorem addAlias_sim (hR : Frame R) (hreply : RepliesSim R c s) (args : List String) :
    Attempt.Sim R (Manage.addAlias args c) (Manage.addAlias args { c with silent := s }) := by
  unfold Manage.addAlias
  refine Attempt.Sim.bind (required_sim _ _ _) fun _ => ?_
  refine Attempt.Sim.bind (required_sim _ _ _) fun _ => ?_
  exact Attempt.Sim.bind (updateRegistry_sim hR fun _ _ h => .addAlias _ _ h) fun _ =>
    confirm_sim hreply _

theorem setLevel_sim (hR : Frame R) (hreply : RepliesSim R c s) (args : List String) :
    Attempt.Sim R (Manage.setLevel args c) (Manage.setLevel args { c with silent := s }) := by
  unfold Manage.setLevel
  refine Attempt.Sim.bind (required_sim _ _ _) fun _ => ?_
  refine Attempt.Sim.bind (required_sim _ _ _) fun _ => ?_
  split
  · exact Attempt.Sim.throw _
  · exact Attempt.Sim.bind (updateRegistry_sim hR fun _ _ h => .setLevel _ _ h) fun _ =>
      confirm_sim hreply _

theorem setTimeLimit_sim (hR : Frame R) (hreply : RepliesSim R c s) (args : List String) :
    Attempt.Sim R (Manage.setTimeLimit args c)
      (Manage.setTimeLimit args { c with silent := s }) := by
  unfold Manage.setTimeLimit
  refine Attempt.Sim.bind (required_sim _ _ _) fun _ => ?_
  refine Attempt.Sim.bind (required_sim _ _ _) fun _ => ?_
  split
  · exact Attempt.Sim.throw _
  · split
    · exact Attempt.Sim.throw _
    · refine Attempt.Sim.bind (updateRegistry_sim hR fun _ _ h => .setTimeLimit _ _ h)
        fun _ => ?_
      split <;> exact confirm_sim hreply _

theorem setPlatform_sim (hR : Frame R) (hreply : RepliesSim R c s) (enabled : Bool)
    (args : List String) :
    Attempt.Sim R (Manage.setPlatform enabled args c)
      (Manage.setPlatform enabled args { c with silent := s }) := by
  unfold Manage.setPlatform
  refine Attempt.Sim.bind (required_sim _ _ _) fun _ => ?_
  refine Attempt.Sim.bind (required_sim _ _ _) fun _ => ?_
  split
  · exact Attempt.Sim.throw _
  · split
    · exact Attempt.Sim.bind (updateRegistry_sim hR fun _ _ h => .enablePlatform _ _ h)
        fun _ => confirm_sim hreply _
    · exact Attempt.Sim.bind (updateRegistry_sim hR fun _ _ h => .disablePlatform _ _ h)
        fun _ => confirm_sim hreply _

theorem setSubcommand_sim (hR : Frame R) (hreply : RepliesSim R c s) (args : List String) :
    Attempt.Sim R (Manage.setSubcommand args c)
      (Manage.setSubcommand args { c with silent := s }) := by
  unfold Manage.setSubcommand
  refine Attempt.Sim.bind (required_sim _ _ _) fun _ => ?_
  refine Attempt.Sim.bind (required_sim _ _ _) fun _ => ?_
  split
  · exact Attempt.Sim.throw _
  · refine Attempt.Sim.bind (updateRegistry_sim hR fun _ _ h => .setSubcommand _ _ h)
      fun _ => ?_
    split <;> exact confirm_sim hreply _

theorem generate_sim (hR : Frame R) (hreply : RepliesSim R c s) (args : List String) :
    Attempt.Sim R (WordCommands.generate args c)
      (WordCommands.generate args { c with silent := s }) := by
  unfold WordCommands.generate
  refine hR.get_bind fun b o hb => ?_
  dsimp only
  exact Attempt.Sim.bind (Attempt.Related.set (hR.source _ hb)) fun _ => confirm_sim hreply _

theorem find_sim (hR : Frame R) (hreply : RepliesSim R c s) (args : List String) :
    Attempt.Sim R (WordCommands.find args c)
      (WordCommands.find args { c with silent := s }) := by
  unfold WordCommands.find
  refine Attempt.Sim.bind (requiredRest_sim _ _ _) fun _ => ?_
  refine hR.get_bind fun _ _ _ => ?_
  refine Attempt.Sim.bind (liftWords_sim _) fun _ => ?_
  split <;> exact confirm_sim hreply _

theorem deleteWords_sim (hR : Frame R) (hreply : RepliesSim R c s) (args : List String) :
    Attempt.Sim R (WordCommands.delete args c)
      (WordCommands.delete args { c with silent := s }) := by
  unfold WordCommands.delete
  refine Attempt.Sim.bind (requiredRest_sim _ _ _) fun _ => ?_
  refine hR.get_bind fun _ _ _ => ?_
  refine Attempt.Sim.bind (liftWords_sim _) fun _ => ?_
  exact Attempt.Sim.bind (setChain_sim hR _) fun _ => confirm_sim hreply _

theorem collect_sim (hR : Frame R) (hreply : RepliesSim R c s) :
    Attempt.Sim R (WordCommands.collect c)
      (WordCommands.collect { c with silent := s }) := by
  unfold WordCommands.collect
  refine hR.get_bind fun _ _ _ => ?_
  refine Attempt.Sim.bind (setChain_sim hR _) fun _ => ?_
  split <;> exact confirm_sim hreply _

theorem check_sim (hR : Frame R) (hreply : RepliesSim R c s) :
    Attempt.Sim R (WordCommands.check c)
      (WordCommands.check { c with silent := s }) := by
  unfold WordCommands.check
  refine hR.get_bind fun _ _ _ => ?_
  exact Attempt.Sim.bind (setChain_sim hR _) fun _ => confirm_sim hreply _

theorem stats_sim (hR : Frame R) (hreply : RepliesSim R c s) (args : List String) :
    Attempt.Sim R (WordCommands.stats args c)
      (WordCommands.stats args { c with silent := s }) := by
  unfold WordCommands.stats
  refine hR.get_bind fun _ _ _ => ?_
  split <;> exact confirm_sim hreply _

/-- Help answers the same, silenced or not: the list of usable commands reads the caller's level
and platform, not its silence. -/
theorem help_sim (hR : Frame R) (hreply : RepliesSim R c s) (args : List String) :
    Attempt.Sim R (Info.help args c) (Info.help args { c with silent := s }) := by
  unfold Info.help
  refine hR.get_bind fun _ _ _ => ?_
  dsimp only
  split
  · split
    · exact Attempt.Sim.throw _
    · exact confirm_sim hreply _
  · exact confirm_sim hreply _

/-- Every built-in command, run in `c` and in `c` with its silent flag set to `s`, keeps a
relation that the run's own changes and the two contexts' replies keep. -/
theorem Builtin.call_sim (hR : Frame R) (hreply : RepliesSim R c s) (bi : Builtin)
    (args : List String) :
    Attempt.Sim R (bi.call args c) (bi.call args { c with silent := s }) := by
  cases bi with
  | generate => exact generate_sim hR hreply args
  | findWords => exact find_sim hR hreply args
  | deleteWords => exact deleteWords_sim hR hreply args
  | collect => exact collect_sim hR hreply
  | check => exact check_sim hR hreply
  | stats => exact stats_sim hR hreply args
  | addTemplate => exact addTemplate_sim hR hreply args
  | addExternal => exact addExternal_sim hR hreply args
  | update => exact update_sim hR hreply args
  | delete => exact delete_sim hR hreply args
  | «alias» => exact addAlias_sim hR hreply args
  | setLevel => exact setLevel_sim hR hreply args
  | setTimeLimit => exact setTimeLimit_sim hR hreply args
  | enable => exact setPlatform_sim hR hreply true args
  | disable => exact setPlatform_sim hR hreply false args
  | setSubcommand => exact setSubcommand_sim hR hreply args
  | help => exact help_sim hR hreply args
  | recite => exact confirm_sim hreply _

end Builtins

/-! ### Processes and the expansion of references -/

/-- A process moves the clock, alike on both sides, whatever the messages delivered. -/
theorem runProcess_sim (hR : Frame R) (line : String) (deadline : Option Nat) :
    Attempt.Sim R (runProcess line deadline) (runProcess line deadline) := by
  unfold runProcess
  refine hR.get_bind fun b o hb => ?_
  dsimp only
  refine Attempt.Sim.bind (Attempt.Related.set (hR.clock _ hb)) fun _ => ?_
  split
  · exact Attempt.Sim.pure _
  · exact Attempt.Sim.throw _
  · exact Attempt.Related.throwCut (fun _ _ h => h) _

section Evaluation

mutual

theorem evalPiece_sim {eval₁ eval₂ : String → Run String}
    (h : ∀ line, Run.Sim R (eval₁ line) (eval₂ line)) :
    ∀ p, Run.Sim R (evalPiece eval₁ p) (evalPiece eval₂ p)
  | .char c => Run.Sim.pure [c]
  | .group _ _ body _ =>
    Run.Sim.bind (evalPieces_sim h body) fun _ => Run.Sim.pure _
  | .ref _ _ body closed => by
    refine Run.Sim.bind (evalPieces_sim h body) fun _ => ?_
    cases closed with
    | true => exact Run.Sim.bind (h _) fun _ => Run.Sim.pure _
    | false => exact Run.Sim.pure _

theorem evalPieces_sim {eval₁ eval₂ : String → Run String}
    (h : ∀ line, Run.Sim R (eval₁ line) (eval₂ line)) :
    ∀ ps, Run.Sim R (evalPieces eval₁ ps) (evalPieces eval₂ ps)
  | [] => Run.Sim.pure []
  | p :: ps =>
    Run.Sim.bind (evalPiece_sim h p) fun a =>
      Run.Sim.bind (evalPieces_sim h ps) fun b => Run.Sim.pure (a ++ b)

end

/-- Expanding references with two evaluators that keep `R` on every line keeps `R`: the scan is
the evaluation of the text's pieces, which calls the evaluators on the same lines in the same
order. -/
theorem expandRefs_sim {eval₁ eval₂ : String → Run String}
    (h : ∀ line, Run.Sim R (eval₁ line) (eval₂ line)) (text : String) :
    Run.Sim R (expandRefs eval₁ text) (expandRefs eval₂ text) := by
  unfold expandRefs
  split
  · rw [scanRefs_start_eq_evalPieces, scanRefs_start_eq_evalPieces]
    exact Run.Sim.bind (evalPieces_sim h _) fun _ => Run.Sim.pure _
  · exact Run.Sim.pure _

end Evaluation

/-! ### The engine, one level at a time -/

section Engine

variable {g : Nested}

/-- The runs one level below a run in `c` keep `R`. They run in the silenced context, which is
the same whatever the silent flag of `c`. -/
def NestedSim (R : Bot → Bot → Prop) (c : Context) (g : Nested) : Prop :=
  ∀ deadline line, Run.Sim R (g deadline c.silenced line) (g deadline c.silenced line)

/-- The replies of a silent context send nothing, so they keep every relation. -/
theorem RepliesSim.of_silent (h : c.silent = true) : RepliesSim R c true := fun t => by
  rw [reply_of_silent h, reply_of_silent rfl]
  exact Attempt.Sim.pure ()

/-- Evaluating a reference is the same, silenced or not: its line runs one level deeper, in the
same silenced context on both sides. -/
theorem evaluate_sim (hR : Frame R) (hreply : RepliesSim R c s) (hg : NestedSim R c g)
    (deadline : Option Nat) (safe : Bool) (line : String) :
    Run.Sim R (evaluate g deadline safe c line)
      (evaluate g deadline safe { c with silent := s } line) := by
  have hnotice : ∀ text, Run.Sim R (notify c text >>= fun _ => pure "")
      (notify { c with silent := s } text >>= fun _ => pure "") :=
    fun text => Run.Sim.bind (notify_sim hreply text) fun _ => Run.Sim.pure _
  unfold evaluate
  split
  · exact Run.Sim.pure _
  · refine hR.run_get_bind fun b o hb => ?_
    dsimp only
    split
    · exact hnotice _
    · split
      · exact hnotice _
      · split
        · exact hnotice _
        · refine Run.Sim.bind (hg deadline line) fun _ => ?_
          split <;> exact Run.Sim.pure _

theorem expandText_sim (hR : Frame R) (hreply : RepliesSim R c s) (hg : NestedSim R c g)
    (deadline : Option Nat) (safe : Bool) (tokens : List String) (text : String) :
    Run.Sim R (expandText g deadline safe c tokens text)
      (expandText g deadline safe { c with silent := s } tokens text) :=
  expandRefs_sim (evaluate_sim hR hreply hg deadline safe) _

theorem dispatch_sim (hR : Frame R) (hreply : RepliesSim R c s) (hg : NestedSim R c g)
    (deadline : Option Nat) (cmd : Command) (tokens : List String) :
    Attempt.Sim R (dispatch g deadline cmd tokens c)
      (dispatch g deadline cmd tokens { c with silent := s }) := by
  unfold dispatch
  split
  · exact Attempt.Sim.pure _
  · split
    · exact Builtin.call_sim hR hreply _ _
    · refine Attempt.Sim.bind (Attempt.Related.lift (expandText_sim hR hreply hg _ _ _ _))
        fun _ => ?_
      exact Attempt.Sim.bind (hreply _) fun _ => Attempt.Sim.pure _
    · refine Attempt.Sim.bind (Attempt.Related.lift (expandText_sim hR hreply hg _ _ _ _))
        fun _ => ?_
      refine Attempt.Sim.bind (runProcess_sim hR _ _) fun _ => ?_
      exact Attempt.Sim.bind (hreply _) fun _ => Attempt.Sim.pure _

theorem execute_sim (hR : Frame R) (hreply : RepliesSim R c s) (hg : NestedSim R c g)
    (deadline : Option Nat) (cmd : Command) (line : String) (tokens : List String) :
    Attempt.Sim R (execute g deadline cmd line tokens c)
      (execute g deadline cmd line tokens { c with silent := s }) := by
  unfold execute
  dsimp only
  split
  · exact Attempt.Sim.bind (Attempt.Sim.pure _) fun _ => dispatch_sim hR hreply hg _ _ _
  · refine Attempt.Sim.bind (Attempt.Related.lift (expandText_sim hR hreply hg _ _ _ _))
      fun _ => ?_
    exact Attempt.Sim.bind (Attempt.Sim.pure _) fun _ => dispatch_sim hR hreply hg _ _ _

/-- Running a line is the same, silenced or not: the platform and level checks read the caller's
transport and level, not its silence, and past them the invocation is counted and the command
runs under its time limit. -/
theorem tryRunWith_sim (hR : Frame R) (hreply : RepliesSim R c s) (hg : NestedSim R c g)
    (deadline : Option Nat) (line : String) :
    Attempt.Sim R (tryRunWith g deadline c line)
      (tryRunWith g deadline { c with silent := s } line) := by
  unfold tryRunWith
  dsimp only
  split
  · exact Attempt.Sim.pure _
  · refine hR.get_bind fun b o hb => ?_
    dsimp only
    split
    · exact Attempt.Sim.throw _
    · rename_i cmd hcmd
      refine Attempt.Related.ite (Attempt.Sim.throw_bind _)
        (Attempt.Related.ite (Attempt.Sim.throw_bind _) ?_)
      refine Attempt.Sim.bind
        (Attempt.Related.set (hR.registry hb (.recordInvocation _ _))) fun _ => ?_
      split
      · exact execute_sim hR hreply hg _ _ _ _
      · exact Attempt.Related.tryCatchCut (execute_sim hR hreply hg _ _ _ _)
          (fun _ => Attempt.Related.ite (Attempt.Sim.throw _)
            (Attempt.Related.throwCut (fun _ _ h => h) _)) fun _ _ h => h

theorem runWith_sim (hR : Frame R) (hreply : RepliesSim R c s) (hg : NestedSim R c g)
    (deadline : Option Nat) (line : String) :
    Run.Sim R (runWith g deadline c line) (runWith g deadline { c with silent := s } line) := by
  unfold runWith
  refine Run.Sim.bind (tryRunWith_sim hR hreply hg deadline line) fun _ => ?_
  split
  · exact Run.Sim.pure _
  · exact Run.Sim.bind (notify_sim hreply _) fun _ => Run.Sim.pure _

end Engine

/-! ### Whole runs -/

/-- Every level of the unrolled engine keeps `R`. The levels below the first run in silenced
contexts, where replies send nothing. -/
theorem unroll_sim (hR : Frame R) (n : Nat) :
    ∀ (c : Context) (s : Bool), RepliesSim R c s → ∀ deadline line,
      Run.Sim R (unroll idle n deadline c line)
        (unroll idle n deadline { c with silent := s } line) := by
  induction n with
  | zero => exact fun _ _ _ _ _ => Run.Sim.pure none
  | succ n ih =>
    intro c s hreply deadline line
    exact runWith_sim hR hreply
      (fun deadline' line' => ih c.silenced true (RepliesSim.of_silent rfl) deadline' line')
      deadline line

theorem levelsLeft_sim (hR : Frame R) :
    Run.Sim R (levelsLeft c) (levelsLeft { c with silent := s }) := by
  unfold levelsLeft
  exact hR.run_get_bind fun _ _ _ => Run.Sim.pure _

/-- **A run keeps every relation of `Frame` that its replies keep.** Run a line in `c` and in
`c` with its silent flag set to `s`, from states related by `R`: the runs give the same answer
and end in states related by `R`, provided the replies of the two contexts keep `R`. -/
theorem run_sim (hR : Frame R) (hreply : RepliesSim R c s) (line : String) :
    Run.Sim R (run c line) (run { c with silent := s } line) :=
  Run.Sim.bind (levelsLeft_sim hR) fun _ => unroll_sim hR _ c s hreply none line

/-- Handling a message keeps `R` as running its line does; learning from a text that is not a
command changes the word model alike on both sides. -/
theorem handleMessage_sim (hR : Frame R) (hreply : RepliesSim R c s) (text : String) :
    Run.Sim R (handleMessage c text) (handleMessage { c with silent := s } text) := by
  unfold handleMessage
  refine hR.run_get_bind fun b o hb => ?_
  dsimp only
  split
  · exact run_sim hR hreply _
  · split
    · exact Run.Sim.bind (Run.Related.set (hR.chain _ hb)) fun _ => Run.Sim.pure _
    · exact Run.Sim.pure _

/-! ### Invariants of the registry -/

section RegistryInvariants

variable {J : Registry → Prop}

/-- Equal states whose registry has the property `J`: a run that keeps this relation keeps `J`. -/
def RegistryHolds (J : Registry → Prop) (b₁ b₂ : Bot) : Prop :=
  b₂ = b₁ ∧ J b₁.registry

/-- A property of the registry that the engine's edits keep is kept by a run's own changes. -/
theorem Frame.registryHolds (hJ : ∀ {r r'}, J r → r.EngineEdit r' → J r') :
    Frame (RegistryHolds J) where
  alike := by
    rintro b₁ _ ⟨rfl, -⟩
    rfl
  registry := by
    rintro b₁ _ r ⟨rfl, h⟩ he
    exact ⟨rfl, hJ h he⟩
  removals := by
    rintro b₁ _ l ⟨rfl, h⟩
    exact ⟨rfl, h⟩
  chain := by
    rintro b₁ _ ch ⟨rfl, h⟩
    exact ⟨rfl, h⟩
  source := by
    rintro b₁ _ src ⟨rfl, h⟩
    exact ⟨rfl, h⟩
  clock := by
    rintro b₁ _ t ⟨rfl, h⟩
    exact ⟨rfl, h⟩

/-- A reply changes the messages delivered and nothing of the registry. -/
theorem RepliesSim.registryHolds (J : Registry → Prop) (c : Context) :
    RepliesSim (RegistryHolds J) c c.silent := fun t => by
  unfold reply
  refine Attempt.Related.ite (Attempt.Sim.pure ()) (Attempt.Related.ite ?_ (Attempt.Sim.throw _))
  exact Attempt.Related.modify fun b₁ b₂ h => ⟨by rw [h.1], h.2⟩

/-- **Every property of the registry that the engine's edits keep holds after a message**,
whatever the message and its context. -/
theorem handleMessage_keeps_registry (hJ : ∀ {r r'}, J r → r.EngineEdit r' → J r')
    (c : Context) (text : String) {b : Bot} (hb : J b.registry) :
    J ((handleMessage c text).run.run b).2.registry :=
  (handleMessage_sim (Frame.registryHolds hJ) (RepliesSim.registryHolds J c) text b b
    ⟨rfl, hb⟩).2.2

end RegistryInvariants

end Chatbot
