import Chatbot.Proofs.RegistryNames
import Chatbot.Proofs.RunEffects

/-!
# The built-in commands stay

A bot starts with the built-in commands installed: seventeen native operations, each bound
under its module, the `echo` template, and the alias `commands` of `help`. Whatever messages it
then handles, from any caller on any platform and any transport (one whose deliveries fail
included), every native operation stays registered under its own name with its own
implementation, and `commands` still stands for `help`. Of a native command only what the
management commands may set changes (the level it requires, its platforms, whether references
may run it, its time limit) and the count of its invocations.

The protection is spread over several checks: adding a command or an alias refuses a taken
name, replacing a body refuses a native one, and deletion refuses a native command after
resolving the name it was given. `Registry.KeepsBuiltins` collects what they protect, together
with the well-formedness of the registry that the checks rely on; each change a run can make to
the registry keeps it, and the traversal of the engine in `RunEffects` does the rest.

## What is proved

* `Registry.KeepsBuiltins.engineEdit`: every change a run makes to the registry keeps it.
* `Registry.keepsBuiltins_install`: the installed registry has it.
* `Bot.natives_stay_registered`: after any messages, every native operation is found under its
  name, changed at most in what may change, and `commands` resolves to `help`.
-/

namespace Chatbot

open Chatbot.Engine

/-- `c` is `c₀` with at most its level, its platforms, its subcommand flag, its time limit and
the count of its invocations changed. -/
structure Command.Reconfigures (c₀ c : Command) : Prop where
  /-- The same module. -/
  module : c.module = c₀.module
  /-- The same name. -/
  name : c.name = c₀.name
  /-- The same implementation. -/
  body : c.body = c₀.body
  /-- Expansion postponed alike. -/
  postponed : c.postponed = c₀.postponed
  /-- The same description. -/
  description : c.description = c₀.description

namespace Command.Reconfigures

variable {c₀ c c' : Command}

theorem refl (c : Command) : c.Reconfigures c := ⟨rfl, rfl, rfl, rfl, rfl⟩

theorem trans (h : c₀.Reconfigures c) (h' : c.Reconfigures c') : c₀.Reconfigures c' :=
  ⟨h'.module.trans h.module, h'.name.trans h.name, h'.body.trans h.body,
    h'.postponed.trans h.postponed, h'.description.trans h.description⟩

theorem isBuiltin_eq (h : c₀.Reconfigures c) : c.isBuiltin = c₀.isBuiltin := by
  simp only [Command.isBuiltin, Command.kind, h.body]

end Command.Reconfigures

/-- A native command has no text to replace. -/
theorem Command.withText_of_isBuiltin {c : Command} (h : c.isBuiltin = true) (t : String) :
    c.body.withText t = none := by
  unfold Command.isBuiltin Command.kind at h
  cases hb : c.body <;> simp_all [Body.kind, Body.withText]

/-- The native operations a bot starts with: the native commands of the installed registry,
each bound under its module. -/
def Builtin.natives : List Command := (Builtin.install {}).commands.filter (·.isBuiltin)

example : Builtin.natives.length = 17 := by decide

theorem Builtin.isBuiltin_of_mem_natives {c₀ : Command} (h : c₀ ∈ Builtin.natives) :
    c₀.isBuiltin = true :=
  (List.mem_filter.mp h).2

theorem Builtin.help_mem_natives : ∃ c₀ ∈ Builtin.natives, c₀.name = "help" := by decide

namespace Registry

variable {r r' : Registry} {c c' d : Command} {n : String}

/-- In a well-formed registry a command is the only one under its name. -/
theorem WellFormed.eq_of_name (h : r.WellFormed) (hc : c ∈ r.commands) (hd : d ∈ r.commands)
    (hn : c.name = d.name) : c = d := by
  have hc' := find?_of_mem h hc
  rw [hn, find?_of_mem h hd] at hc'
  exact (Option.some.inj hc').symm

/-! ### The invariant -/

/-- The registry is well formed, holds every native operation, changed at most in what may
change, and has the alias `commands` of `help`. -/
structure KeepsBuiltins (r : Registry) : Prop where
  /-- The registry is well formed. -/
  wellFormed : r.WellFormed
  /-- Every native operation is there. -/
  natives : ∀ c₀ ∈ Builtin.natives, ∃ c ∈ r.commands, c₀.Reconfigures c
  /-- `commands` stands for `help`. -/
  help_alias : ("commands", "help") ∈ r.aliases

namespace KeepsBuiltins

/-- A command that is not built in has no native operation's name. -/
theorem name_ne (h : r.KeepsBuiltins) (hc : c ∈ r.commands) (hnb : c.isBuiltin = false)
    {c₀ : Command} (h₀ : c₀ ∈ Builtin.natives) (hd : d ∈ r.commands)
    (hd₀ : c₀.Reconfigures d) :
    c.name ≠ d.name := by
  intro hn
  obtain rfl := h.wellFormed.eq_of_name hc hd hn
  rw [hd₀.isBuiltin_eq, Builtin.isBuiltin_of_mem_natives h₀] at hnb
  cases hnb

theorem register (h : r.KeepsBuiltins) (hr : r.register c = .ok r') : r'.KeepsBuiltins := by
  have hwf := h.wellFormed.register hr
  obtain ⟨-, -, rfl⟩ := register_eq_ok hr
  refine ⟨hwf, fun c₀ h₀ => ?_, h.help_alias⟩
  obtain ⟨d, hd, hd₀⟩ := h.natives c₀ h₀
  exact ⟨d, List.mem_append_left _ hd, hd₀⟩

/-- Putting a command in place of one under its name keeps the invariant, provided a native
command is only reconfigured. A native command put back under its own name is reconfigured at
most. -/
theorem put (h : r.KeepsBuiltins) (hc : c ∈ r.commands) (hname : c'.name = c.name)
    (hre : c.isBuiltin = true → c.Reconfigures c') :
    KeepsBuiltins { r with commands := putCommand r.commands c' } := by
  have hmem : c'.name ∈ r.commandNames := hname ▸ List.mem_map_of_mem hc
  refine ⟨h.wellFormed.put hmem, fun c₀ h₀ => ?_, h.help_alias⟩
  obtain ⟨d, hd, hd₀⟩ := h.natives c₀ h₀
  by_cases hn : d.name = c.name
  · obtain rfl := h.wellFormed.eq_of_name hd hc hn
    have hnative : d.isBuiltin = true :=
      hd₀.isBuiltin_eq.trans (Builtin.isBuiltin_of_mem_natives h₀)
    exact ⟨c', mem_putCommand_self _ _, hd₀.trans (hre hnative)⟩
  · exact ⟨d, mem_putCommand_of_ne hd (hname ▸ hn), hd₀⟩

theorem modify {f : Command → Except RegistryError Command} (h : r.KeepsBuiltins)
    (hf : ∀ c c', f c = .ok c' →
      c'.name = c.name ∧ (c.isBuiltin = true → c.Reconfigures c'))
    (hm : r.modify n f = .ok r') : r'.KeepsBuiltins := by
  obtain ⟨c, c', hc, hfc, rfl⟩ := modify_eq_ok hm
  exact h.put (find?_eq_some hc).1 (hf c c' hfc).1 (hf c c' hfc).2

/-- Removing a command that is not built in keeps the invariant: it is no native operation, and
the alias `commands` stands for a native one. A command's name is no alias, so it is the name the
removal resolves. -/
theorem remove {removed : Command} (h : r.KeepsBuiltins) (hget : r.get? n = some c)
    (hnb : c.isBuiltin = false) (hr : r.remove c.name = .ok (removed, r')) :
    r'.KeepsBuiltins := by
  have hwf := h.wellFormed.remove hr
  obtain ⟨-, rfl⟩ := remove_eq_ok hr
  have hc : c ∈ r.commands := (find?_eq_some hget).1
  have hkey : r.resolve c.name = c.name :=
    resolve_of_not_mem fun ha => h.wellFormed.disjoint _ ha (List.mem_map_of_mem hc)
  rw [hkey] at hwf ⊢
  refine ⟨hwf, fun c₀ h₀ => ?_, ?_⟩
  · obtain ⟨d, hd, hd₀⟩ := h.natives c₀ h₀
    have hne := h.name_ne hc hnb h₀ hd hd₀
    exact ⟨d, List.mem_filter.mpr ⟨hd, bne_iff_ne.mpr (Ne.symm hne)⟩, hd₀⟩
  · obtain ⟨c₀, h₀, hhelp⟩ := Builtin.help_mem_natives
    obtain ⟨d, hd, hd₀⟩ := h.natives c₀ h₀
    have hne : c.name ≠ "help" := hhelp ▸ hd₀.name ▸ h.name_ne hc hnb h₀ hd hd₀
    exact List.mem_filter.mpr ⟨h.help_alias, bne_iff_ne.mpr (Ne.symm hne)⟩

theorem addAlias {t : String} (h : r.KeepsBuiltins) (ha : r.addAlias n t = .ok r') :
    r'.KeepsBuiltins := by
  have hwf := h.wellFormed.addAlias ha
  obtain ⟨-, -, -, rfl⟩ := addAlias_eq_ok ha
  exact ⟨hwf, h.natives, List.mem_append_left _ h.help_alias⟩

theorem recordInvocation (h : r.KeepsBuiltins) (n : String) :
    (r.recordInvocation n).2.KeepsBuiltins := by
  rcases recordInvocation_cases r n with hr | ⟨c, hc, hr⟩
  · rw [hr]
    exact h
  · rw [hr]
    exact h.put (find?_eq_some hc).1 rfl fun _ => ⟨rfl, rfl, rfl, rfl, rfl⟩

/-- Every change a run makes to the registry keeps the built-in commands. The setters change one
of the fields a native command may change, never its name; a native body has no text, so an edit
of the text never replaces it. -/
theorem engineEdit (h : r.KeepsBuiltins) (he : r.EngineEdit r') : r'.KeepsBuiltins := by
  have hset : ∀ {n : String} {f : Command → Command} {r' : Registry},
      r.modify n (fun c => .ok (f c)) = .ok r' → (∀ c : Command, c.Reconfigures (f c)) →
        r'.KeepsBuiltins :=
    fun hm hf => h.modify (fun c c' hc => by cases hc; exact ⟨(hf c).name, fun _ => hf c⟩) hm
  cases he with
  | register c hr => exact h.register hr
  | updateBody name body hm =>
    refine h.modify (fun c c' hc => ?_) hm
    cases hw : c.body.withText body with
    | none => simp [hw] at hc
    | some b =>
      simp only [hw, Except.ok.injEq] at hc
      subst hc
      refine ⟨rfl, fun hnative => ?_⟩
      rw [Command.withText_of_isBuiltin hnative] at hw
      cases hw
  | addAlias name target ha => exact h.addAlias ha
  | setLevel name l hm => exact hset hm fun _ => ⟨rfl, rfl, rfl, rfl, rfl⟩
  | setTimeLimit name limit hm => exact hset hm fun _ => ⟨rfl, rfl, rfl, rfl, rfl⟩
  | enablePlatform name p hm => exact hset hm fun _ => ⟨rfl, rfl, rfl, rfl, rfl⟩
  | disablePlatform name p hm => exact hset hm fun _ => ⟨rfl, rfl, rfl, rfl, rfl⟩
  | setSubcommand name b hm => exact hset hm fun _ => ⟨rfl, rfl, rfl, rfl, rfl⟩
  | remove hget hnb hr => exact h.remove hget hnb hr
  | recordInvocation name => exact h.recordInvocation name

end KeepsBuiltins

/-- The registry a bot starts with keeps the built-in commands. -/
theorem keepsBuiltins_install : (Builtin.install {}).KeepsBuiltins :=
  ⟨⟨by decide, by decide, by decide, by decide, by decide, by decide⟩,
    fun c₀ h₀ => ⟨c₀, (List.mem_filter.mp h₀).1, .refl c₀⟩, by decide⟩

end Registry

/-! ### Any messages -/

/-- The state after handling messages one after another, each in its own context. -/
def Bot.afterMessages : Bot → List (Context × String) → Bot
  | b, [] => b
  | b, (ctx, text) :: msgs => Bot.afterMessages ((handleMessage ctx text).run.run b).2 msgs

/-- A property of the registry that the engine's edits keep holds after any messages. By
induction on the messages, each handled from the state the ones before it left. -/
theorem Bot.afterMessages_keeps_registry {J : Registry → Prop}
    (hJ : ∀ {r r'}, J r → r.EngineEdit r' → J r') (msgs : List (Context × String)) :
    ∀ {b : Bot}, J b.registry → J (b.afterMessages msgs).registry := by
  induction msgs with
  | nil => exact fun hb => hb
  | cons m msgs ih =>
    intro b hb
    exact ih (handleMessage_keeps_registry hJ m.1 m.2 hb)

/-- **The built-in commands stay.** Start a bot with any settings and runner and hand it any
messages, each from any caller in any context: every native operation is still found under its
own name, with its own implementation, module, description and way of expanding (only its
level, platforms, subcommand flag, time limit and count may have changed), and `commands` still
resolves to `help`. -/
theorem Bot.natives_stay_registered (s : Settings) (runner : Runner)
    (msgs : List (Context × String)) :
    let r := ((Bot.withBuiltins s runner).afterMessages msgs).registry
    (∀ c₀ ∈ Builtin.natives, ∃ c, r.find? c₀.name = some c ∧ c₀.Reconfigures c) ∧
      r.resolve "commands" = "help" := by
  intro r
  have hinit : (Bot.withBuiltins s runner).registry.KeepsBuiltins := by
    dsimp only [Bot.withBuiltins, Bot.bare]
    exact Registry.keepsBuiltins_install
  have h : r.KeepsBuiltins :=
    Bot.afterMessages_keeps_registry (J := Registry.KeepsBuiltins) (fun h he => h.engineEdit he)
      msgs hinit
  refine ⟨fun c₀ h₀ => ?_, Registry.resolve_of_mem h.wellFormed.aliases_nodup h.help_alias⟩
  obtain ⟨c, hc, hc₀⟩ := h.natives c₀ h₀
  exact ⟨c, hc₀.name ▸ Registry.find?_of_mem h.wellFormed hc, hc₀⟩

end Chatbot
