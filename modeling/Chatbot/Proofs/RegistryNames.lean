import Chatbot.Record
import Mathlib.Data.List.Nodup

/-!
# The names of the registry

Commands and aliases share one space of names. A registry is *well formed* when

* no two commands have one name, and no alias is given twice;
* no name is both a command's and an alias;
* every alias stands for the name of a command, so never for another alias or a missing name;
* every name and every alias is valid.

Every operation of the registry keeps it well formed, whether it succeeds or fails: adding a
command (it refuses a taken name), binding one (it drops an alias of that name), changing a
command's body, level, time limit, platforms or subcommand flag, counting an invocation, adding
an alias (it refuses a taken name and resolves its target first), removing a command (with
every alias of it) and importing records. An operation that fails leaves the registry as it
was and no removal observer reports anything.

On a well-formed registry a name resolves in one step, a name stands for a command exactly when
it is a command's name or an alias, and removing a command frees every name that stood for it.

## What is proved

* `Registry.WellFormed.perform`: every operation keeps a registry well formed.
* `Registry.perform_failure`: a failed operation changes nothing and reports nothing.
* `Registry.resolve_resolve`, `Registry.get?_isSome`, `Registry.find?_of_mem`,
  `Registry.remove_frees`: what well-formedness gives to lookups.
* `Registry.names_resolve_after_operations`: all of this after any sequence of operations from
  the empty registry.
-/

namespace Chatbot.Registry

open scoped List

/-! ### Names and lookups -/

/-- The names of the commands, in order. -/
def commandNames (r : Registry) : List String := r.commands.map (·.name)

/-- The aliases, in order. -/
def aliasNames (r : Registry) : List String := r.aliases.map (·.1)

/-- The shape that every operation keeps. -/
structure WellFormed (r : Registry) : Prop where
  /-- Each command is the only one under its name. -/
  names_nodup : r.commandNames.Nodup
  /-- Each alias is given once. -/
  aliases_nodup : r.aliasNames.Nodup
  /-- No alias is a command's name. -/
  disjoint : ∀ a ∈ r.aliasNames, a ∉ r.commandNames
  /-- Every alias stands for a command's name. -/
  targets : ∀ p ∈ r.aliases, p.2 ∈ r.commandNames
  /-- Every command's name is valid. -/
  valid_names : ∀ n ∈ r.commandNames, validName n = true
  /-- Every alias is valid. -/
  valid_aliases : ∀ a ∈ r.aliasNames, validName a = true

variable {r r' : Registry} {n : String} {c : Command}

theorem taken_iff : r.taken n = true ↔ n ∈ r.commandNames ∨ n ∈ r.aliasNames := by
  simp [taken, commandNames, aliasNames]

theorem find?_isSome_iff : (r.find? n).isSome = true ↔ n ∈ r.commandNames := by
  simp [find?, commandNames, List.find?_isSome]

theorem find?_eq_some (h : r.find? n = some c) : c ∈ r.commands ∧ c.name = n :=
  ⟨List.mem_of_find?_eq_some h, by simpa using List.find?_some h⟩

theorem mem_commandNames_of_find? (h : r.find? n = some c) : n ∈ r.commandNames :=
  find?_isSome_iff.mp (by simp [h])

/-- A name resolves to itself, unless it is an alias, which resolves to its entry. -/
theorem resolve_cases (r : Registry) (n : String) :
    (n ∉ r.aliasNames ∧ r.resolve n = n) ∨ (n, r.resolve n) ∈ r.aliases := by
  unfold resolve
  cases hl : r.aliases.lookup n with
  | none =>
    refine .inl ⟨fun hn => ?_, rfl⟩
    obtain ⟨p, hp, rfl⟩ := List.mem_map.mp hn
    have := List.lookup_eq_none_iff.mp hl p hp
    simp at this
  | some t =>
    obtain ⟨l₁, l₂, hsplit, -⟩ := List.lookup_eq_some_iff.mp hl
    exact .inr (by simp [hsplit])

/-- An alias given once resolves to its entry. -/
theorem resolve_of_mem (hnd : r.aliasNames.Nodup) {p : String × String} (hp : p ∈ r.aliases) :
    r.resolve p.1 = p.2 := by
  rcases resolve_cases r p.1 with ⟨hn, -⟩ | hq
  · exact absurd (List.mem_map_of_mem hp) hn
  · exact (List.inj_on_of_nodup_map hnd hq hp rfl |> congrArg Prod.snd)

theorem resolve_of_not_mem (h : n ∉ r.aliasNames) : r.resolve n = n := by
  rcases resolve_cases r n with ⟨-, hr⟩ | hq
  · exact hr
  · exact absurd (List.mem_map_of_mem hq) h

/-! ### Replacing a command -/

@[simp] theorem putCommand_names_of_mem {cs : List Command} (h : c.name ∈ cs.map (·.name)) :
    (putCommand cs c).map (·.name) = cs.map (·.name) := by
  have hany : cs.any (fun d => d.name == c.name) = true := by simpa using h
  rw [putCommand, if_pos hany, List.map_map]
  refine List.map_congr_left fun d _ => ?_
  by_cases hd : d.name = c.name <;> simp [hd]

@[simp] theorem putCommand_of_not_mem {cs : List Command} (h : c.name ∉ cs.map (·.name)) :
    putCommand cs c = cs ++ [c] := by
  have hany : cs.any (fun d => d.name == c.name) = false := by simpa using h
  rw [putCommand, if_neg (by simp [hany])]

@[grind →] theorem mem_putCommand {cs : List Command} {d : Command} (h : d ∈ putCommand cs c) :
    d = c ∨ d ∈ cs := by
  unfold putCommand at h
  split at h
  · obtain ⟨e, he, rfl⟩ := List.mem_map.mp h
    by_cases hn : e.name = c.name <;> simp [hn, he]
  · rcases List.mem_append.mp h with h | h
    · exact .inr h
    · exact .inl (List.mem_singleton.mp h)

@[simp, grind .]
theorem mem_putCommand_self (cs : List Command) (c : Command) : c ∈ putCommand cs c := by
  unfold putCommand
  split
  · rename_i hany
    obtain ⟨d, hd, hdn⟩ := List.any_eq_true.mp hany
    exact List.mem_map.mpr ⟨d, hd, by simp [beq_iff_eq.mp hdn]⟩
  · exact List.mem_append_right _ (List.mem_singleton_self c)

theorem mem_putCommand_of_ne {cs : List Command} {d : Command} (hd : d ∈ cs)
    (hn : d.name ≠ c.name) :
    d ∈ putCommand cs c := by
  unfold putCommand
  split
  · exact List.mem_map.mpr ⟨d, hd, by simp [hn]⟩
  · exact List.mem_append_left _ hd

/-! ### What a successful operation did -/

theorem register_eq_ok (h : r.register c = .ok r') :
    validName c.name = true ∧ r.taken c.name = false ∧
      r' = { r with commands := r.commands ++ [c] } := by
  unfold register checkName at h
  by_cases hv : validName c.name <;> by_cases ht : r.taken c.name <;>
    simp [hv, ht, bind, Except.bind, pure, Except.pure, throw, throwThe, MonadExceptOf.throw] at h
  exact ⟨hv, by simpa using ht, h.symm⟩

theorem insert_eq_ok {old : Option Command} (h : r.insert c = .ok (old, r')) :
    validName c.name = true ∧
      r' = { r with aliases := r.aliases.filter (fun a => a.1 != c.name),
                    commands := putCommand r.commands c } := by
  unfold insert checkName at h
  by_cases hv : validName c.name <;>
    simp [hv, bind, Except.bind, pure, Except.pure] at h
  exact ⟨hv, h.2.symm⟩

theorem modify_eq_ok {f : Command → Except RegistryError Command} (h : r.modify n f = .ok r') :
    ∃ c c', r.get? n = some c ∧ f c = .ok c' ∧
      r' = { r with commands := putCommand r.commands c' } := by
  unfold modify at h
  split at h
  · cases h
  · rename_i c hc
    cases hf : f c with
    | error e => simp [hf, bind, Except.bind] at h
    | ok c' =>
      simp only [hf, bind, Except.bind, pure, Except.pure, Except.ok.injEq] at h
      exact ⟨c, c', hc, hf, h.symm⟩

theorem remove_eq_ok {removed : Command} (h : r.remove n = .ok (removed, r')) :
    r.find? (r.resolve n) = some removed ∧
      r' = { r with commands := r.commands.filter (fun d => d.name != r.resolve n),
                    aliases := r.aliases.filter (fun a => a.2 != r.resolve n) } := by
  unfold remove at h
  dsimp only at h
  split at h
  · cases h
  · rename_i d hd
    simp only [pure, Except.pure, Except.ok.injEq, Prod.mk.injEq] at h
    obtain ⟨rfl, rfl⟩ := h
    exact ⟨hd, rfl⟩

theorem addAlias_eq_ok {t : String} (h : r.addAlias n t = .ok r') :
    validName n = true ∧ r.taken n = false ∧ (r.find? (r.resolve t)).isSome = true ∧
      r' = { r with aliases := r.aliases ++ [(n, r.resolve t)] } := by
  unfold addAlias checkName at h
  by_cases hv : validName n <;> by_cases ht : r.taken n <;>
    simp [hv, ht, bind, Except.bind, pure, Except.pure, throw, throwThe, MonadExceptOf.throw] at h
  split at h
  · cases h
  · rename_i d hd
    simp only [Except.ok.injEq] at h
    exact ⟨hv, by simpa using ht, by simp [hd], h.symm⟩

theorem recordInvocation_cases (r : Registry) (n : String) :
    (r.recordInvocation n).2 = r ∨ ∃ c, r.get? n = some c ∧
      (r.recordInvocation n).2 =
        { r with
          commands := putCommand r.commands { c with timesInvoked := c.timesInvoked + 1 } } := by
  unfold recordInvocation
  split
  · exact .inl rfl
  · rename_i c hc
    exact .inr ⟨c, hc, rfl⟩

/-! ### Each operation keeps the registry well formed -/

/-- Well-formedness depends only on the command names and the aliases. -/
theorem WellFormed.of_names (h : r.WellFormed) (hn : r'.commandNames = r.commandNames)
    (ha : r'.aliases = r.aliases) : r'.WellFormed := by
  have han : r'.aliasNames = r.aliasNames := by simp [aliasNames, ha]
  exact ⟨hn ▸ h.names_nodup, han ▸ h.aliases_nodup, hn ▸ han ▸ h.disjoint,
    ha ▸ hn ▸ h.targets, hn ▸ h.valid_names, han ▸ h.valid_aliases⟩

/-- Dropping aliases keeps a registry well formed. -/
theorem WellFormed.dropAliases (h : r.WellFormed) (keep : String × String → Bool) :
    WellFormed { r with aliases := r.aliases.filter keep } := by
  have hsub : List.Sublist ((r.aliases.filter keep).map (·.1)) r.aliasNames :=
    List.filter_sublist.map _
  exact ⟨h.names_nodup, hsub.nodup h.aliases_nodup,
    fun a ha => h.disjoint a (hsub.subset ha),
    fun p hp => h.targets p (List.mem_of_mem_filter hp), h.valid_names,
    fun a ha => h.valid_aliases a (hsub.subset ha)⟩

/-- A command under a valid name that is not taken can be added at the end. -/
theorem WellFormed.append (h : r.WellFormed) (hv : validName c.name = true)
    (ht : r.taken c.name = false) : WellFormed { r with commands := r.commands ++ [c] } := by
  have hfree : c.name ∉ r.commandNames ∧ c.name ∉ r.aliasNames := by
    rw [← not_or, ← taken_iff]
    simp [ht]
  have hn : commandNames { r with commands := r.commands ++ [c] } = r.commandNames ++ [c.name] := by
    simp [commandNames]
  refine ⟨?_, h.aliases_nodup, ?_, ?_, ?_, h.valid_aliases⟩
  · rw [hn, ← List.concat_eq_append]
    exact h.names_nodup.concat hfree.1
  · intro a ha
    rw [hn, List.mem_append, List.mem_singleton]
    rintro (h' | rfl)
    · exact h.disjoint a ha h'
    · exact hfree.2 ha
  · intro p hp
    rw [hn]
    exact List.mem_append_left _ (h.targets p hp)
  · intro m hm
    rw [hn, List.mem_append, List.mem_singleton] at hm
    rcases hm with hm | rfl
    · exact h.valid_names m hm
    · exact hv

/-- A command replaced under a name it already has keeps the registry well formed. -/
theorem WellFormed.put (h : r.WellFormed) (hc : c.name ∈ r.commandNames) :
    WellFormed { r with commands := putCommand r.commands c } :=
  h.of_names (putCommand_names_of_mem hc) rfl

theorem WellFormed.register (h : r.WellFormed) (hr : r.register c = .ok r') : r'.WellFormed := by
  obtain ⟨hv, ht, rfl⟩ := register_eq_ok hr
  exact h.append hv ht

/-- Inserting keeps a registry well formed: the aliases of the name go first, then the command
replaces the one of its name in place or is appended. -/
theorem WellFormed.insert {old : Option Command} (h : r.WellFormed)
    (hi : r.insert c = .ok (old, r')) : r'.WellFormed := by
  obtain ⟨hv, rfl⟩ := insert_eq_ok hi
  have hdrop := h.dropAliases fun a => a.1 != c.name
  by_cases hc : c.name ∈ r.commandNames
  · exact hdrop.put hc
  · have ht :
        taken { r with aliases := r.aliases.filter fun a => a.1 != c.name } c.name = false := by
      rw [Bool.eq_false_iff, ne_eq, taken_iff]
      rintro (hn | ha)
      · exact hc hn
      · obtain ⟨p, hp, hpn⟩ := List.mem_map.mp ha
        simp [hpn] at hp
    simpa [putCommand_of_not_mem hc] using hdrop.append hv ht

theorem WellFormed.modify {f : Command → Except RegistryError Command}
    (hf : ∀ c c', f c = .ok c' → c'.name = c.name) (h : r.WellFormed)
    (hm : r.modify n f = .ok r') : r'.WellFormed := by
  obtain ⟨c, c', hc, hfc, rfl⟩ := modify_eq_ok hm
  obtain ⟨-, hcn⟩ := find?_eq_some hc
  have hname : c.name ∈ r.commandNames := hcn ▸ mem_commandNames_of_find? hc
  exact h.put (hf c c' hfc ▸ hname)

/-- Removing keeps a registry well formed: an alias that is left stands for a command that is
left. -/
theorem WellFormed.remove {removed : Command} (h : r.WellFormed)
    (hr : r.remove n = .ok (removed, r')) : r'.WellFormed := by
  obtain ⟨-, rfl⟩ := remove_eq_ok hr
  have hsubN : List.Sublist ((r.commands.filter fun d => d.name != r.resolve n).map (·.name))
      r.commandNames := List.filter_sublist.map _
  have hsubA : List.Sublist ((r.aliases.filter fun a => a.2 != r.resolve n).map (·.1))
      r.aliasNames := List.filter_sublist.map _
  refine ⟨hsubN.nodup h.names_nodup, hsubA.nodup h.aliases_nodup,
    fun a ha ha' => h.disjoint a (hsubA.subset ha) (hsubN.subset ha'), ?_,
    fun m hm => h.valid_names m (hsubN.subset hm),
    fun a ha => h.valid_aliases a (hsubA.subset ha)⟩
  intro p hp
  obtain ⟨hp, hkey⟩ := List.mem_filter.mp hp
  obtain ⟨d, hd, hdn⟩ := List.mem_map.mp (h.targets p hp)
  exact List.mem_map.mpr ⟨d, List.mem_filter.mpr ⟨hd, by simpa [hdn] using hkey⟩, hdn⟩

theorem WellFormed.addAlias {t : String} (h : r.WellFormed) (ha : r.addAlias n t = .ok r') :
    r'.WellFormed := by
  obtain ⟨hv, ht, hfind, rfl⟩ := addAlias_eq_ok ha
  have hfree : n ∉ r.commandNames ∧ n ∉ r.aliasNames := by
    rw [← not_or, ← taken_iff]
    simp [ht]
  have hn :
      aliasNames { r with aliases := r.aliases ++ [(n, r.resolve t)] } = r.aliasNames ++ [n] := by
    simp [aliasNames]
  refine ⟨h.names_nodup, ?_, ?_, ?_, h.valid_names, ?_⟩
  · rw [hn, ← List.concat_eq_append]
    exact h.aliases_nodup.concat hfree.2
  · intro a ha
    rw [hn, List.mem_append, List.mem_singleton] at ha
    rcases ha with ha | rfl
    · exact h.disjoint a ha
    · exact hfree.1
  · intro p hp
    rcases List.mem_append.mp hp with hp | hp
    · exact h.targets p hp
    · rw [List.mem_singleton.mp hp]
      exact find?_isSome_iff.mp hfind
  · intro a ha
    rw [hn, List.mem_append, List.mem_singleton] at ha
    rcases ha with ha | rfl
    · exact h.valid_aliases a ha
    · exact hv

theorem WellFormed.recordInvocation (h : r.WellFormed) (n : String) :
    (r.recordInvocation n).2.WellFormed := by
  rcases recordInvocation_cases r n with hr | ⟨c, hc, hr⟩
  · rw [hr]
    exact h
  · obtain ⟨-, hcn⟩ := find?_eq_some hc
    rw [hr]
    exact h.put (hcn ▸ mem_commandNames_of_find? hc)

/-- Importing keeps a registry well formed: it binds one record after another. -/
theorem WellFormed.importRecords (h : r.WellFormed) (records : List Record) :
    (r.importRecords records).2.WellFormed := by
  suffices ∀ (acc : Nat × Registry), acc.2.WellFormed →
      (records.foldl importRecords.importOne acc).2.WellFormed from this (0, r) h
  induction records with
  | nil => exact fun _ hacc => hacc
  | cons rec rest ih =>
    intro acc hacc
    apply ih
    unfold importRecords.importOne
    split
    · exact hacc
    · split
      · rename_i hi
        exact hacc.insert hi
      · exact hacc

theorem wellFormed_empty : ({} : Registry).WellFormed := by
  constructor <;> simp [commandNames, aliasNames]

/-! ### Operations -/

/-- An operation on the registry, with its arguments. -/
inductive Op where
  /-- Add a command under a new name. -/
  | register (c : Command)
  /-- Bind a command to its name. -/
  | insert (c : Command)
  /-- Replace the text of a command. -/
  | updateBody (name body : String)
  /-- Remove a command with its aliases. -/
  | remove (name : String)
  /-- Add an alias for a command. -/
  | addAlias (name target : String)
  /-- Set the level a command requires. -/
  | setLevel (name : String) (l : Level)
  /-- Set or clear a command's time limit. -/
  | setTimeLimit (name : String) (s : Option UInt64)
  /-- Make a command available on a platform. -/
  | enablePlatform (name : String) (p : Platform)
  /-- Make a command unavailable on a platform. -/
  | disablePlatform (name : String) (p : Platform)
  /-- Allow or forbid a command inside references. -/
  | setSubcommand (name : String) (b : Bool)
  /-- Count one more invocation of a command. -/
  | recordInvocation (name : String)
  /-- Bind the commands of exported records. -/
  | importRecords (records : List Record)

/-- What an operation leaves: the registry, the error it failed with, if it failed, and what
the removal observers reported. -/
structure Outcome where
  /-- The registry after the operation. -/
  registry : Registry
  /-- Why the operation failed. -/
  failure : Option RegistryError := none
  /-- The reports of the removal observers. -/
  reports : List String := []

/-- The outcome of an operation that gives the new registry or fails. -/
def Outcome.ofExcept (r : Registry) : Except RegistryError Registry → Outcome
  | .ok r' => { registry := r' }
  | .error e => { registry := r, failure := some e }

/-- Perform an operation; a removal is reported to the observers. -/
def perform (r : Registry) : Op → Outcome
  | .register c => .ofExcept r (r.register c)
  | .insert c => .ofExcept r ((r.insert c).map (·.2))
  | .updateBody name body => .ofExcept r (r.updateBody name body)
  | .remove name =>
    match r.remove name with
    | .ok (c, r') => { registry := r', reports := r.removalReports c.name }
    | .error e => { registry := r, failure := some e }
  | .addAlias name target => .ofExcept r (r.addAlias name target)
  | .setLevel name l => .ofExcept r (r.setLevel name l)
  | .setTimeLimit name s => .ofExcept r (r.setTimeLimit name s)
  | .enablePlatform name p => .ofExcept r (r.enablePlatform name p)
  | .disablePlatform name p => .ofExcept r (r.disablePlatform name p)
  | .setSubcommand name b => .ofExcept r (r.setSubcommand name b)
  | .recordInvocation name => { registry := (r.recordInvocation name).2 }
  | .importRecords records => { registry := (r.importRecords records).2 }

/-- Perform operations one after another. -/
def performAll (r : Registry) (ops : List Op) : Registry :=
  ops.foldl (fun r op => (r.perform op).registry) r

/-- An operation that fails leaves the registry as it was, and nothing is reported. The observers
hear of a removal only once it has happened. -/
theorem perform_failure {op : Op} {e : RegistryError} (h : (r.perform op).failure = some e) :
    (r.perform op).registry = r ∧ (r.perform op).reports = [] := by
  have hof : ∀ x : Except RegistryError Registry, (Outcome.ofExcept r x).failure = some e →
      (Outcome.ofExcept r x).registry = r ∧ (Outcome.ofExcept r x).reports = [] := by
    intro x hx
    cases x with
    | ok r' => cases hx
    | error e' => exact ⟨rfl, rfl⟩
  cases op with
  | remove name =>
    cases hr : r.remove name with
    | ok p =>
      obtain ⟨c, r'⟩ := p
      simp [perform, hr] at h
    | error e' => simp [perform, hr]
  | recordInvocation name => cases h
  | importRecords records => cases h
  | register | insert | updateBody | addAlias | setLevel | setTimeLimit | enablePlatform
  | disablePlatform | setSubcommand => exact hof _ h

/-- Every operation keeps a registry well formed, whether it succeeds or fails. The setters
change one field of a command, never its name. -/
theorem WellFormed.perform (h : r.WellFormed) (op : Op) : (r.perform op).registry.WellFormed := by
  have hof : ∀ {x : Except RegistryError Registry}, (∀ r', x = .ok r' → r'.WellFormed) →
      (Outcome.ofExcept r x).registry.WellFormed := by
    intro x hx
    cases x with
    | ok r' => exact hx r' rfl
    | error e => exact h
  have hset : ∀ {n : String} {f : Command → Command} {r' : Registry},
      r.modify n (fun c => .ok (f c)) = .ok r' → (∀ c : Command, (f c).name = c.name) →
        r'.WellFormed :=
    fun hm hf => h.modify (fun c c' hc => by cases hc; exact hf c) hm
  cases op with
  | register c => exact hof fun r' hr => h.register hr
  | insert c =>
    refine hof fun r' hr => ?_
    cases hi : r.insert c with
    | ok p =>
      obtain ⟨old, r''⟩ := p
      simp only [hi, Except.map, Except.ok.injEq] at hr
      exact hr ▸ h.insert hi
    | error e => simp [hi, Except.map] at hr
  | updateBody name body =>
    refine hof fun r' hr => h.modify (fun c c' hc => ?_) hr
    split at hc
    · cases hc
      rfl
    · cases hc
  | remove name =>
    cases hr : r.remove name with
    | ok p =>
      obtain ⟨c, r'⟩ := p
      simp only [Registry.perform, hr]
      exact h.remove hr
    | error e =>
      simp only [Registry.perform, hr]
      exact h
  | addAlias name target => exact hof fun r' hr => h.addAlias hr
  | setLevel name l => exact hof fun r' hr => hset hr fun _ => rfl
  | setTimeLimit name s => exact hof fun r' hr => hset hr fun _ => rfl
  | enablePlatform name p => exact hof fun r' hr => hset hr fun _ => rfl
  | disablePlatform name p => exact hof fun r' hr => hset hr fun _ => rfl
  | setSubcommand name b => exact hof fun r' hr => hset hr fun _ => rfl
  | recordInvocation name => exact h.recordInvocation name
  | importRecords records => exact h.importRecords records

/-- Any sequence of operations keeps a registry well formed. -/
theorem WellFormed.performAll (h : r.WellFormed) (ops : List Op) :
    (r.performAll ops).WellFormed := by
  induction ops generalizing r with
  | nil => exact h
  | cons op ops ih => exact ih (h.perform op)

/-! ### What well-formedness gives to lookups -/

/-- A name resolves in one step: what it resolves to is no alias. -/
theorem resolve_resolve (h : r.WellFormed) (n : String) :
    r.resolve (r.resolve n) = r.resolve n := by
  apply resolve_of_not_mem
  rcases resolve_cases r n with ⟨hn, hr⟩ | hp
  · rw [hr]
    exact hn
  · exact fun ha => h.disjoint _ ha (h.targets _ hp)

/-- A name stands for a command exactly when it is a command's name or an alias. A name that is
no alias stands for the command of that name, if there is one; an alias stands for its entry,
which is a command's name. -/
theorem get?_isSome (h : r.WellFormed) (n : String) : (r.get? n).isSome = r.taken n := by
  rcases resolve_cases r n with ⟨hn, hr⟩ | hp
  · apply Bool.eq_iff_iff.mpr
    rw [get?, hr, find?_isSome_iff, taken_iff]
    simp [hn]
  · have h1 : (r.get? n).isSome = true := find?_isSome_iff.mpr (h.targets _ hp)
    have h2 : r.taken n = true := taken_iff.mpr (.inr (List.mem_map_of_mem hp))
    rw [h1, h2]

/-- Each command is found under its own name. -/
theorem find?_of_mem (h : r.WellFormed) (hc : c ∈ r.commands) : r.find? c.name = some c := by
  obtain ⟨d, hd⟩ := Option.isSome_iff_exists.mp (find?_isSome_iff.mpr (List.mem_map_of_mem hc))
  obtain ⟨hdm, hdn⟩ := find?_eq_some hd
  rw [hd, List.inj_on_of_nodup_map h.names_nodup hdm hc hdn]

/-- Removing a command frees every name that stood for it: its own and its aliases. A command
that is left kept a name that is no alias and was not removed, and an alias that is left stands
for another command. -/
theorem remove_frees (h : r.WellFormed) {removed : Command} (hr : r.remove n = .ok (removed, r'))
    {a : String} (ha : r.resolve a = removed.name) : r'.taken a = false := by
  obtain ⟨hfind, rfl⟩ := remove_eq_ok hr
  obtain ⟨-, hname⟩ := find?_eq_some hfind
  rw [Bool.eq_false_iff, ne_eq, taken_iff]
  rintro (hc | hal)
  · obtain ⟨d, hd, rfl⟩ := List.mem_map.mp hc
    obtain ⟨hd, hkey⟩ := List.mem_filter.mp hd
    have hself : r.resolve d.name = d.name :=
      resolve_of_not_mem fun hal => h.disjoint _ hal (List.mem_map_of_mem hd)
    have hkey' : d.name = r.resolve n := hself.symm.trans (ha.trans hname)
    simp [hkey'] at hkey
  · obtain ⟨p, hp, rfl⟩ := List.mem_map.mp hal
    obtain ⟨hp, hkey⟩ := List.mem_filter.mp hp
    have hentry : r.resolve p.1 = p.2 := resolve_of_mem h.aliases_nodup hp
    have hkey' : p.2 = r.resolve n := hentry.symm.trans (ha.trans hname)
    simp [hkey'] at hkey

/-- **Names stay sound under every sequence of operations.** After any operations from the
empty registry, successful or not, the registry is well formed: command names and aliases are
disjoint, each alias stands for a command's name, each command is found under its own name, and
all names are valid. An operation that fails changes nothing and reports no removal. So a name
resolves in one step, it stands for a command exactly when it is a command's name or an alias,
and a removal frees every name that stood for the removed command. -/
theorem names_resolve_after_operations (ops : List Op) :
    let r := ({} : Registry).performAll ops
    r.WellFormed ∧
      (∀ c ∈ r.commands, r.find? c.name = some c) ∧
      (∀ (r₀ : Registry) (op : Op) (e : RegistryError), (r₀.perform op).failure = some e →
        (r₀.perform op).registry = r₀ ∧ (r₀.perform op).reports = []) ∧
      (∀ n, r.resolve (r.resolve n) = r.resolve n) ∧
      (∀ n, (r.get? n).isSome = r.taken n) ∧
      (∀ n removed r', r.remove n = .ok (removed, r') →
        ∀ a, r.resolve a = removed.name → r'.taken a = false) := by
  intro r
  have h : r.WellFormed := wellFormed_empty.performAll ops
  exact ⟨h, fun c hc => find?_of_mem h hc, fun _ _ _ he => perform_failure he,
    resolve_resolve h, get?_isSome h, fun _ _ _ hr _ ha => remove_frees h hr ha⟩

end Chatbot.Registry
