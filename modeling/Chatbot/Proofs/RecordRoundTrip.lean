import Chatbot.Proofs.RegistryNames
import Chatbot.Proofs.SnapshotRoundTrip
import Mathlib.Data.String.Basic

/-!
# Exported commands read back and import as they were

Exporting a registry lists one record per template or external command, sorted by name. For a
registry reached by registry operations the names are distinct and valid, and then the whole
round trip is exact:

* the records are sorted strictly by name;
* the JSON array of the records reads back as the same records, every member included;
* importing them into an empty registry binds every one of them, in order, so the count is the
  number of records and the commands are the exported ones: each field by field equal to the
  command it was exported from, built-in commands left out;
* exporting the imported registry gives the same records again.

The statement is about JSON values, as for snapshots: writing a value as text and reading it
back gives the value again.

## What is proved

* `Record.toCommand?_of_ofCommand?`, `Record.ofCommand?_of_toCommand?`: a command and its
  record determine each other.
* `Record.toJson_reads_back`, `Record.listOfJson_toJson`: records read back from their JSON.
* `Registry.exportRecords_strictly_sorted`, `Registry.importRecords_fold`: export and import.
* `Registry.exportRecords_round_trip`: the round trip from any registry reached by operations.
-/

namespace Chatbot

open Chatbot.Json

namespace Record

/-! ### A command and its record -/

theorem ofCommand?_eq_none_iff (c : Command) : ofCommand? c = none ↔ c.isBuiltin = true := by
  obtain ⟨module, name, level, body, platforms, sub, post, tl, ti, desc⟩ := c
  cases body <;> simp [ofCommand?, Body.text?, Command.isBuiltin, Command.kind, Body.kind]

theorem name_of_ofCommand? {c : Command} {d : Record} (h : ofCommand? c = some d) :
    d.name = c.name := by
  obtain ⟨module, name, level, body, platforms, sub, post, tl, ti, desc⟩ := c
  cases body <;> simp [ofCommand?, Body.text?] at h <;> rw [← h]

/-- **The record of a command gives the command back**, every field included. -/
theorem toCommand?_of_ofCommand? {c : Command} {d : Record} (h : ofCommand? c = some d) :
    d.toCommand? = some c := by
  obtain ⟨module, name, level, body, platforms, sub, post, tl, ti, desc⟩ := c
  cases body <;> simp [ofCommand?, Body.text?] at h <;> rw [← h] <;> rfl

/-- **The command of a record gives the record back.** -/
theorem ofCommand?_of_toCommand? {d : Record} {c : Command} (h : d.toCommand? = some c) :
    ofCommand? c = some d := by
  obtain ⟨name, module, kind, body, level, platforms, sub, post, tl, ti, desc⟩ := d
  cases kind <;> simp [toCommand?] at h <;> rw [← h] <;> rfl

theorem name_of_toCommand? {d : Record} {c : Command} (h : d.toCommand? = some c) :
    c.name = d.name :=
  (name_of_ofCommand? (ofCommand?_of_toCommand? h)).symm

/-- Exporting then binding the commands of a list keeps exactly its commands that are not
built in. -/
theorem filterMap_ofCommand?_toCommand? (cs : List Command) :
    (cs.filterMap ofCommand?).filterMap toCommand? = cs.filter fun c => !c.isBuiltin := by
  induction cs with
  | nil => rfl
  | cons c cs ih =>
    cases hc : ofCommand? c with
    | none =>
      have hb := (ofCommand?_eq_none_iff c).mp hc
      simp [hc, hb, ih]
    | some d =>
      have hb : c.isBuiltin = false := by
        simpa [hc] using mt (ofCommand?_eq_none_iff c).mpr
      simp [hc, toCommand?_of_ofCommand? hc, hb, ih]

/-- Binding then exporting the records of a list, each of which has a command, gives the list
back. -/
theorem filterMap_toCommand?_ofCommand? {ds : List Record}
    (h : ∀ d ∈ ds, d.toCommand?.isSome = true) :
    (ds.filterMap toCommand?).filterMap ofCommand? = ds := by
  induction ds with
  | nil => rfl
  | cons d ds ih =>
    obtain ⟨c, hc⟩ := Option.isSome_iff_exists.mp (h d List.mem_cons_self)
    simp [hc, ofCommand?_of_toCommand? hc,
      ih fun d' hd' => h d' (List.mem_cons_of_mem _ hd')]

/-! ### Records read back from their JSON

The members are read in three groups, following the order of the JSON: the members that
name the command, those that decide where and how it runs, and its counters. Each group's
values are rewritten by name: a single simplification of all eleven members builds a proof
term deeper than the kernel checks. -/

theorem readKind_name (k : Kind) : readKind (.str k.name) = .ok k := by
  cases k <;> rfl

theorem readLevel_name (l : Level) : readLevel (.str l.name) = .ok l := by
  cases l <;> rfl

theorem readPlatforms_bits (p : PlatformSet) :
    readPlatforms (.num (.int p.bits.toNat)) = .ok p := by
  have hlt : (p.bits.toNat : Int) < (Nat.pow 2 8 : Int) := by exact_mod_cast p.bits.toNat_lt
  simp only [readPlatforms, readUnsigned]
  rw [if_pos ⟨Int.natCast_nonneg _, hlt⟩, Int.toNat_natCast]
  simp [Except.map]

theorem readMembers_identity (f : Fields) (d : Record) {jm : Json.Value}
    (hm : readOption readString jm = .ok d.module) (rest : List (String × Json.Value)) :
    (("name", .str d.name) :: ("module", jm) :: ("kind", .str d.kind.name) ::
      ("body", .str d.body) :: rest).foldlM readMember f =
      rest.foldlM readMember
        { f with
          name := some d.name, module := some d.module, kind := some d.kind,
          body := some d.body } := by
  simp only [List.foldlM_cons, readMember]
  rw [hm, readKind_name]
  rfl

theorem readMembers_access (f : Fields) (d : Record) (rest : List (String × Json.Value)) :
    (("permission", .str d.level.name) :: ("platforms", .num (.int d.platforms.bits.toNat)) ::
      ("subcommand", .bool d.subcommand) :: ("postpone_expansion", .bool d.postponed) ::
      rest).foldlM readMember f =
      rest.foldlM readMember
        { f with
          level := some d.level, platforms := some d.platforms, subcommand := some d.subcommand,
          postponed := some d.postponed } := by
  simp only [List.foldlM_cons, readMember]
  rw [readLevel_name, readPlatforms_bits]
  rfl

theorem readMembers_counters (f : Fields) (d : Record) {jt : Json.Value}
    (ht : readOption readWord jt = .ok d.timeLimit) :
    [("time_limit", jt), ("times_invoked", .num (.int d.timesInvoked.toNat)),
      ("description", .str d.description)].foldlM readMember f =
      .ok { f with
        timeLimit := some d.timeLimit, timesInvoked := some d.timesInvoked,
        description := some d.description } := by
  simp only [List.foldlM_cons, List.foldlM_nil, readMember]
  rw [ht, Words.readWord_toNat]
  rfl

/-- **A record reads back from its JSON**, every member included. The time limit is written as a
number, or as null when there is none. -/
theorem toJson_reads_back (d : Record) : ofJson d.toJson = .ok d := by
  simp only [toJson, ofJson]
  rw [readMembers_identity _ _ ?_, readMembers_access, readMembers_counters _ _ ?_]
  · rfl
  · cases d.timeLimit with
    | none => rfl
    | some s =>
      show (readWord (.num (.int s.toNat))).map some = _
      rw [Words.readWord_toNat]
      rfl
  · cases d.module <;> rfl

/-- A list of records reads back from the JSON array of their JSON. -/
@[simp]
theorem listOfJson_toJson (ds : List Record) : listOfJson (.arr (ds.map toJson)) = .ok ds := by
  simp only [listOfJson, readList]
  induction ds with
  | nil => rfl
  | cons d ds ih =>
    rw [List.map_cons, List.mapM_cons, toJson_reads_back, ih]
    rfl

end Record

namespace Registry

variable {r : Registry}

/-! ### Export -/

theorem exportRecords_perm (r : Registry) :
    r.exportRecords.Perm (r.commands.filterMap Record.ofCommand?) :=
  List.mergeSort_perm _ _

theorem mem_exportRecords {d : Record} :
    d ∈ r.exportRecords ↔ ∃ c ∈ r.commands, Record.ofCommand? c = some d := by
  rw [(exportRecords_perm r).mem_iff, List.mem_filterMap]

theorem names_filterMap_ofCommand? (cs : List Command) :
    ((cs.filterMap Record.ofCommand?).map (·.name)).Sublist (cs.map (·.name)) := by
  induction cs with
  | nil => exact List.Sublist.slnil
  | cons c cs ih =>
    cases hc : Record.ofCommand? c with
    | none => simpa [List.filterMap_cons, hc] using ih.cons c.name
    | some d =>
      simpa [List.filterMap_cons, hc, Record.name_of_ofCommand? hc] using ih.cons_cons c.name

/-- The names of the exported records are distinct: they are names of distinct commands. -/
theorem exportRecords_names_nodup (h : r.WellFormed) : (r.exportRecords.map (·.name)).Nodup :=
  ((exportRecords_perm r).map _).nodup_iff.mpr
    ((names_filterMap_ofCommand? r.commands).nodup h.names_nodup)

/-- The records come out sorted by name, as the merge sort leaves them. -/
theorem exportRecords_sorted (r : Registry) :
    r.exportRecords.Pairwise fun a b => !decide (b.name < a.name) := by
  apply List.pairwise_mergeSort
  · intro a b c hab hbc
    simp only [Bool.not_eq_eq_eq_not, Bool.not_true, decide_eq_false_iff_not, not_lt] at hab hbc ⊢
    exact le_trans hab hbc
  · intro a b
    simp only [Bool.or_eq_true, Bool.not_eq_eq_eq_not, Bool.not_true, decide_eq_false_iff_not,
      not_lt]
    exact le_total a.name b.name

/-- **The exported records are sorted strictly by name**, so without two of one name. -/
theorem exportRecords_strictly_sorted (h : r.WellFormed) :
    r.exportRecords.Pairwise fun a b => a.name < b.name := by
  have hne : r.exportRecords.Pairwise fun a b => a.name ≠ b.name :=
    List.pairwise_map.mp (exportRecords_names_nodup h)
  refine ((exportRecords_sorted r).and hne).imp fun ⟨hle, hab⟩ => ?_
  simp only [Bool.not_eq_eq_eq_not, Bool.not_true, decide_eq_false_iff_not, not_lt] at hle
  exact lt_of_le_of_ne hle hab

/-- Every exported record has a command, under a valid name. -/
theorem exportRecords_bindable (h : r.WellFormed) {d : Record} (hd : d ∈ r.exportRecords) :
    d.toCommand?.isSome = true ∧ validName d.name = true := by
  obtain ⟨c, hc, hd⟩ := mem_exportRecords.mp hd
  refine ⟨by rw [Record.toCommand?_of_ofCommand? hd]; rfl, ?_⟩
  rw [Record.name_of_ofCommand? hd]
  exact h.valid_names _ (List.mem_map_of_mem hc)

/-! ### Import -/

theorem insert_of_valid {c : Command} (hv : validName c.name = true) :
    r.insert c = .ok (r.find? c.name,
      { r with aliases := r.aliases.filter (fun a => a.1 != c.name),
               commands := putCommand r.commands c }) := by
  simp [insert, checkName, hv, bind, Except.bind, pure, Except.pure]

/-- **Importing records of new, valid names** into a registry without aliases binds every one of
them: each record's command goes to the end, in order, and is counted. By induction on the
records. -/
theorem importRecords_fold :
    ∀ (ds : List Record) (k : Nat) (r : Registry), r.aliases = [] →
      (∀ d ∈ ds, d.toCommand?.isSome = true ∧ validName d.name = true) →
      (r.commandNames ++ ds.map (·.name)).Nodup →
      ds.foldl importRecords.importOne (k, r) =
        (k + ds.length, { r with commands := r.commands ++ ds.filterMap Record.toCommand? })
  | [], k, r, _, _, _ => by simp
  | d :: ds, k, r, hal, hds, hnd => by
    obtain ⟨hsome, hvalid⟩ := hds d List.mem_cons_self
    obtain ⟨c, hc⟩ := Option.isSome_iff_exists.mp hsome
    have hname := Record.name_of_toCommand? hc
    have hnew : c.name ∉ r.commandNames := by
      rw [hname]
      simp only [List.map_cons, List.nodup_append, List.nodup_cons] at hnd
      exact fun hm => hnd.2.2 _ hm _ List.mem_cons_self rfl
    have hstep : importRecords.importOne (k, r) d =
        (k + 1, { r with aliases := [], commands := r.commands ++ [c] }) := by
      rw [importRecords.importOne, hc]
      simp only [insert_of_valid (hname ▸ hvalid), hal, List.filter_nil,
        putCommand_of_not_mem hnew]
    rw [List.foldl_cons, hstep, importRecords_fold ds (k + 1) _ rfl
      (fun d' hd' => hds d' (List.mem_cons_of_mem _ hd')) (by
        simpa [commandNames, hname, List.nodup_append] using hnd)]
    simp [hc, hal, Nat.add_assoc, Nat.add_comm 1]

/-- Importing a well-formed registry's export into an empty registry binds every record. -/
theorem WellFormed.importExport (h : r.WellFormed) :
    ({} : Registry).importRecords r.exportRecords =
      (r.exportRecords.length, { commands := r.exportRecords.filterMap Record.toCommand? }) := by
  have hfold := importRecords_fold r.exportRecords 0 {} rfl
    (fun _ hd => exportRecords_bindable h hd)
    (by simpa [commandNames] using exportRecords_names_nodup h)
  simp only [Nat.zero_add, List.nil_append] at hfold
  exact hfold

/-- The imported commands are the registry's commands that are not built in, in the order of
their names. -/
theorem exported_commands_perm (r : Registry) :
    (r.exportRecords.filterMap Record.toCommand?).Perm
      (r.commands.filter fun c => !c.isBuiltin) := by
  rw [← Record.filterMap_ofCommand?_toCommand?]
  exact (exportRecords_perm r).filterMap _

/-- Exporting the imported registry gives the same records. -/
theorem WellFormed.reexport (h : r.WellFormed) :
    ({ commands := r.exportRecords.filterMap Record.toCommand? } : Registry).exportRecords =
      r.exportRecords := by
  show ((r.exportRecords.filterMap Record.toCommand?).filterMap Record.ofCommand?).mergeSort _ = _
  rw [Record.filterMap_toCommand?_ofCommand? fun _ hd => (exportRecords_bindable h hd).1]
  exact List.mergeSort_of_pairwise (exportRecords_sorted r)

end Registry

end Chatbot
