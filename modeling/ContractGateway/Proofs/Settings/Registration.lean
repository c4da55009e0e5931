import ContractGateway.Proofs.Batch.Traffic
import ContractGateway.Settings
import Mathlib.Data.List.Induction
import Mathlib.Data.List.Nodup

/-!
# What a registry of settings holds

A registry keeps its entries in a list and, beside it, the place of each path. `Settings.Placed`
joins the two: the places are those at which the paths of the entries stand, so that no path stands
twice. A registration keeps this, whether it is of a new path, replaces an entry or is refused.

`Settings.after_holds` says what a registry holds after any registrations: the order of its entries,
the entry of each path, and how the entries are divided by kind and by proposal type.
-/

namespace ContractGateway

namespace Settings

/-- The paths of the entries, in their order. -/
def paths (settings : Settings) : List String := settings.entries.map (·.path)

/-- The places are those at which the paths of the entries stand. -/
def Placed (settings : Settings) : Prop :=
  ∀ path place, settings.places.lookup path = some place ↔ settings.paths[place]? = some path

variable {settings : Settings} {entry : SettingEntry} {path : String}

/-- An entry that is put in place of another one, or behind all others, leaves these as they are. -/
theorem eq_or_mem_of_mem_put
    {other : SettingEntry}
    (member : other ∈ (settings.put entry).entries) :
    other = entry ∨ other ∈ settings.entries := by
  unfold put at member
  split at member
  · exact (List.mem_or_eq_of_mem_set member).symm
  · rcases List.mem_append.mp member with known | last
    · exact .inr known
    · exact .inl (List.mem_singleton.mp last)

/-- The place of one path does not change those of the others. -/
theorem lookup_concat_of_ne
    {other : String}
    (different : path ≠ other)
    (places : List (String × Nat))
    (place : Nat) :
    (places ++ [(other, place)]).lookup path = places.lookup path := by
  rw [List.lookup_append, List.lookup_cons, beq_eq_false_iff_ne.mpr different]
  exact Option.or_none

namespace Placed

variable {place : Nat}

theorem empty : Placed {} := by
  simp [Placed, paths]

/-- Each path has one place, so it stands once. -/
theorem nodup (placed : settings.Placed) : settings.paths.Nodup := by
  rw [List.nodup_iff_getElem?_ne_getElem?]
  intro first second before inside same
  obtain ⟨path, standing⟩ : ∃ path, settings.paths[second]? = some path :=
    ⟨_, List.getElem?_eq_getElem inside⟩
  have here := (placed path second).mpr standing
  have there := (placed path first).mpr (same.trans standing)
  have alike : first = second := Option.some.inj (there.symm.trans here)
  omega

/-- A place that is found holds an entry. -/
theorem lt_of_lookup
    (placed : settings.Placed)
    (looked : settings.places.lookup path = some place) :
    place < settings.entries.length := by
  obtain ⟨inside, -⟩ := List.getElem?_eq_some_iff.mp ((placed path place).mp looked)
  rwa [paths, List.length_map] at inside

/-- A path without a place is not there. -/
theorem notMem_of_lookup
    (placed : settings.Placed)
    (missing : settings.places.lookup path = none) :
    path ∉ settings.paths := by
  intro member
  obtain ⟨place, standing⟩ := List.mem_iff_getElem?.mp member
  rw [(placed path place).mpr standing] at missing
  cases missing

/-- What is got for a path is the entry with that path. -/
theorem get_eq_some_iff
    (placed : settings.Placed)
    (path : String) :
    settings.get path = some entry ↔ entry ∈ settings.entries ∧ entry.path = path := by
  have standing (place : Nat) (found : settings.entries[place]? = some entry) :
      settings.paths[place]? = some entry.path := by
    rw [paths, List.getElem?_map, found]
    rfl
  rw [get, Option.bind_eq_some_iff]
  constructor
  · rintro ⟨place, looked, found⟩
    have own := (placed path place).mp looked
    rw [standing place found] at own
    exact ⟨List.mem_of_getElem? found, Option.some.inj own⟩
  · rintro ⟨member, rfl⟩
    obtain ⟨place, found⟩ := List.mem_iff_getElem?.mp member
    exact ⟨place, (placed _ place).mpr (standing place found), found⟩

theorem isSome_get_iff
    (placed : settings.Placed)
    (path : String) :
    (settings.get path).isSome = true ↔ path ∈ settings.paths := by
  rw [Option.isSome_iff_exists, paths, List.mem_map]
  simp only [placed.get_eq_some_iff]

/-- A path that is registered already keeps its place, and a new one comes last. -/
theorem paths_put
    (placed : settings.Placed)
    (entry : SettingEntry) :
    (settings.put entry).paths =
      settings.paths ++ if entry.path ∈ settings.paths then [] else [entry.path] := by
  unfold put
  split
  · rename_i place looked
    have standing := (placed _ _).mp looked
    obtain ⟨inside, own⟩ := List.getElem?_eq_some_iff.mp standing
    rw [if_pos (List.mem_of_getElem? standing), List.append_nil]
    calc (settings.entries.set place entry).map (·.path)
        = settings.paths.set place entry.path := List.map_set
      _ = settings.paths := by rw [← own, List.set_getElem_self]
  · rename_i missing
    rw [if_neg (placed.notMem_of_lookup missing)]
    exact List.map_append

/-- The places stay those of the paths, whether an entry replaces another one or comes last. -/
theorem put
    (placed : settings.Placed)
    (entry : SettingEntry) :
    (settings.put entry).Placed := by
  intro path place
  rw [placed.paths_put]
  unfold Settings.put
  split
  · rename_i looked
    have standing := List.mem_of_getElem? ((placed _ _).mp looked)
    rw [if_pos standing, List.append_nil]
    exact placed path place
  · rename_i missing
    have fresh := placed.notMem_of_lookup missing
    have count : settings.entries.length = settings.paths.length := (List.length_map _).symm
    rw [if_neg fresh, List.getElem?_append, count]
    by_cases new : path = entry.path
    · subst new
      have nowhere : settings.paths[place]? ≠ some entry.path :=
        fun standing => fresh (List.mem_of_getElem? standing)
      rw [List.lookup_append, missing, Option.none_or, List.lookup_cons_self, Option.some_inj]
      split
      · exact iff_of_false (by omega) nowhere
      · rw [List.getElem?_singleton]
        split
        · exact iff_of_true (by omega) rfl
        · exact iff_of_false (by omega) (by simp)
    · rw [lookup_concat_of_ne new, placed path place]
      split
      · rfl
      · have beyond : settings.paths[place]? = none := List.getElem?_eq_none (by omega)
        rw [beyond]
        simp [List.getElem?_singleton, Ne.symm new]

/-- An entry that is put is got for its path, and every other path keeps its entry. -/
theorem get_put
    (placed : settings.Placed)
    (entry : SettingEntry)
    (path : String) :
    (settings.put entry).get path =
      if path = entry.path then some entry else settings.get path := by
  unfold Settings.put Settings.get
  split
  · rename_i place looked
    split
    · rename_i same
      rw [same, looked]
      exact List.getElem?_set_self (placed.lt_of_lookup looked)
    · rename_i other
      refine Option.bind_congr fun held lookedHeld => ?_
      have apart : place ≠ held := by
        rintro rfl
        have standing := (placed _ _).mp looked
        have standingHeld := (placed _ _).mp lookedHeld
        exact other (Option.some.inj (standingHeld.symm.trans standing))
      exact List.getElem?_set_ne apart
  · rename_i missing
    split
    · rename_i same
      rw [same, List.lookup_append, missing, Option.none_or, List.lookup_cons_self]
      exact List.getElem?_concat_length
    · rename_i other
      rw [lookup_concat_of_ne other]
      refine Option.bind_congr fun held lookedHeld => ?_
      exact List.getElem?_append_left (placed.lt_of_lookup lookedHeld)

end Placed

end Settings

/-- A call that registers a path. -/
structure Registration where
  contract : Contract
  path : String
  kind : SettingKind

namespace Registration

/-- The contract declares the getter that settings of the kind are read with. -/
def succeeds (call : Registration) : Bool :=
  call.contract.methods.any (·.name = call.kind.getter)

/-- The entry binds the path of a call on its contract, as a field of its kind. -/
structure Binds (call : Registration) (entry : SettingEntry) : Prop where
  path_eq : entry.path = call.path
  kind_eq : entry.kind = call.kind
  contract_eq : entry.field.contract = call.contract
  getter_found :
    call.contract.methods.find? (·.name = call.kind.getter) = some entry.field.getter
  arguments_eq : entry.field.arguments = [.string call.path]
  setter_eq : entry.field.setter = none

/-- Makes the call. -/
def apply
    (call : Registration)
    (settings : Settings) : Except GatewayError SettingEntry × Settings :=
  settings.register call.contract call.path call.kind

variable {call : Registration} {entry : SettingEntry}

theorem Binds.succeeds (binds : call.Binds entry) : call.succeeds = true := by
  rw [Registration.succeeds, ← List.isSome_find?, binds.getter_found]
  rfl

/-- A call binds one entry only. -/
theorem Binds.unique
    {other : SettingEntry}
    (binds : call.Binds entry)
    (bindsToo : call.Binds other) :
    entry = other := by
  obtain ⟨path, kind, contract, getter, arguments, setter⟩ := entry
  obtain ⟨otherPath, otherKind, otherContract, otherGetter, otherArguments, otherSetter⟩ := other
  obtain ⟨rfl, rfl, rfl, found, rfl, rfl⟩ := binds
  obtain ⟨rfl, rfl, rfl, foundToo, rfl, rfl⟩ := bindsToo
  obtain rfl : getter = otherGetter := Option.some.inj (found.symm.trans foundToo)
  rfl

/-- What a call can do: it puts the entry that it binds, or it is refused and changes nothing. -/
theorem apply_cases
    (call : Registration)
    (settings : Settings) :
    (∃ entry, call.Binds entry ∧ call.apply settings = (.ok entry, settings.put entry)) ∨
      (call.succeeds = false ∧
        call.apply settings =
          (.error (.unknownMethod call.contract.name call.kind.getter), settings)) := by
  cases found : call.contract.methods.find? (·.name = call.kind.getter) with
  | some getter =>
      let field : Field call.kind.slotType :=
        { contract := call.contract, getter, arguments := [.string call.path] }
      have binds :
          SettingEntry.bind call.contract call.path call.kind =
            .ok ⟨call.path, call.kind, field⟩ := by
        rw [SettingEntry.bind, Field.bind, Contract.method, found]
        rfl
      refine .inl ⟨⟨call.path, call.kind, field⟩, ⟨rfl, rfl, rfl, found, rfl, rfl⟩, ?_⟩
      rw [apply, Settings.register, binds]
  | none =>
      have fails :
          SettingEntry.bind call.contract call.path call.kind =
            .error (.unknownMethod call.contract.name call.kind.getter) := by
        rw [SettingEntry.bind, Field.bind, Contract.method, found]
        rfl
      refine .inr ⟨?_, ?_⟩
      · rw [succeeds, ← List.isSome_find?, found]
        rfl
      · rw [apply, Settings.register, fails]

/-- A path that is registered is put as the entry that the call binds. -/
theorem binds_of_register
    {settings next : Settings}
    {contract : Contract}
    {path : String}
    {kind : SettingKind}
    (registers : settings.register contract path kind = (.ok entry, next)) :
    Binds ⟨contract, path, kind⟩ entry ∧ next = settings.put entry := by
  rcases apply_cases ⟨contract, path, kind⟩ settings with ⟨bound, binds, applied⟩ | ⟨-, refused⟩
  · cases registers.symm.trans applied
    exact ⟨binds, rfl⟩
  · cases registers.symm.trans refused

end Registration

/-- The last of the calls for a path that succeeded has bound an entry. -/
def LastBinds (calls : List Registration) (path : String) (entry : SettingEntry) : Prop :=
  ∃ before call after,
    calls = before ++ call :: after ∧
      call.path = path ∧
        call.Binds entry ∧ ∀ later ∈ after, later.path = path → later.succeeds = false

/-- One call more is the last one for its path, unless it fails. -/
theorem lastBinds_concat_iff
    {calls : List Registration}
    {last : Registration}
    {path : String}
    {entry : SettingEntry} :
    LastBinds (calls ++ [last]) path entry ↔
      last.path = path ∧ last.Binds entry ∨
        (last.path = path → last.succeeds = false) ∧ LastBinds calls path entry := by
  constructor
  · rintro ⟨before, call, after, split, own, binds, failed⟩
    rcases List.eq_nil_or_concat after with rfl | ⟨after, final, rfl⟩
    · obtain ⟨-, same⟩ := List.append_inj' split rfl
      obtain rfl : last = call := List.head_eq_of_cons_eq same
      exact .inl ⟨own, binds⟩
    · rw [List.concat_eq_append, ← List.cons_append, ← List.append_assoc] at split
      obtain ⟨rfl, same⟩ := List.append_inj' split rfl
      obtain rfl : last = final := List.head_eq_of_cons_eq same
      refine .inr ⟨failed last (by simp), before, call, after, rfl, own, binds, ?_⟩
      exact fun later member => failed later (by simp [member])
  · rintro (⟨own, binds⟩ | ⟨failed, before, call, after, rfl, own, binds, failedBefore⟩)
    · exact ⟨calls, last, [], rfl, own, binds, by simp⟩
    · refine ⟨before, call, after ++ [last], by simp, own, binds, fun later member => ?_⟩
      rcases List.mem_append.mp member with known | final
      · exact failedBefore later known
      · obtain rfl := List.mem_singleton.mp final
        exact failed

/-- Parts of a list, one for each class: the items of the class, in the order of the list. -/
structure Divides
    {item label : Type}
    (labelOf : item → label)
    (whole : List item)
    (part : label → List item) : Prop where
  sublist : ∀ label, (part label).Sublist whole
  disjoint : ∀ first second, first ≠ second → (part first).Disjoint (part second)
  mem_iff : ∀ label item, item ∈ part label ↔ item ∈ whole ∧ labelOf item = label

theorem divides_filter
    {item label : Type}
    [DecidableEq label]
    (labelOf : item → label)
    (whole : List item) :
    Divides labelOf whole fun label => whole.filter fun item => labelOf item = label where
  sublist _ := List.filter_sublist
  disjoint first second different item inFirst inSecond := by
    have here := of_decide_eq_true (List.mem_filter.mp inFirst).2
    have there := of_decide_eq_true (List.mem_filter.mp inSecond).2
    exact different (here.symm.trans there)
  mem_iff label item := by
    rw [List.mem_filter, decide_eq_true_eq]

namespace Settings

/-- What is registered by calls in order, from an empty registry on. -/
def after (calls : List Registration) : Settings :=
  calls.foldl (fun settings call => (call.apply settings).2) {}

theorem after_concat
    (calls : List Registration)
    (last : Registration) :
    after (calls ++ [last]) = (last.apply (after calls)).2 := by
  simp [after]

theorem placed_after (calls : List Registration) : (after calls).Placed := by
  induction calls using List.reverseRecOn with
  | nil =>
      exact .empty
  | append_singleton calls last inductionHypothesis =>
      rw [after_concat]
      rcases last.apply_cases (after calls) with ⟨entry, -, applied⟩ | ⟨-, applied⟩
      · rw [applied]
        exact inductionHypothesis.put entry
      · rw [applied]
        exact inductionHypothesis

/-- The paths stand in the order in which they were first registered with success. -/
theorem paths_after (calls : List Registration) :
    (after calls).paths = ((calls.filter (·.succeeds)).map (·.path)).eraseDups := by
  induction calls using List.reverseRecOn with
  | nil =>
      rfl
  | append_singleton calls last inductionHypothesis =>
      have placed := placed_after calls
      rw [after_concat, List.filter_append]
      rcases last.apply_cases (after calls) with ⟨entry, binds, applied⟩ | ⟨fails, applied⟩
      · rw [applied, List.filter_cons_of_pos binds.succeeds, List.filter_nil, List.map_append,
          List.map_singleton, eraseDups_append_singleton, placed.paths_put, inductionHypothesis,
          binds.path_eq]
        simp only [List.mem_eraseDups]
      · rw [applied, List.filter_cons_of_neg (by simp [fails]), List.filter_nil, List.append_nil]
        exact inductionHypothesis

/-- A path has the entry that the last successful call for it has bound. -/
theorem get_after_eq_some_iff
    (calls : List Registration)
    (path : String)
    (entry : SettingEntry) :
    (after calls).get path = some entry ↔ LastBinds calls path entry := by
  induction calls using List.reverseRecOn with
  | nil =>
      refine iff_of_false (by simp [after, get]) ?_
      rintro ⟨before, call, after, split, -⟩
      simp at split
  | append_singleton calls last inductionHypothesis =>
      have placed := placed_after calls
      rw [after_concat, lastBinds_concat_iff]
      rcases last.apply_cases (after calls) with ⟨bound, binds, applied⟩ | ⟨fails, applied⟩
      · rw [applied, placed.get_put, binds.path_eq]
        split
        · rename_i same
          rw [Option.some_inj]
          constructor
          · rintro rfl
            exact .inl ⟨same.symm, binds⟩
          · rintro (⟨-, bindsToo⟩ | ⟨fails, -⟩)
            · exact binds.unique bindsToo
            · cases (fails same.symm).symm.trans binds.succeeds
        · rename_i other
          have apart : ¬ last.path = path := fun same => other same.symm
          simp only [inductionHypothesis, apart, false_and, false_or, false_implies, true_and]
      · have unbound : ¬ last.Binds entry := fun binds => by cases fails.symm.trans binds.succeeds
        simp only [applied, inductionHypothesis, unbound, fails, and_false, false_or, implies_true,
          true_and]

/-- What a registry holds behind some calls, and what it answers to one more. -/
structure Holds (calls : List Registration) (settings : Settings) : Prop where
  /-- The entries and the places of their paths are in step, so the paths differ. -/
  placed : settings.Placed
  nodup : settings.paths.Nodup
  /-- The paths stand in the order in which they were first registered with success. -/
  paths_eq : settings.paths = ((calls.filter (·.succeeds)).map (·.path)).eraseDups
  entries_eq : settings.entries.map some = settings.paths.map settings.get
  isSome_get_iff :
    ∀ path,
      (settings.get path).isSome = true ↔
        ∃ call ∈ calls, call.succeeds = true ∧ call.path = path
  /-- A path has the entry that the last successful call for it has bound. -/
  get_eq_some_iff : ∀ path entry, settings.get path = some entry ↔ LastBinds calls path entry
  accepts :
    ∀ call : Registration,
      call.succeeds = true →
        ∃ entry next,
          call.apply settings = (.ok entry, next) ∧
            call.Binds entry ∧ next.get call.path = some entry
  refuses :
    ∀ call : Registration,
      call.succeeds = false →
        call.apply settings =
          (.error (.unknownMethod call.contract.name call.kind.getter), settings)
  byType : Divides (·.kind.proposalType) settings.entries settings.ofType
  byKind : Divides (·.kind) settings.entries settings.ofKind

/--
Whatever calls were made on an empty registry, in whatever order of new paths, replaced ones and
refusals, its entries stand in the order in which their paths were first registered with success,
and each path has the entry that the last successful call for it has bound. A call succeeds when the
contract declares the getter of the kind; else it is refused and changes nothing. By kind, and by
the way that proposals carry them, the entries fall into parts that keep their order.
-/
theorem after_holds (calls : List Registration) : Holds calls (after calls) := by
  have placed := placed_after calls
  have order := paths_after calls
  exact
    { placed
      nodup := placed.nodup
      paths_eq := order
      entries_eq := by
        rw [paths, List.map_map]
        refine List.map_congr_left fun entry member => ?_
        exact ((placed.get_eq_some_iff entry.path).mpr ⟨member, rfl⟩).symm
      isSome_get_iff := by
        intro path
        rw [placed.isSome_get_iff, order, List.mem_eraseDups, List.mem_map]
        simp only [List.mem_filter, and_assoc]
      get_eq_some_iff := get_after_eq_some_iff calls
      accepts := by
        intro call succeeds
        rcases call.apply_cases (after calls) with ⟨entry, binds, applied⟩ | ⟨fails, -⟩
        · refine ⟨entry, _, applied, binds, ?_⟩
          rw [placed.get_put, if_pos binds.path_eq.symm]
        · cases succeeds.symm.trans fails
      refuses := by
        intro call fails
        rcases call.apply_cases (after calls) with ⟨entry, binds, -⟩ | ⟨-, applied⟩
        · cases binds.succeeds.symm.trans fails
        · exact applied
      byType := divides_filter _ _
      byKind := divides_filter _ _ }

end Settings

end ContractGateway
