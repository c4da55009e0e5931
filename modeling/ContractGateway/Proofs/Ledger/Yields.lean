import ContractGateway.Ledger.Basic

/-!
# What processes yield

A process only ever adds to the history of its world. `Process.Yields process world spec` says that
it does when it runs in a world, and that the exchanges it adds meet a specification together
with its value and the world it leaves. Nothing need be said about the ledger, so a statement
for every world holds whatever the ledger answers.

There is one rule for each way a process is put together. `Yields.bind` hands the exchanges made
so far on to the rest of the process, in the world that it begins in.
-/

namespace ContractGateway

namespace Process

variable {σ α β : Type}

/--
Run in a world, the process adds exchanges to its history that meet the specification together
with its value and the world behind it.
-/
def Yields
    (process : Process σ α)
    (world : World σ)
    (spec : List Exchange → α → World σ → Prop) : Prop :=
  ∃ exchanges,
    (process world).2.history = world.history ++ exchanges ∧
      spec exchanges (process world).1 (process world).2

namespace Yields

variable {world : World σ}

theorem weaken
    {process : Process σ α}
    {strong weak : List Exchange → α → World σ → Prop}
    (yields : Yields process world strong)
    (weaker : ∀ exchanges value final, strong exchanges value final → weak exchanges value final) :
    Yields process world weak := by
  obtain ⟨exchanges, added, met⟩ := yields
  exact ⟨exchanges, added, weaker _ _ _ met⟩

/-- There is one list of exchanges that a process adds, so what is shown of it holds together. -/
theorem and
    {process : Process σ α}
    {first second : List Exchange → α → World σ → Prop}
    (yields : Yields process world first)
    (further : Yields process world second) :
    Yields process world fun exchanges value final =>
      first exchanges value final ∧ second exchanges value final := by
  obtain ⟨exchanges, added, met⟩ := yields
  obtain ⟨same, addedToo, metToo⟩ := further
  obtain rfl : exchanges = same := List.append_cancel_left (added.symm.trans addedToo)
  exact ⟨exchanges, added, met, metToo⟩

/-- What a process yields is its own value, in the world that it leaves. -/
theorem run_eq
    {process : Process σ α}
    {spec : List Exchange → α → World σ → Prop}
    (yields : Yields process world spec) :
    Yields process world fun exchanges value final =>
      process world = (value, final) ∧ spec exchanges value final := by
  obtain ⟨exchanges, added, met⟩ := yields
  exact ⟨exchanges, added, rfl, met⟩

theorem pure
    {value : α}
    {spec : List Exchange → α → World σ → Prop}
    (met : spec [] value world) :
    Yields (Pure.pure value : Process σ α) world spec :=
  ⟨[], by simp, met⟩

/-- The exchanges of a first part are followed by those of the rest. -/
theorem bind
    {process : Process σ α}
    {next : α → Process σ β}
    {first : List Exchange → α → World σ → Prop}
    {spec : List Exchange → β → World σ → Prop}
    (yields : Yields process world first)
    (rest :
      ∀ exchanges value middle,
        first exchanges value middle →
        Yields (next value) middle fun more result final =>
          spec (exchanges ++ more) result final) :
    Yields (process >>= next) world spec := by
  obtain ⟨exchanges, added, met⟩ := yields
  obtain ⟨more, addedMore, metMore⟩ := rest _ _ _ met
  refine ⟨exchanges ++ more, ?_, metMore⟩
  rw [bind_apply, addedMore, added, List.append_assoc]

/-- One call adds one exchange, with the answer that the ledger gives. -/
theorem ask
    (ledger : Ledger σ)
    (call : LedgerCall)
    (world : World σ) :
    Yields (ledger.ask call) world fun exchanges answer final =>
      exchanges = [⟨world.now, call, answer⟩] ∧
        answer = (ledger.answer call world.now world.ledger).1 ∧
        final = (ledger.ask call world).2 :=
  ⟨_, Ledger.history_ask ledger call world, rfl, rfl, rfl⟩

theorem now (world : World σ) :
    Yields (Process.now : Process σ Nat) world fun exchanges moment final =>
      exchanges = [] ∧ moment = world.now ∧ final = world :=
  ⟨[], by simp [Process.now], rfl, rfl, rfl⟩

theorem sleepUntil
    (moment : Nat)
    (world : World σ) :
    Yields (Process.sleepUntil moment : Process σ Unit) world fun exchanges _ final =>
      exchanges = [] ∧ final = { world with now := max world.now moment } :=
  ⟨[], by simp [Process.sleepUntil, World.history], rfl, rfl⟩

/-- What nobody cancels gives its value. -/
theorem uncancelled
    {process : Process σ α}
    {spec : List Exchange → α → World σ → Prop}
    (yields : Yields process world spec) :
    Yields (process.unlessCancelled none).run world fun exchanges result final =>
      ∃ value, result = some value ∧ spec exchanges value final := by
  obtain ⟨exchanges, added, met⟩ := yields
  exact ⟨exchanges, added, _, rfl, met⟩

/-- What has no way to be cancelled gives its value. -/
theorem lift
    {process : Process σ α}
    {spec : List Exchange → α → World σ → Prop}
    (yields : Yields process world spec) :
    Yields (OptionT.lift process).run world fun exchanges result final =>
      ∃ value, result = some value ∧ spec exchanges value final := by
  obtain ⟨exchanges, added, met⟩ := yields
  exact ⟨exchanges, added, _, rfl, met⟩

/-- A part that is not cancelled is followed by the rest. -/
theorem bindSome
    {process : OptionT (Process σ) α}
    {next : α → OptionT (Process σ) β}
    {first : List Exchange → α → World σ → Prop}
    {spec : List Exchange → Option β → World σ → Prop}
    (yields :
      Yields process.run world fun exchanges result final =>
        ∃ value, result = some value ∧ first exchanges value final)
    (rest :
      ∀ exchanges value middle,
        first exchanges value middle →
        Yields (next value).run middle fun more result final =>
          spec (exchanges ++ more) result final) :
    Yields (process >>= next).run world spec := by
  rw [OptionT.run_bind]
  apply yields.bind
  rintro exchanges _ middle ⟨value, rfl, met⟩
  exact rest exchanges value middle met

end Yields

end Process

end ContractGateway
