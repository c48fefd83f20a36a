import SymbolIndex.Log

/-! What jobs come to: the steps of one that succeeds succeed one after another. -/
namespace SymbolIndex
variable {α β : Type}

section Steps
variable {ε : Type} {first : Except ε α} {next : α → Except ε β}

theorem exceptBind_eq_ok {b : β} :
    first >>= next = .ok b ↔ ∃ a, first = .ok a ∧ next a = .ok b := by
  cases first <;> simp [bind, Except.bind]

theorem exceptBind_eq_error {error : ε} : first >>= next = .error error ↔
    first = .error error ∨ ∃ a, first = .ok a ∧ next a = .error error := by
  cases first <;> simp [bind, Except.bind]

theorem exceptMap_eq_ok {f : α → β} {b : β} :
    first.map f = .ok b ↔ ∃ a, first = .ok a ∧ f a = b := by
  cases first <;> simp [Except.map]

theorem exceptMap_eq_error {f : α → β} {error : ε} :
    first.map f = .error error ↔ first = .error error := by
  cases first <;> simp [Except.map]

theorem mapError_eq_ok {ε' : Type} {convert : ε → ε'} {a : α} :
    first.mapError convert = .ok a ↔ first = .ok a := by
  cases first with
  | error cause => exact ⟨nofun, nofun⟩
  | ok _ => exact ⟨fun same => congrArg _ (Except.ok.inj same), fun same => congrArg _ (Except.ok.inj same)⟩

end Steps

namespace Job
variable {job : Job α} {next : α → Job β} {world last : World} {a : α} {b : β}
  {failure : Failure}

/-- The result of a job in a world, and the world it leaves. -/
def outcome (job : Job α) (world : World) : Except Failure α × World :=
  (ExceptT.run job).run world

theorem run_eq_outcome (job : Job α) (host : Host) : job.run host = job.outcome ⟨host, []⟩ := rfl

theorem outcome_pure (a : α) (world : World) : outcome (pure a) world = (.ok a, world) := rfl

theorem outcome_bind (job : Job α) (next : α → Job β) (world : World) :
    outcome (job >>= next) world =
      match outcome job world with
      | (.ok a, middle) => outcome (next a) middle
      | (.error failure, middle) => (.error failure, middle) := by
  simp only [outcome, ExceptT.run_bind, StateT.run_bind]
  cases StateT.run (ExceptT.run job) world with
  | mk result middle => cases result <;> rfl

theorem bind_eq_ok : outcome (job >>= next) world = (.ok b, last) ↔
    ∃ a middle, outcome job world = (.ok a, middle) ∧ outcome (next a) middle = (.ok b, last) := by
  rw [outcome_bind]
  constructor
  · intro done
    split at done
    · rename_i a middle first
      exact ⟨a, middle, first, done⟩
    · cases done
  · rintro ⟨a, middle, first, done⟩
    rw [first]
    exact done

/-- A job fails in its first step, or after it. -/
theorem bind_eq_error : outcome (job >>= next) world = (.error failure, last) ↔
    outcome job world = (.error failure, last) ∨
      ∃ a middle, outcome job world = (.ok a, middle) ∧
        outcome (next a) middle = (.error failure, last) := by
  rw [outcome_bind]
  constructor
  · intro failed
    split at failed
    · rename_i a middle first
      exact Or.inr ⟨a, middle, first, failed⟩
    · rename_i other middle first
      obtain ⟨same, rfl⟩ := Prod.mk.inj failed
      obtain rfl := Except.error.inj same
      exact Or.inl first
  · rintro (failed | ⟨a, middle, first, failed⟩)
    · rw [failed]
    · rw [first]
      exact failed

theorem outcome_throw (failure : Failure) (world : World) :
    outcome (throw failure : Job α) world = (.error failure, world) := rfl

theorem outcome_report (level : LogLevel) (logger : String) (message : Text) (world : World) :
    outcome (report level logger message) world =
      (.ok (), { world with log := world.log ++ [⟨level, logger.toList, message⟩] }) := rfl

theorem outcome_host (world : World) : outcome Job.host world = (.ok world.host, world) := rfl

theorem host_bind (next : Host → Job β) (world : World) :
    outcome (Job.host >>= next) world = outcome (next world.host) world := rfl

/-- What fails is handled in the world that it left. -/
theorem outcome_tryCatch (job : Job α) (handler : Failure → Job α) (world : World) :
    outcome (tryCatch job handler) world =
      match outcome job world with
      | (.ok a, last) => (.ok a, last)
      | (.error failure, last) => outcome (handler failure) last := by
  have ran : StateT.run job world = (pure (outcome job world) : Id _) := rfl
  rw [outcome]
  simp only [tryCatch, tryCatchThe, MonadExceptOf.tryCatch, ExceptT.tryCatch, ExceptT.run_mk,
    StateT.run_bind, ran, pure_bind]
  rcases outcome job world with ⟨_ | _, _⟩ <;> rfl

/-- Nothing is caught where nothing fails. -/
theorem tryCatch_eq_ok (handler : Failure → Job α) (done : outcome job world = (.ok a, last)) :
    outcome (tryCatch job handler) world = (.ok a, last) := by
  rw [outcome_tryCatch, done]

theorem outcome_look (read : Host → Except Failure α) (world : World) :
    outcome (look read) world = (read world.host, world) := by
  rw [look, host_bind]
  cases read world.host <;> rfl

theorem look_eq_ok {read : Host → Except Failure α} :
    outcome (look read) world = (.ok a, last) ↔ read world.host = .ok a ∧ last = world := by
  rw [outcome_look, Prod.mk.injEq]
  exact and_congr_right fun _ => eq_comm

theorem look_eq_error {read : Host → Except Failure α} :
    outcome (look read) world = (.error failure, last) ↔
      read world.host = .error failure ∧ last = world := by
  rw [outcome_look, Prod.mk.injEq]
  exact and_congr_right fun _ => eq_comm

theorem change_eq_ok {edit : Host → Except Failure Host} :
    outcome (change edit) world = (.ok (), last) ↔
      ∃ host, edit world.host = .ok host ∧ last = { world with host := host } := by
  rw [change, bind_eq_ok]
  constructor
  · rintro ⟨host, middle, looked, done⟩
    obtain ⟨edited, rfl⟩ := look_eq_ok.mp looked
    exact ⟨host, edited, (Prod.mk.inj done).2.symm⟩
  · rintro ⟨host, edited, rfl⟩
    exact ⟨host, world, look_eq_ok.mpr ⟨edited, rfl⟩, rfl⟩

theorem change_eq_error {edit : Host → Except Failure Host} :
    outcome (change edit) world = (.error failure, last) ↔
      edit world.host = .error failure ∧ last = world := by
  rw [change, bind_eq_error, look_eq_error]
  refine or_iff_left ?_
  rintro ⟨host, middle, _, edited⟩
  cases (Prod.mk.inj edited).1

theorem makeDirectories_eq_ok {path : Path} :
    outcome (makeDirectories path) world = (.ok (), last) ↔
      ∃ host, world.host.makeDirectories path = (host, none) ∧ last = { world with host := host } := by
  rw [makeDirectories, host_bind]
  obtain ⟨host, failure⟩ := world.host.makeDirectories path
  constructor
  · intro done
    cases failure with
    | none => exact ⟨host, rfl, (Prod.mk.inj done).2.symm⟩
    | some failure => cases (Prod.mk.inj done).1
  · rintro ⟨made, same, rfl⟩
    obtain ⟨rfl, rfl⟩ := Prod.mk.inj same
    rfl

theorem makeDirectories_eq_error {path : Path} :
    outcome (makeDirectories path) world = (.error failure, last) ↔
      ∃ host, world.host.makeDirectories path = (host, some failure) ∧
        last = { world with host := host } := by
  rw [makeDirectories, host_bind]
  obtain ⟨host, fault⟩ := world.host.makeDirectories path
  constructor
  · intro failed
    cases fault with
    | none => cases (Prod.mk.inj failed).1
    | some fault =>
      obtain ⟨same, rfl⟩ := Prod.mk.inj failed
      exact ⟨host, by rw [Except.error.inj same], rfl⟩
  · rintro ⟨left, same, rfl⟩
    obtain ⟨rfl, rfl⟩ := Prod.mk.inj same
    rfl

/-! ### What jobs keep -/

/-- What a job leaves true of the host, whether it succeeds or fails. -/
def Keeps (P : Host → Prop) (job : Job α) : Prop :=
  ∀ world, P world.host → P (outcome job world).2.host

variable {P : Host → Prop}

theorem keeps_pure (a : α) : Keeps P (pure a : Job α) := fun _ holds => holds

theorem keeps_throw (failure : Failure) : Keeps P (throw failure : Job α) := fun _ holds => holds

theorem keeps_report (level : LogLevel) (logger : String) (message : Text) :
    Keeps P (report level logger message) := fun _ holds => holds

theorem keeps_look (read : Host → Except Failure α) : Keeps P (look read) := by
  intro world holds
  rwa [outcome_look]

theorem Keeps.bind (first : Keeps P job) (later : ∀ a, Keeps P (next a)) : Keeps P (job >>= next) := by
  intro world holds
  have middle := first world holds
  rw [outcome_bind]
  split
  · rename_i a left done
    rw [done] at middle
    exact later a left middle
  · rename_i failure left done
    rwa [done] at middle

theorem keeps_host_bind {next : Host → Job β} (later : ∀ host, Keeps P (next host)) :
    Keeps P (Job.host >>= next) := by
  intro world holds
  rw [host_bind]
  exact later world.host world holds

theorem keeps_change {edit : Host → Except Failure Host}
    (step : ∀ before after, P before → edit before = .ok after → P after) : Keeps P (change edit) := by
  intro world holds
  cases edited : edit world.host with
  | ok after =>
    rw [change_eq_ok.mpr ⟨after, edited, rfl⟩]
    exact step _ _ holds edited
  | error failure =>
    rw [change_eq_error.mpr ⟨edited, rfl⟩]
    exact holds

theorem keeps_makeDirectories {path : Path} (step : ∀ host, P host → P (host.makeDirectories path).1) :
    Keeps P (makeDirectories path) := by
  intro world holds
  have made := step world.host holds
  rcases ended : world.host.makeDirectories path with ⟨after, _ | failure⟩ <;> rw [ended] at made
  · rwa [makeDirectories_eq_ok.mpr ⟨after, ended, rfl⟩]
  · rwa [makeDirectories_eq_error.mpr ⟨after, ended, rfl⟩]

end Job
end SymbolIndex
