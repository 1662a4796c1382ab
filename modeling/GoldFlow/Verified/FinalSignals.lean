import GoldFlow.Persistence.Signals
import GoldFlow.Verified.FinishedOrders

/-! # Final signals

The expiry job only expires signals that are waiting.
-/

namespace GoldFlow

open SignalOperation WorkerPersistence

section Rows

variable {database : Database} {id : UUID}

theorem signalWith_map (change : SignalRow → SignalRow) (keeps : ∀ row, (change row).signalId = row.signalId) :
    Database.signalWith { database with signals := database.signals.map change } id =
      (database.signalWith id).map change := by
  simp only [Database.signalWith, List.find?_map, Function.comp_def, keeps]

theorem signalId_of_signalWith {row : SignalRow} (found : database.signalWith id = some row) : row.signalId = id := by
  simpa using List.find?_some found

theorem signalWith_setStatus (status : SignalStatus) (other : UUID) :
    (SignalRepository.setStatus id status database).signalWith other =
      (database.signalWith other).map fun row => if other = id then { row with status } else row := by
  rw [SignalRepository.setStatus, signalWith_map]
  · cases found : database.signalWith other with
    | none => rfl
    | some => rw [Option.map_some, Option.map_some, signalId_of_signalWith found]
  · intro row
    split <;> rfl

end Rows

/-! ## Final statuses -/

def SignalStatus.final : SignalStatus → Bool
  | .executed | .rejected => true
  | _ => false

def FinalKept (before after : Database) : Prop :=
  ∀ id row, before.signalWith id = some row → row.status.final = true →
    ∃ current, after.signalWith id = some current ∧ current.status = row.status

namespace SignalOperation

def decides : SignalOperation → Bool
  | .expire _ | .approve _ _ _ => true
  | .save _ _ _ | .recordExecution _ _ _ _ => false

def Timely (database : Database) : SignalOperation → Prop
  | .approve id _ now => ∀ row ∈ database.signalWith id, row.status.final = true →
      ∀ expiry ∈ row.expiresAt, now < expiry
  | _ => True

variable {database : Database}

theorem finalKept_expire (now : Instant) : FinalKept database (expireSignals now database) := by
  intro id row found final
  have waiting : expires now row = false := by
    cases status : row.status <;> simp_all [expires, SignalStatus.final]
  refine ⟨row, ?_, rfl⟩
  rw [expireSignals, signalWith_map, found, Option.map_some, waiting]
  · rfl
  · intro row
    split <;> rfl

theorem finalKept_setStatus {id : UUID} {signal : SignalRow} (found : database.signalWith id = some signal)
    (status : SignalStatus) :
    FinalKept database (SignalRepository.setStatus id status database) ↔
      (signal.status.final = true → status = signal.status) := by
  constructor
  · intro kept final
    obtain ⟨current, currentFound, same⟩ := kept id signal found final
    rw [signalWith_setStatus, found, Option.map_some, if_pos rfl, Option.some.injEq] at currentFound
    rw [← same, ← currentFound]
  · intro keeps other row otherFound final
    rw [signalWith_setStatus, otherFound, Option.map_some]
    by_cases same : other = id
    · subst same
      rw [found, Option.some.injEq] at otherFound
      subst otherFound
      exact ⟨_, rfl, by rw [if_pos rfl]; exact keeps final⟩
    · exact ⟨_, rfl, by rw [if_neg same]⟩

theorem finalKept_approve (id : UUID) (approved : Bool) (now : Instant) :
    FinalKept database (SignalsApi.approveSignal id approved now database).2 ↔
      Timely database (.approve id approved now) := by
  have unchanged : FinalKept database database := fun _ row found _ => ⟨row, found, rfl⟩
  cases found : database.signalWith id with
  | none => simpa [SignalsApi.approveSignal, Timely, found] using unchanged
  | some signal =>
    simp only [SignalsApi.approveSignal, Timely, found]
    by_cases late : signal.expiresAt.any (· ≤ now) = true
    · -- the endpoint expires the signal whatever its status is
      obtain ⟨expiry, expires, reached⟩ : ∃ expiry, signal.expiresAt = some expiry ∧ expiry ≤ now := by
        cases shown : signal.expiresAt <;> simp_all
      simp only [late, if_true, finalKept_setStatus found]
      constructor
      · intro same row rowFound final
        cases rowFound
        rw [← same final] at final
        cases final
      · intro early final
        have before := early signal rfl final expiry expires
        exact absurd reached (not_le.mpr before)
    · have early : ∀ row ∈ some signal, row.status.final = true → ∀ expiry ∈ row.expiresAt, now < expiry := by
        intro row rowFound _ expiry expires
        cases rowFound
        simpa [Option.mem_def.mp expires] using late
      simp only [late, Bool.false_eq_true, if_false]
      split
      · exact ⟨fun _ => early, fun _ => unchanged⟩
      · rename_i waiting
        refine ⟨fun _ => early, fun _ => (finalKept_setStatus found _).mpr fun final => ?_⟩
        cases status : signal.status <;> simp_all [SignalStatus.final]

end SignalOperation

/-- **Approvals and expiries keep final signals** iff no final signal is approved or rejected at or after its
expiry. -/
theorem final_signals_kept (persistence : WorkerPersistence) (initial : Database) (earlier : List SignalOperation)
    (operation : SignalOperation) (decides : operation.decides = true) :
    let before := run persistence initial earlier
    FinalKept before (operation.apply persistence before) ↔ operation.Timely before := by
  cases operation with
  | save _ _ _ => cases decides
  | recordExecution _ _ _ _ => cases decides
  | expire now => exact ⟨fun _ => trivial, fun _ => SignalOperation.finalKept_expire now⟩
  | approve id approved now => exact SignalOperation.finalKept_approve id approved now

namespace Demo

def executing : List SignalOperation :=
  [.save signal 80 .semiAuto, .approve signal.signalId true now,
    .recordExecution signal { status := .pending } "demo" now]

def statusAfter (operations : List SignalOperation) : Option SignalStatus :=
  ((run journal {} operations).signalWith signal.signalId).map (·.status)

end Demo

open Demo

/-- An executed signal survives the expiry job. -/
theorem final_signals_kept_expiry :
    statusAfter executing = some .executed ∧
      FinalKept (run journal {} executing)
        (apply journal (run journal {} executing)
          (.expire (now + seconds 300))) := by
  have executed : statusAfter executing = some .executed := by decide +kernel
  exact ⟨executed, (final_signals_kept journal {} executing (.expire (now + seconds 300)) rfl).mpr trivial⟩

/-- A late approval expires an executed signal. -/
theorem executed_signal_expired :
    ∃ operations operation, operation.decides = true ∧
      ¬ FinalKept (run journal {} operations)
        (apply journal (run journal {} operations) operation) := by
  refine ⟨executing, .approve signal.signalId true (now + seconds 300), rfl, fun kept => ?_⟩
  have executed : statusAfter executing = some .executed := by decide +kernel
  have expired : statusAfter (executing ++ [.approve signal.signalId true (now + seconds 300)]) =
      some .expired := by decide +kernel
  obtain ⟨row, found, status⟩ := Option.map_eq_some_iff.mp executed
  obtain ⟨current, currentFound, same⟩ := kept _ row found (by rw [status]; rfl)
  have shown : statusAfter (executing ++ [.approve signal.signalId true (now + seconds 300)]) =
      some .executed := by
    rw [statusAfter, run, List.foldl_append]
    exact Option.map_eq_some_iff.mpr ⟨current, currentFound, same.trans status⟩
  rw [expired] at shown
  cases shown

end GoldFlow
