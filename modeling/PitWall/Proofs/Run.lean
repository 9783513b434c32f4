import PitWall.Proofs.Sheet.Verdict
import PitWall.Proofs.Simulation.Steady
import PitWall.Run

namespace PitWall
open Sheet

theorem run_returns (text : String) {tables : Tables Float} (steady : tables.Steady) :
    ∃ run, Run.of text tables = .ok run ∧ run.reading = read text ∧ run.raced = (read text).accepted := by
  unfold Run.of Run.raced Reading.accepted
  dsimp only
  cases found : (read text).document with
  | none => exact ⟨_,rfl,rfl,rfl⟩
  | some document =>
    obtain ⟨small,onField,lengths⟩ := read_bounds found
    have short : ∀ stint ∈ document.strategy.stints, stint.laps ≤ 100 := fun stint member => (lengths stint member).2
    obtain ⟨outcome,raced,_⟩ := Simulation.simulate_succeeds steady document.track small onField short
    dsimp only
    rw [raced]
    exact ⟨_,rfl,rfl,rfl⟩

-- Every text is either raced or refused for a reason, and the reason is never that something is missing
-- which nobody missed.
theorem run_total (text : String) :
    let source := Source.of text
    let reading := read text
    source.flaws = [] ∧
      Xor (reading.document.isSome = true ∧ reading.diagnostics = []) (reading.document = none ∧ reading.diagnostics ≠ []) ∧
      (∀ diagnostic ∈ reading.diagnostics, diagnostic.problem ≠ .incomplete) ∧
      (source.diagnostics = [] → ∃ race car aero difficulty chance plan,
        source.race.found.bind (·.race.value?) = some race ∧ source.car.found.bind (·.car.value?) = some car ∧
        source.track.found = ⟨some aero,some difficulty,some chance⟩ ∧ source.strategy.found.value? = some plan) ∧
      ∃ run, Run.of text Tables.standard = .ok run ∧ run.reading = reading ∧
        run.outcome.isSome = reading.document.isSome := by
  intro source reading
  refine ⟨source.flaws_eq_nil,source.read_exclusive,source.never_incomplete,?_,?_⟩
  · intro clean
    obtain ⟨document,whole⟩ := Source.document_of_clean clean
    obtain ⟨race,car,track,plan⟩ := Source.parts_of_document whole
    exact ⟨_,_,_,_,_,_,race,car,track,plan⟩
  · obtain ⟨run,done,same,raced⟩ := run_returns text Tables.standard_steady
    exact ⟨run,done,same,raced⟩

end PitWall
