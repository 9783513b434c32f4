import PitWall.Arithmetic.Doubles
import PitWall.Proofs.Sheet.Verdict
import PitWall.Sheet.Review

namespace PitWall.Sheet

theorem raise_of_not {found : Bool} {issue : Issue} (absent : ¬ found = true) : raise found issue = [] := if_neg absent

theorem targetIssues_eq (race : Race) {target : Option Int} (counted : ∀ place ∈ target, 0 ≤ place) :
    targetIssues race target =
      raise (target = some 0) .targetBelowOne ++ raise (target.any (race.fieldSize < ·)) .targetBeyondField := by
  cases target with
  | none => rfl
  | some place =>
    have counted : 0 ≤ place := counted place rfl
    have zero : place < 1 ↔ place = 0 := by omega
    simp only [targetIssues,Option.some.injEq,zero,Option.any_some]

theorem stintIssues_eq (race : Race) {stints : List Stint} (driven : ∀ stint ∈ stints, 1 ≤ stint.laps) :
    stints.flatMap (stintIssues race) =
      (stints.filter (race.laps < ·.laps)).map fun stint => .stintBeyondRace stint.number stint.laps := by
  induction stints with
  | nil => rfl
  | cons stint rest ih =>
    rw [List.forall_mem_cons] at driven
    have empty : ¬ decide (stint.laps < 1) = true := by simpa using driven.1
    rw [List.flatMap_cons,ih driven.2,stintIssues,raise_of_not empty]
    by_cases long : race.laps < stint.laps
    · simp [raise,long]
    · simp [raise,long]

variable {document : Document Float}

-- Of what a second look asks for, the ranges leave only the target and the stints against the race.
theorem InRange.review (ranged : InRange document) : review document =
    raise (document.car.target = some 0) .targetBelowOne
      ++ raise (document.car.target.any (document.race.fieldSize < ·)) .targetBeyondField
      ++ (document.strategy.stints.filter (document.race.laps < ·.laps)).map fun stint =>
        .stintBeyondRace stint.number stint.laps := by
  have laps : ¬ (!(1 ≤ document.race.laps && document.race.laps ≤ 100)) = true := by simp [ranged.laps]
  have field : ¬ (!(2 ≤ document.race.fieldSize && document.race.fieldSize ≤ 30)) = true := by simp [ranged.field]
  have start : ¬ decide (document.car.start < 1) = true := by simpa using ranged.start.1
  have chance : ¬ (!isShare document.track.overtakingChance) = true := by
    have share : isShare document.track.overtakingChance = true := ranged.chance
    simp [share]
  unfold Sheet.review
  dsimp only
  rw [raise_of_not laps,raise_of_not field,raise_of_not start,raise_of_not chance,targetIssues_eq _ ranged.target,
    stintIssues_eq _ fun stint member => (ranged.stints stint member).1]
  simp only [List.nil_append,List.append_nil]

theorem review_read {text : String} (accepted : (read text).document = some document) :
    review document =
      raise (document.car.target = some 0) .targetBelowOne
        ++ raise (document.car.target.any (document.race.fieldSize < ·)) .targetBeyondField
        ++ (document.strategy.stints.filter (document.race.laps < ·.laps)).map (fun stint =>
          .stintBeyondRace stint.number stint.laps) ∧
      (review document).map Issue.message =
        (if document.car.target = some 0 then ["Target position must be at least P1"] else [])
          ++ (if document.car.target.any (document.race.fieldSize < ·) then ["Target position cannot exceed field size"] else [])
          ++ (document.strategy.stints.filter (document.race.laps < ·.laps)).map fun stint =>
            s!"Stint {stint.number} laps ({stint.laps}) exceed race length" := by
  have found := (read_inRange accepted).review
  refine ⟨found,?_⟩
  rw [found,List.map_append,List.map_append,List.map_map]
  unfold raise
  simp only [decide_eq_true_eq,apply_ite (List.map Issue.message)]
  rfl

-- A target behind the whole field, and one stint for more laps than there are.
def overlong : String :=
  let rows := ["RACE Monza LAPS=50 WEATHER=normal FIELD=20","CAR START=P12 PACE=midfield RISK=balanced TARGET=P25",
    "TRACK AERO=drag_reliant","TRACK OVERTAKING=easy CHANCE=0.5","STRATEGY \"One stint\"","STINT 1 TIRE=HARD LAPS=60","END"]
  String.ofList (rows.flatMap fun row => row.toList ++ ['\n'])

theorem overlong_review : ∃ document, (read overlong).document = some document ∧
    (review document).map Issue.message =
      ["Target position cannot exceed field size","Stint 1 laps (60) exceed race length"] := by
  have facts : (read overlong).document.map (fun document =>
      (document.race.laps,document.race.fieldSize,document.car.target,document.strategy.stints)) =
        some (50,20,some 25,[⟨1,.hard,60⟩]) := by
    unfold read Source.of overlong
    rw [String.toList_ofList]
    decide +kernel
  obtain ⟨document,found,parts⟩ := Option.map_eq_some_iff.mp facts
  simp only [Prod.mk.injEq] at parts
  obtain ⟨laps,field,target,stints⟩ := parts
  refine ⟨document,found,(review_read found).2.trans ?_⟩
  rw [laps,field,target,stints]
  rfl

end PitWall.Sheet
