import PitWall.Proofs.Sheet.Verdict

namespace PitWall.Sheet
open Text

inductive Ascending (stop : Nat) : Nat → List Line → Prop where
  | nil (inside : low ≤ stop) : Ascending stop low []
  | cons {line : Line} {rest : List Line} (above : low ≤ line.number) (inside : line.number < stop)
      (ahead : Ascending stop (line.number + 1) rest) : Ascending stop low (line :: rest)

namespace Ascending
variable {stop low high : Nat} {lines : List Line}

theorem inside (ascending : Ascending stop low lines) : low ≤ stop := by
  cases ascending with
  | nil inside => exact inside
  | cons above inside ahead => omega

theorem lower (ascending : Ascending stop high lines) (below : low ≤ high) : Ascending stop low lines := by
  cases ascending with
  | nil inside => exact .nil (Nat.le_trans below inside)
  | cons above inside ahead => exact .cons (Nat.le_trans below above) inside ahead

end Ascending

-- A complaint that concerns one line of these, or none: one that quotes a line quotes the one whose number
-- it bears, and none compares two lines.
def Problem.Concerns (lines : List Line) (number : Nat) : Problem → Prop
  | .malformed _ text => ⟨number,text⟩ ∈ lines
  | .startBeyondField _ _ | .incomplete => False
  | _ => True

structure Covers (lines : List Line) (low high : Nat) (diagnostics : List Diagnostic) : Prop where
  ordered : diagnostics.Pairwise fun before after => before.line ≤ after.line
  within : ∀ diagnostic ∈ diagnostics, low ≤ diagnostic.line ∧ diagnostic.line ≤ high
  concerns : ∀ diagnostic ∈ diagnostics, diagnostic.problem.Concerns lines diagnostic.line

theorem Problem.Concerns.mono {lines more : List Line} {number : Nat} {problem : Problem}
    (concerns : problem.Concerns lines number) (inside : lines ⊆ more) : problem.Concerns more number := by
  cases problem with
  | malformed kind text => exact inside concerns
  | _ => exact concerns

namespace Covers
variable {lines more : List Line} {low middle high : Nat} {first second : List Diagnostic}

theorem nil (lines : List Line) (low high : Nat) : Covers lines low high [] := ⟨.nil,by simp,by simp⟩

theorem append (left : Covers lines low middle first) (right : Covers lines middle high second)
    (between : low ≤ middle ∧ middle ≤ high) : Covers lines low high (first ++ second) := by
  refine ⟨?_,?_,List.forall_mem_append.mpr ⟨left.concerns,right.concerns⟩⟩
  · apply List.pairwise_append.mpr
    refine ⟨left.ordered,right.ordered,?_⟩
    intro before early after late
    exact Nat.le_trans (left.within before early).2 (right.within after late).1
  · intro diagnostic member
    rcases List.mem_append.mp member with early | late
    · obtain ⟨above,inside⟩ := left.within diagnostic early
      omega
    · obtain ⟨above,inside⟩ := right.within diagnostic late
      omega

theorem widen {start stop : Nat} (covers : Covers lines low high first) (inside : lines ⊆ more) (lower : start ≤ low)
    (upper : high ≤ stop) : Covers more start stop first := by
  refine ⟨covers.ordered,?_,fun diagnostic member => (covers.concerns diagnostic member).mono inside⟩
  intro diagnostic member
  obtain ⟨above,below⟩ := covers.within diagnostic member
  omega

end Covers

-- Reading on from `low`: the complaints lie between there and the line on which the reader comes to stand,
-- and the lines that are left begin at that one.
structure Passage.Advances {α : Type} (passage : Passage α) (stop low : Nat) (below : List Line) : Prop where
  onward : low ≤ passage.cursor
  covers : Covers below low passage.cursor passage.diagnostics
  ahead : Ascending stop passage.cursor passage.rest
  left : passage.rest ⊆ below

-- A reader that has gone past a line goes on in the lines behind it.
theorem Passage.Advances.behind {α : Type} {passage : Passage α} {stop low : Nat} {line : Line} {rest : List Line}
    (advances : passage.Advances stop (line.number + 1) rest) (above : low ≤ line.number) :
    passage.Advances stop low (line :: rest) where
  onward := Nat.le_trans (Nat.le_succ_of_le above) advances.onward
  covers := advances.covers.widen (List.subset_cons_self _ _) (Nat.le_succ_of_le above) (Nat.le_refl _)
  ahead := advances.ahead
  left := List.subset_cons_of_subset _ advances.left

theorem block_cons (stop : Nat) (line : Line) (rest : List Line) :
    Block.of stop (line :: rest) = if line.closes then ⟨[],rest,line.number + 1⟩
      else ⟨line :: (Block.of stop rest).body,(Block.of stop rest).rest,(Block.of stop rest).cursor⟩ := by
  by_cases closes : line.closes = true
  · simp [Block.of,closes]
  · simp only [Block.of,closes,List.takeWhile_cons,List.dropWhile_cons]
    simp only [Bool.not_false,if_true,Bool.false_eq_true,if_false]
    split <;> rfl

section
variable {stop low : Nat} {below : List Line}

end

theorem Covers.extend {α : Type} {passage : Passage α} {lines below : List Line} {stop low middle : Nat}
    {first : List Diagnostic} (covers : Covers lines low middle first) (advances : passage.Advances stop middle below)
    (inside : below ⊆ lines) (between : low ≤ middle) :
    Covers lines low passage.cursor (first ++ passage.diagnostics) :=
  covers.append (advances.covers.widen inside (Nat.le_refl _) (Nat.le_refl _)) ⟨between,advances.onward⟩

namespace Source
variable {source : Source}

def complaints (source : Source) : Section → List Diagnostic
  | .race => source.race.diagnostics
  | .car => source.car.diagnostics
  | .track => source.track.diagnostics
  | .strategy => source.strategy.diagnostics
  | .criticalTurns => source.turns.diagnostics
  | .previousWinner => source.winner.diagnostics

def allComplaints (source : Source) : List Diagnostic :=
  source.complaints .race ++ source.complaints .car ++ source.complaints .track ++ source.complaints .strategy
    ++ source.complaints .criticalTurns ++ source.complaints .previousWinner

theorem complaints_place (source : Source) (place : Section) :
    InPlace place ((source.complaints place).map (·.problem)) := by
  cases place with
  | race => exact requiredLine_place .race (fun line => readRaceLine_place line.text) _ _ _
  | car => exact requiredLine_place .car (fun line => readCarLine_place line.number line.text) _ _ _
  | track => exact trackSection_place _ _
  | strategy => exact strategySection_place _ _
  | criticalTurns => exact turnsSection_place _ _
  | previousWinner => exact winnerSection_place _ _

end Source

theorem slotProblem_cases (race : Option RaceFacts) (car : Option CarFacts) :
    slotProblem race car = [] ∨ ∃ facts cars, car = some facts ∧
      slotProblem race car = [⟨facts.line,.startBeyondField facts.start cars⟩] := by
  unfold slotProblem
  split
  · rename_i race car
    split
    · exact .inr ⟨car,race.fieldSize,rfl,rfl⟩
    · exact .inl rfl
  · exact .inl rfl

theorem Source.read_diagnostics (source : Source) : source.read.diagnostics = source.diagnostics := by
  rcases source.read_verdict with ⟨document,found,clean⟩ | ⟨_,_,named⟩
  · rw [clean,(Source.read_document_iff.mp found).1]
  · exact named

end PitWall.Sheet
