import PitWall.Arithmetic.Doubles
import PitWall.Sheet.Reader
import PitWall.Sheet.Review
import PitWall.Simulation.Outcome

namespace PitWall

structure Run where
  reading : Sheet.Reading
  issues : List Sheet.Issue
  outcome : Option (Simulation.Outcome Float)

namespace Run

def of (text : String) (tables : Tables Float) : Except Fault Run :=
  let reading := Sheet.read text
  match reading.document with
  | none => .ok ⟨reading,[],none⟩
  | some document => do
    let outcome ← simulate document.race document.car document.strategy document.track tables
    return ⟨reading,Sheet.review document,some outcome⟩

def raced (run : Run) : Bool := run.outcome.isSome

end Run
end PitWall
