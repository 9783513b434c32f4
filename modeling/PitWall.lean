import PitWall.Arithmetic.Rationals
import PitWall.Frame
import PitWall.Main
import PitWall.Tables.Writer
import PitWall.Proofs.Run
import PitWall.Proofs.Tables.Acceptance
import PitWall.Proofs.Simulation.Ledger
import PitWall.Proofs.Simulation.Timetable
import PitWall.Proofs.Sheet.RoundTrip
import PitWall.Proofs.Simulation.Independence
import PitWall.Proofs.Sheet.Numbering
import PitWall.Proofs.Sheet.Likeness
import PitWall.Proofs.Sheet.Appearance
import PitWall.Proofs.Sheet.Indifference
import PitWall.Proofs.Simulation.Extension
import PitWall.Proofs.Simulation.Lookups
import PitWall.Proofs.Arithmetic.Exact
import PitWall.Proofs.Tables.History
import PitWall.Proofs.Tables.Repetition
import PitWall.Proofs.Simulation.Divisors
import PitWall.Proofs.Sheet.Review
import PitWall.Proofs.Simulation.Events
import PitWall.Proofs.Simulation.Alarms
import PitWall.Proofs.Simulation.Envelope
import PitWall.Proofs.Simulation.Cliffs
import PitWall.Proofs.Sheet.Locality
import PitWall.Proofs.Sheet.Blocks
import PitWall.Proofs.Advisory.Ranking
import PitWall.Proofs.Arithmetic.Average
import PitWall.Proofs.Arithmetic.Rationals
import PitWall.Proofs.Lap.Wear
import PitWall.Proofs.Lap.Degradation
import PitWall.Proofs.Lap.Fuel
import PitWall.Proofs.Odds
import PitWall.Proofs.Sheet.Splits
import PitWall.Proofs.Decimal.Positional
