import PitWall.Proofs.Sheet.Numbering

namespace PitWall.Sheet
open Text

inductive Header where
  | race | car | aero | overtaking
deriving DecidableEq

namespace Header

def all : List Header := [.race,.car,.aero,.overtaking]

def place : Header → Nat
  | .race => 0 | .car => 1 | .aero => 2 | .overtaking => 3

def complaints (line : Line) : Header → List Diagnostic
  | .race => onLine line (readRaceLine line.text).2
  | .car => onLine line (readCarLine line.number line.text).2
  | .aero => onLine line (readAeroLine line.text).2
  | .overtaking => onLine line (readOvertakingLine line.text).2

def Reads (line : Line) (document : Document Float) : Header → Prop
  | .race => (readRaceLine line.text).1.bind (·.race.value?) = some document.race
  | .car => (readCarLine line.number line.text).1.bind (·.car.value?) = some document.car
  | .aero => (readAeroLine line.text).1 = some document.track.aero
  | .overtaking => (readOvertakingLine line.text).1 = (some document.track.difficulty,some document.track.overtakingChance)

def Agree (first second : Document Float) : Header → Prop
  | .race => first.race = second.race
  | .car => first.car = second.car
  | .aero => first.track.aero = second.track.aero
  | .overtaking => first.track.difficulty = second.track.difficulty ∧
      first.track.overtakingChance = second.track.overtakingChance

theorem complaints_line {header : Header} {line : Line} :
    ∀ diagnostic ∈ header.complaints line, diagnostic.line = line.number := by
  intro diagnostic member
  cases header
  all_goals
    obtain ⟨problem,_,rfl⟩ := List.mem_map.mp member
    rfl

theorem Reads.agree {header : Header} {line : Line} {first second : Document Float} (reads : header.Reads line first)
    (again : header.Reads line second) : header.Agree first second := by
  unfold Reads at reads again
  cases header
  case overtaking =>
    obtain ⟨difficulty,chance⟩ := Prod.mk.inj (reads.symm.trans again)
    exact ⟨Option.some.inj difficulty,Option.some.inj chance⟩
  all_goals exact Option.some.inj (reads.symm.trans again)

end Header

structure SameBut (header : Header) (first second : Document Float) : Prop where
  headers : ∀ another, another ≠ header → another.Agree first second
  turns : first.track.turns = second.track.turns
  winner : first.track.winner = second.track.winner
  strategy : first.strategy = second.strategy

def Exchanged (left right : String) (header : Header) (number : Nat) : Prop :=
  ∃ before line other after,
    cut '\n' left.toList = before ++ line :: after ∧ cut '\n' right.toList = before ++ other :: after ∧
    trim line ≠ [] ∧ trim other ≠ [] ∧ before.countP (trim · ≠ []) = header.place ∧ number = before.length + 1

theorem numbered_append (number : Nat) (first second : List (List Char)) :
    numbered number (first ++ second) = numbered number first ++ numbered (number + first.length) second := by
  induction first generalizing number with
  | nil => rfl
  | cons piece first ih =>
    have rest := ih (number + 1)
    rw [Nat.add_right_comm] at rest
    rw [List.cons_append,numbered,numbered,rest,List.length_cons]
    split <;> rfl

theorem numbered_length (number : Nat) (pieces : List (List Char)) :
    (numbered number pieces).length = pieces.countP (· ≠ []) := by
  rw [List.countP_eq_length_filter,← texts_numbered number pieces,texts,List.length_map]

def headed (line : Header → Line) (below : List Line) : List Line :=
  line .race :: line .car :: line .aero :: line .overtaking :: below

theorem exists_headed {lines : List Line} (four : 4 ≤ lines.length) : ∃ line below, lines = headed line below := by
  match lines with
  | race :: car :: aero :: overtaking :: below =>
    exact ⟨fun | .race => race | .car => car | .aero => aero | .overtaking => overtaking,below,rfl⟩
  | [] | [_] | [_,_] | [_,_,_] => simp at four

def exchange (line : Header → Line) (header : Header) (other : Line) : Header → Line :=
  fun another => if another = header then other else line another

theorem headed_set (line : Header → Line) (below : List Line) (header : Header) (other : Line) :
    (headed line below).set header.place other = headed (exchange line header other) below := by
  cases header <;> rfl

theorem headed_get (line : Header → Line) (below : List Line) (header : Header) :
    (headed line below)[header.place]? = some (line header) := by
  cases header <;> rfl

theorem exchanged_lines {left right : String} {header : Header} {number : Nat}
    (exchanged : Exchanged left right header number) (four : 4 ≤ (contentLines left).length) :
    (Source.of left).stop = (Source.of right).stop ∧ ∃ line below text, (line header).number = number ∧
      (Source.of left).lines = headed line below ∧
      (Source.of right).lines = headed (exchange line header ⟨number,text⟩) below := by
  obtain ⟨before,line,other,after,leftCut,rightCut,shown,otherShown,place,rfl⟩ := exchanged
  have stop : (Source.of left).stop = (Source.of right).stop := by
    simp [Source.of,leftCut,rightCut]
  have early : (numbered 1 (before.map trim)).length = header.place := by
    rw [numbered_length,List.countP_map]
    exact place
  have lines (piece : List Char) (legible : trim piece ≠ []) : numbered 1 ((before ++ piece :: after).map trim) =
      numbered 1 (before.map trim) ++ ⟨before.length + 1,trim piece⟩ :: numbered (before.length + 2) (after.map trim) := by
    rw [List.map_append,numbered_append,List.length_map,List.map_cons,numbered,if_neg (by simpa using legible),
      Nat.add_comm 1]
  have leftLines := lines line shown
  have rightLines := lines other otherShown
  rw [← leftCut] at leftLines
  rw [← rightCut] at rightLines
  rw [← texts_of,texts,List.length_map] at four
  obtain ⟨heads,below,whole⟩ := exists_headed four
  have split : headed heads below = _ := whole.symm.trans leftLines
  have here : heads header = ⟨before.length + 1,trim line⟩ := by
    have same := headed_get heads below header
    rw [split,← early,List.getElem?_append_right (Nat.le_refl _),Nat.sub_self] at same
    exact (Option.some.inj same).symm
  refine ⟨stop,heads,below,trim other,by rw [here],whole,?_⟩
  rw [← headed_set,split,← early,List.set_append_right _ _ (Nat.le_refl _),Nat.sub_self]
  exact rightLines

namespace Source
variable {source : Source} {line : Header → Line} {below : List Line} (whole : source.lines = headed line below)
include whole

theorem race_headed : source.race = ⟨(readRaceLine (line .race).text).1,Header.race.complaints (line .race),
    (line .race).number + 1,line .car :: line .aero :: line .overtaking :: below⟩ := by
  rw [race,whole]
  rfl

theorem car_headed : source.car = ⟨(readCarLine (line .car).number (line .car).text).1,Header.car.complaints (line .car),
    (line .car).number + 1,line .aero :: line .overtaking :: below⟩ := by
  rw [car,race_headed whole]
  rfl

theorem track_headed : source.track = ⟨⟨(readAeroLine (line .aero).text).1,
    (readOvertakingLine (line .overtaking).text).1.1,(readOvertakingLine (line .overtaking).text).1.2⟩,
    Header.aero.complaints (line .aero) ++ Header.overtaking.complaints (line .overtaking),
    (line .overtaking).number + 1,below⟩ := by
  rw [track,car_headed whole]
  rfl

theorem strategy_headed : source.strategy = strategySection source.stop below := by
  rw [strategy,track_headed whole]

-- The complaints about the headers come first.
theorem diagnostics_headed : source.diagnostics = Header.all.flatMap (fun header => header.complaints (line header))
    ++ (source.strategy.diagnostics ++ source.turns.diagnostics ++ source.winner.diagnostics)
    ++ slotProblem source.race.found source.car.found := by
  simp only [diagnostics,race_headed whole,car_headed whole,track_headed whole,Header.all,List.flatMap_cons,
    List.flatMap_nil,List.append_nil,List.append_assoc]

theorem document_headed {document : Document Float} (made : source.document? = some document) (header : Header) :
    header.Reads (line header) document := by
  obtain ⟨race,car,track,_⟩ := parts_of_document made
  rw [race_headed whole] at race
  rw [car_headed whole] at car
  rw [track_headed whole] at track
  cases header
  case race => exact race
  case car => exact car
  case aero => exact (TrackFacts.mk.inj track).1
  case overtaking => exact Prod.ext (TrackFacts.mk.inj track).2.1 (TrackFacts.mk.inj track).2.2

end Source

theorem Source.blocks_of_document {source : Source} {document : Document Float}
    (made : source.document? = some document) :
    document.track.turns = source.turns.found ∧ document.track.winner = source.winner.found ∧
      source.strategy.found.value? = some document.strategy := by
  refine ⟨?_,?_,(parts_of_document made).2.2.2⟩
  all_goals
    unfold document? assemble at made
    simp only [Option.bind_eq_bind,Option.bind_eq_some_iff] at made
    obtain ⟨_,_,_,_,_,_,_,_,_,_,_,_,_,_,_,_,same⟩ := made
    cases same
    rfl

-- The complaint about a grid slot takes two lines to see.
def Diagnostic.isSlot (diagnostic : Diagnostic) : Bool :=
  match diagnostic.problem with
  | .startBeyondField _ _ => true
  | _ => false

def Diagnostic.isElsewhere (number : Nat) (diagnostic : Diagnostic) : Bool :=
  diagnostic.line ≠ number && !diagnostic.isSlot

theorem slotProblem_isSlot (race : Option RaceFacts) (car : Option CarFacts) :
    ∀ diagnostic ∈ slotProblem race car, diagnostic.isSlot = true := by
  intro diagnostic member
  unfold slotProblem at member
  split at member
  · split at member
    · rw [List.mem_singleton.mp member]
      rfl
    · cases member
  · cases member

section
variable {left right : Source} {header : Header} {line : Header → Line} {below : List Line} {other : Line}
  (leftLines : left.lines = headed line below) (rightLines : right.lines = headed (exchange line header other) below)
  (stop : left.stop = right.stop)
include leftLines rightLines stop

theorem exchange_blocks : left.strategy = right.strategy ∧ left.turns = right.turns ∧ left.winner = right.winner := by
  have strategy : left.strategy = right.strategy := by
    rw [Source.strategy_headed leftLines,Source.strategy_headed rightLines,stop]
  have turns : left.turns = right.turns := by rw [Source.turns,Source.turns,strategy,stop]
  have winner : left.winner = right.winner := by rw [Source.winner,Source.winner,turns,stop]
  exact ⟨strategy,turns,winner⟩

theorem exchange_diagnostics (number : (line header).number = other.number) :
    left.diagnostics.filter (·.isElsewhere other.number) = right.diagnostics.filter (·.isElsewhere other.number) := by
  obtain ⟨strategy,turns,winner⟩ := exchange_blocks leftLines rightLines stop
  have noSlot (race : Option RaceFacts) (car : Option CarFacts) :
      (slotProblem race car).filter (·.isElsewhere other.number) = [] := by
    refine List.filter_eq_nil_iff.mpr fun diagnostic member => ?_
    simp [Diagnostic.isElsewhere,slotProblem_isSlot race car diagnostic member]
  rw [Source.diagnostics_headed leftLines,Source.diagnostics_headed rightLines,strategy,turns,winner]
  simp only [List.filter_append,noSlot,List.filter_flatMap]
  congr 2
  refine List.flatMap_congr fun another _ => ?_
  by_cases same : another = header
  · subst same
    have here (found : Line) (number : found.number = other.number) :
        (another.complaints found).filter (·.isElsewhere other.number) = [] := by
      refine List.filter_eq_nil_iff.mpr fun diagnostic member => ?_
      simp [Diagnostic.isElsewhere,Header.complaints_line diagnostic member,number]
    rw [here _ number,exchange,if_pos rfl,here other rfl]
  · rw [exchange,if_neg same]

theorem exchange_document {first second : Document Float} (leftMade : left.document? = some first)
    (rightMade : right.document? = some second) : SameBut header first second := by
  obtain ⟨strategy,turns,winner⟩ := exchange_blocks leftLines rightLines stop
  obtain ⟨turnsFound,winnerFound,planFound⟩ := Source.blocks_of_document leftMade
  obtain ⟨turnsToo,winnerToo,planToo⟩ := Source.blocks_of_document rightMade
  rw [← strategy] at planToo
  refine ⟨fun another apart => ?_,by rw [turnsFound,turnsToo,turns],by rw [winnerFound,winnerToo,winner],
    Option.some.inj (planFound.symm.trans planToo)⟩
  have reads := Source.document_headed leftLines leftMade another
  have again := Source.document_headed rightLines rightMade another
  rw [exchange,if_neg apart] at again
  exact reads.agree again

end

-- A mistake in one of the header lines stays in its line: with the line exchanged for any other, all that is said of
-- other lines is said again, in the same order, and of the document only what the line holds can change.
theorem exchange_local {left right : String} {header : Header} {number : Nat}
    (exchanged : Exchanged left right header number) (four : 4 ≤ (contentLines left).length) :
    (read left).diagnostics.filter (·.isElsewhere number) = (read right).diagnostics.filter (·.isElsewhere number) ∧
    ∀ first second, (read left).document = some first → (read right).document = some second →
      SameBut header first second := by
  obtain ⟨stop,line,below,text,rfl,leftLines,rightLines⟩ := exchanged_lines exchanged four
  constructor
  · rw [read,read,Source.read_diagnostics,Source.read_diagnostics]
    have same := exchange_diagnostics leftLines rightLines stop rfl
    exact same
  · intro first second leftRead rightRead
    obtain ⟨_,leftMade⟩ := Source.read_document_iff.mp leftRead
    obtain ⟨_,rightMade⟩ := Source.read_document_iff.mp rightRead
    exact exchange_document leftLines rightLines stop leftMade rightMade

-- A sheet of three laps with the line of its car left open.
def sheetWith (car : String) : String :=
  let rows := ["RACE Monza LAPS=3 WEATHER=normal FIELD=20",car,"","TRACK AERO=drag_reliant",
    "TRACK OVERTAKING=easy CHANCE=0.5","STRATEGY \"One stop\"","STINT 1 TIRE=SOFT LAPS=2","STINT 2 TIRE=HARD LAPS=none","END"]
  String.ofList (rows.flatMap fun row => row.toList ++ ['\n'])

def carRow : String := "CAR START=P5 PACE=midfield RISK=balanced"
def slowCarRow : String := "CAR START=P25 PACE=slow RISK=none"

theorem sheetWith_local : Exchanged (sheetWith carRow) (sheetWith slowCarRow) .car 2 ∧
    4 ≤ (contentLines (sheetWith carRow)).length ∧
    (read (sheetWith carRow)).diagnostics.map (·.line) = [8] ∧
    (read (sheetWith slowCarRow)).diagnostics.map (·.line) = [2,2,8,2] ∧
    (read (sheetWith carRow)).diagnostics.filter (·.isElsewhere 2) =
      (read (sheetWith slowCarRow)).diagnostics.filter (·.isElsewhere 2) := by
  have exchanged : Exchanged (sheetWith carRow) (sheetWith slowCarRow) .car 2 := by
    refine ⟨(cut '\n' (sheetWith carRow).toList).take 1,carRow.toList,slowCarRow.toList,
      (cut '\n' (sheetWith carRow).toList).drop 2,?_⟩
    unfold sheetWith
    simp only [String.toList_ofList]
    decide +kernel
  have four : 4 ≤ (contentLines (sheetWith carRow)).length := by
    unfold contentLines sheetWith
    rw [String.toList_ofList]
    decide +kernel
  have lines : (read (sheetWith carRow)).diagnostics.map (·.line) = [8] ∧
      (read (sheetWith slowCarRow)).diagnostics.map (·.line) = [2,2,8,2] := by
    unfold read Source.of sheetWith
    simp only [String.toList_ofList]
    decide +kernel
  exact ⟨exchanged,four,lines.1,lines.2,(exchange_local exchanged four).1⟩

end PitWall.Sheet
