import PitWall.Proofs.Sheet.Grammar
import PitWall.Proofs.Sheet.Written
import PitWall.Proofs.Text.Case

namespace PitWall.Sheet
open Text

def texts (lines : List Line) : List (List Char) := lines.map (·.text)

theorem Line.says_iff {line : Line} {keyword : String} : line.says keyword = true ↔ Says line.text keyword := by
  unfold Line.says Says
  exact beq_iff_eq

theorem gap_upper {c : Char} (gap : isGap c = true) : upperOf c = [c] := by
  have member := isGap_cases gap
  fin_cases member <;> rfl

-- A line with a gap in it is none of the keywords.
theorem not_says_of_gap {line : List Char} (gapped : ∃ c ∈ line, isGap c = true) {keyword : String}
    (word : keyword.toList.all (!isGap ·) = true) : ¬ Says line keyword := by
  intro same
  obtain ⟨c,inside,gap⟩ := gapped
  have kept : c ∈ upper line := List.mem_flatMap.mpr ⟨c,inside,by simp [gap_upper gap]⟩
  rw [same] at kept
  have clear := List.all_eq_true.mp word c kept
  rw [gap] at clear
  cases clear

theorem LineKind.patterns_gapped (kind : LineKind) : ∀ pattern ∈ kind.patterns, Piece.gap ∈ pattern := by
  cases kind <;> decide

theorem LineKind.Fits.not_says {kind : LineKind} {line : List Char} {captures : List (List Char)}
    (fits : kind.Fits line captures) {keyword : String} (word : keyword.toList.all (!isGap ·) = true) :
    ¬ Says line keyword := by
  obtain ⟨pattern,member,fits⟩ := fits
  exact not_says_of_gap (fits.has_gap (kind.patterns_gapped pattern member)) word

theorem problemOf_eq_nil_iff {α : Type} {checked : Except Problem α} :
    problemOf checked = [] ↔ ∃ value, checked = .ok value := by
  cases checked <;> simp [problemOf]

theorem demand_eq_nil_iff {fine : Bool} {problem : Problem} : demand fine problem = [] ↔ fine = true := by
  cases fine <;> simp [demand]

theorem onLine_problems (line : Line) (problems : List Problem) : (onLine line problems).map (·.problem) = problems := by
  simp [onLine,Function.comp_def]

theorem isRaceLength_iff {laps : Nat} : isRaceLength laps = true ↔ 1 ≤ laps ∧ laps ≤ 100 := by
  simp [isRaceLength]

theorem isFieldSize_iff {cars : Nat} : isFieldSize cars = true ↔ 2 ≤ cars ∧ cars ≤ 30 := by
  simp [isFieldSize]

def RaceFacts.of (race : Race) : RaceFacts := ⟨race.laps.toNat,race.fieldSize.toNat,some race.weather,some (.ok race)⟩

theorem race_of {name : List Char} {laps cars : Nat} (named : name ≠ []) (weather : Weather) (someLap : 1 ≤ laps)
    (rivals : 2 ≤ cars) : ∃ race : Race, Race.of (String.ofList (upper name)) laps weather cars = .ok race ∧
      race.trackName = String.ofList (upper name) ∧ race.laps = laps ∧ race.weather = weather ∧
      race.fieldSize = cars := by
  have named : String.ofList (upper name) ≠ "" := by
    intro empty
    have unnamed : upper name = [] := by
      have := congrArg String.toList empty
      simpa using this
    exact named ((upper_recased name).nil_iff.mp unnamed)
  refine ⟨⟨_,laps,weather,cars,named,by omega,by omega⟩,?_,rfl,rfl,rfl,rfl⟩
  unfold Race.of
  rw [dif_neg named,dif_pos (by omega),dif_pos (by omega)]

theorem readRaceLine_complete {line name : List Char} {laps cars : Nat} {weather : Weather}
    (reads : RaceLine line name laps weather cars) :
    ∃ race : Race, readRaceLine line = (some (.of race),[]) ∧ race.trackName = String.ofList (upper name) ∧
      race.laps = laps ∧ race.weather = weather ∧ race.fieldSize = cars := by
  obtain ⟨lapDigits,word,carDigits,fits,names,rfl,rfl,length,field⟩ := reads
  have named : name ≠ [] := by
    cases fits.holds rfl with
    | cons token rest => exact token.ne_nil
  obtain ⟨race,made,trackName,laps,weatherSame,cars⟩ := race_of named weather length.1 field.1
  refine ⟨race,?_,trackName,laps,weatherSame,cars⟩
  unfold readRaceLine
  rw [LineKind.read?_eq_some_iff.mpr fits]
  dsimp only
  rw [(term_eq_ok_iff weather_small).mpr names]
  simp only [isRaceLength_iff.mpr length,isFieldSize_iff.mpr field,made]
  simp [RaceFacts.of,laps,cars,weatherSame,Attempt.when,problemOf,demand,Except.toOption]

theorem readRaceLine_sound {line : List Char} (clean : (readRaceLine line).2 = []) :
    ∃ name laps weather cars, RaceLine line name laps weather cars := by
  unfold readRaceLine at clean
  split at clean
  · rename_i name laps weather cars found
    simp only [List.append_eq_nil_iff,problemOf_eq_nil_iff,demand_eq_nil_iff,isRaceLength_iff,isFieldSize_iff] at clean
    obtain ⟨⟨⟨weather,named⟩,length⟩,field⟩ := clean
    exact ⟨name,_,weather,_,laps,_,cars,LineKind.read?_eq_some_iff.mp found,
      (term_eq_ok_iff weather_small).mp named,rfl,rfl,length,field⟩
  · cases clean

def CarFacts.of (number : Nat) (car : Car) : CarFacts := ⟨number,car.start.toNat,some (.ok car)⟩

theorem readCarLine_eq {number : Nat} {line digits paceWord riskWord : List Char} {place : Option (List Char)}
    (read : LineKind.car.read? line = some ([digits,paceWord,riskWord] ++ place.toList)) :
    readCarLine number line = carFrom number digits paceWord riskWord place := by
  unfold readCarLine
  rw [read]
  cases place <;> rfl

theorem readCarLine_complete {line : List Char} {start : Nat} {pace : PaceClass} {risk : RiskProfile}
    {target : Option Nat} (number : Nat) (reads : CarLine line start pace risk target) :
    ∃ car : Car, readCarLine number line = (some (.of number car),[]) ∧ car.start = start ∧ car.pace = pace ∧
      car.risk = risk ∧ car.target = target.map Int.ofNat := by
  obtain ⟨digits,paceWord,riskWord,place,fits,paceNamed,riskNamed,rfl,rfl,onGrid⟩ := reads
  refine ⟨⟨countValue digits,pace,risk,(place.map countValue).map Int.ofNat,by omega⟩,?_,rfl,rfl,rfl,rfl⟩
  rw [readCarLine_eq (LineKind.read?_eq_some_iff.mpr fits)]
  unfold carFrom
  dsimp only
  rw [(term_eq_ok_iff paceClass_small).mpr paceNamed,(term_eq_ok_iff riskProfile_small).mpr riskNamed]
  have grid : (1 : Int) ≤ countValue digits := by omega
  simp [CarFacts.of,Car.of,Attempt.when,problemOf,demand,onGrid,grid,Function.comp_def]

theorem carFrom_sound {number : Nat} {line digits paceWord riskWord : List Char} (place : Option (List Char))
    (read : LineKind.car.read? line = some ([digits,paceWord,riskWord] ++ place.toList))
    (clean : (carFrom number digits paceWord riskWord place).2 = []) :
    ∃ start pace risk target, CarLine line start pace risk target := by
  simp only [carFrom,List.append_eq_nil_iff,problemOf_eq_nil_iff,demand_eq_nil_iff,decide_eq_true_eq] at clean
  obtain ⟨⟨⟨pace,paceNamed⟩,⟨risk,riskNamed⟩⟩,onGrid⟩ := clean
  exact ⟨_,pace,risk,_,digits,paceWord,riskWord,place,LineKind.read?_eq_some_iff.mp read,
    (term_eq_ok_iff paceClass_small).mp paceNamed,(term_eq_ok_iff riskProfile_small).mp riskNamed,rfl,rfl,onGrid⟩

theorem readCarLine_sound {number : Nat} {line : List Char} (clean : (readCarLine number line).2 = []) :
    ∃ start pace risk target, CarLine line start pace risk target := by
  unfold readCarLine at clean
  split at clean
  · rename_i digits paceWord riskWord found
    exact carFrom_sound none found clean
  · rename_i digits paceWord riskWord place found
    exact carFrom_sound (some place) found clean
  · cases clean

theorem readAeroLine_complete {line : List Char} {aero : AeroDemand} (reads : AeroLine line aero) :
    readAeroLine line = (some aero,[]) := by
  obtain ⟨word,fits,named⟩ := reads
  unfold readAeroLine
  rw [LineKind.read?_eq_some_iff.mpr fits]
  dsimp only
  rw [(term_eq_ok_iff aeroDemand_small).mpr named]
  rfl

theorem readAeroLine_sound {line : List Char} (clean : (readAeroLine line).2 = []) : ∃ aero, AeroLine line aero := by
  unfold readAeroLine at clean
  split at clean
  · rename_i word found
    obtain ⟨aero,named⟩ := problemOf_eq_nil_iff.mp clean
    exact ⟨aero,word,LineKind.read?_eq_some_iff.mp found,(term_eq_ok_iff aeroDemand_small).mp named⟩
  · cases clean

theorem readOvertakingLine_complete {line : List Char} {difficulty : Difficulty} {chance : Float}
    (reads : OvertakingLine line difficulty chance) :
    readOvertakingLine line = ((some difficulty,some chance),[]) := by
  obtain ⟨word,numeral,fits,named,rfl,share⟩ := reads
  unfold readOvertakingLine
  rw [LineKind.read?_eq_some_iff.mpr fits]
  dsimp only
  rw [(term_eq_ok_iff difficulty_small).mpr named,share]
  rfl

theorem readOvertakingLine_sound {line : List Char} (clean : (readOvertakingLine line).2 = []) :
    ∃ difficulty chance, OvertakingLine line difficulty chance := by
  unfold readOvertakingLine at clean
  split at clean
  · rename_i word numeral found
    simp only [List.append_eq_nil_iff,problemOf_eq_nil_iff,demand_eq_nil_iff] at clean
    obtain ⟨⟨difficulty,named⟩,share⟩ := clean
    exact ⟨difficulty,_,word,numeral,LineKind.read?_eq_some_iff.mp found,
      (term_eq_ok_iff difficulty_small).mp named,rfl,share⟩
  · cases clean

theorem readStintLine_complete {line : List Char} {stint : Stint} (reads : StintLineOf line stint) :
    readStintLine line = ⟨true,some stint,[]⟩ := by
  obtain ⟨number,word,laps,fits,named,numberSame,lapsSame,length⟩ := reads
  unfold readStintLine
  rw [LineKind.read?_eq_some_iff.mpr fits]
  dsimp only
  rw [compoundTerm_eq_ok_iff.mpr named,isRaceLength_iff.mpr length,← numberSame,← lapsSame]
  rfl

theorem readStintLine_sound {line : List Char} (clean : (readStintLine line).problems = []) :
    ∃ stint, StintLineOf line stint := by
  unfold readStintLine at clean
  split at clean
  · rename_i number word laps found
    simp only [List.append_eq_nil_iff,problemOf_eq_nil_iff,demand_eq_nil_iff,isRaceLength_iff] at clean
    obtain ⟨⟨compound,named⟩,length⟩ := clean
    exact ⟨⟨countValue number,compound,countValue laps⟩,number,word,laps,LineKind.read?_eq_some_iff.mp found,
      compoundTerm_eq_ok_iff.mp named,rfl,rfl,length⟩
  · cases clean

theorem readTurnLine_eq_ok_iff {line : List Char} {turn : Turn} : readTurnLine line = .ok turn ↔ TurnLine line turn := by
  unfold readTurnLine TurnLine
  constructor
  · intro read
    split at read
    · rename_i number name tags note found
      cases read
      exact ⟨number,name,tags,note,LineKind.read?_eq_some_iff.mp found,rfl⟩
    · cases read
  · rintro ⟨number,name,tags,note,fits,rfl⟩
    rw [LineKind.read?_eq_some_iff.mpr fits]

theorem readWinnerStintLine_eq_ok_iff {line : List Char} {stint : WinnerStint} :
    readWinnerStintLine line = .ok stint ↔ WinnerStintLine line stint := by
  unfold readWinnerStintLine WinnerStintLine
  constructor
  · intro read
    split at read
    · rename_i word laps found
      split at read
      · rename_i compound known
        cases read
        have same : upperAscii word = spelled compound := by
          have := congrArg String.toList (Vocabulary.ofSpelling?_eq_some_iff.mp known)
          simpa [spelled] using this.symm
        exact ⟨word,laps,LineKind.read?_eq_some_iff.mp found,compound_names_iff.mp same,rfl⟩
      · cases read
    · cases read
  · rintro ⟨word,laps,fits,named,same⟩
    have spelling : Vocabulary.spelling stint.compound = String.ofList (upperAscii word) := by
      rw [compound_names_iff.mpr named]
      simp [spelled]
    rw [LineKind.read?_eq_some_iff.mpr fits]
    dsimp only
    rw [Vocabulary.ofSpelling?_eq_some_iff.mpr spelling,← same]

end PitWall.Sheet
