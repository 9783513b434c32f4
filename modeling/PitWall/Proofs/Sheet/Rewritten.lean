import PitWall.Proofs.Decimal.Plain
import PitWall.Proofs.Sheet.Rows

namespace PitWall.Sheet
open Text Decimal

theorem written_count {n : Nat} (small : n < 10 ^ 6) : Field.count.Written (intText n) := by
  rw [intText_natCast]
  exact (holds_digitsOf.mpr small).written (by decide)

theorem written_word {α : Type} [Vocabulary α] [Vocabulary.Lawful α] (member : α) :
    Field.word.Written (spelled member) := (Vocabulary.Lawful.word member).written (by decide)

theorem countValue_intText (n : Nat) : countValue (intText n) = n := by
  rw [intText_natCast,countValue_digitsOf]

theorem written_upper {name : List Char} (token : Field.token.Holds name) : Field.token.Written (upper name) := by
  obtain ⟨nonempty,dark⟩ := token
  refine Field.Holds.written ⟨?_,?_⟩ (by decide)
  · exact fun empty => nonempty ((upper_recased name).nil_iff.mp empty)
  · intro c inside
    cases gap : isGap c with
    | false => rfl
    | true =>
      have kept := (upper_recased name).mem_of_blank_or_comma c inside (.inl (gap_blank gap))
      exact gap.symm.trans (dark c kept)

-- Each line, written out of what some line says: it is legible and says the same again. Only a track's
-- name is not what it was, for it has become capitals.
theorem raceLine_again {line name : List Char} {laps cars : Nat} {race : Race}
    (reads : RaceLine line name laps race.weather cars) (trackName : race.trackName = String.ofList (upper name))
    (lapsSame : race.laps = laps) (carsSame : race.fieldSize = cars) :
    Legible (raceLine race) ∧ RaceLine (raceLine race) (upper name) laps race.weather cars := by
  obtain ⟨lapDigits,word,carDigits,fits,_,_,_,length,field⟩ := reads
  have token : Field.token.Holds name := by
    cases fits.holds rfl with
    | cons token rest => exact token
  have each : List.Forall₂ Field.Written [.token,.count,.word,.count]
      [upper name,intText laps,spelled race.weather,intText cars] :=
    .cons (written_upper token) (.cons (written_count (by omega)) (.cons (written_word _)
      (.cons (written_count (by omega)) .nil)))
  obtain ⟨legible,again⟩ := LineKind.race.write_again List.mem_cons_self each
  have same : raceLine race = LineKind.race.write [upper name,intText laps,spelled race.weather,intText cars] := by
    unfold raceLine
    rw [trackName,String.toList_ofList,upper_upper,lapsSame,carsSame]
  rw [same]
  exact ⟨legible,_,_,_,again,names_spelled _,countValue_intText laps,countValue_intText cars,length,field⟩

theorem car_counts {line digits paceWord riskWord : List Char} {place : Option (List Char)}
    (fits : LineKind.car.Fits line ([digits,paceWord,riskWord] ++ place.toList)) :
    Field.count.Holds digits ∧ ∀ run ∈ place, Field.count.Holds run := by
  obtain ⟨pattern,member,fits⟩ := fits
  have holds := fits.holds
  have fields : pattern.fields = [.count,.word,.word] ∨ pattern.fields = [.count,.word,.word,.count] := by
    simp only [LineKind.patterns,List.mem_cons,List.not_mem_nil,or_false] at member
    rcases member with rfl | rfl | rfl
    · exact .inl rfl
    · exact .inr rfl
    · exact .inl rfl
  rcases fields with fields | fields <;> rw [fields] at holds <;> cases place <;> simp_all

theorem carLine_again {line : List Char} {start : Nat} {target : Option Nat} {car : Car}
    (reads : CarLine line start car.pace car.risk target) (startSame : car.start = start)
    (targetSame : car.target = target.map Int.ofNat) :
    Legible (carLine car) ∧ CarLine (carLine car) start car.pace car.risk target := by
  obtain ⟨digits,paceWord,riskWord,place,fits,_,_,rfl,rfl,onGrid⟩ := reads
  obtain ⟨slot,placed⟩ := car_counts fits
  have slotWritten := written_count (countValue_of_holds slot)
  unfold carLine
  rw [targetSame,startSame]
  cases place with
  | none =>
    have each : List.Forall₂ Field.Written [.count,.word,.word]
        [intText (countValue digits),spelled car.pace,spelled car.risk] :=
      .cons slotWritten (.cons (written_word _) (.cons (written_word _) .nil))
    have member : LineKind.noTargetPattern ∈ LineKind.car.patterns := by decide
    obtain ⟨legible,again⟩ := LineKind.car.write_again member each
    exact ⟨legible,_,_,_,none,again,names_spelled _,names_spelled _,countValue_intText _,rfl,onGrid⟩
  | some run =>
    have each : List.Forall₂ Field.Written [.count,.word,.word,.count]
        [intText (countValue digits),spelled car.pace,spelled car.risk,intText (countValue run)] :=
      .cons slotWritten (.cons (written_word _) (.cons (written_word _)
        (.cons (written_count (countValue_of_holds (placed run rfl))) .nil)))
    have member : LineKind.targetPattern ∈ LineKind.car.patterns := by decide
    obtain ⟨legible,again⟩ := LineKind.car.write_again member each
    refine ⟨legible,_,_,_,some _,again,names_spelled _,names_spelled _,countValue_intText _,?_,onGrid⟩
    rw [Option.map_some,countValue_intText,Option.map_some]

theorem aeroLine_again (aero : AeroDemand) : Legible (aeroLine aero) ∧ AeroLine (aeroLine aero) aero := by
  have each : List.Forall₂ Field.Written [.word] [spelled aero] := .cons (written_word _) .nil
  obtain ⟨legible,again⟩ := LineKind.aero.write_again List.mem_cons_self each
  exact ⟨legible,_,again,names_spelled _⟩

theorem overtakingLine_again {line : List Char} {difficulty : Difficulty} {chance : Float}
    (reads : OvertakingLine line difficulty chance) :
    Legible (overtakingLine difficulty chance) ∧ OvertakingLine (overtakingLine difficulty chance) difficulty chance := by
  obtain ⟨word,numeral,_,_,rfl,share⟩ := reads
  obtain ⟨same,holds⟩ := chanceText_chanceValue share
  have each : List.Forall₂ Field.Written [.word,.numeral] [spelled difficulty,chanceText (chanceValue numeral)] :=
    .cons (written_word _) (.cons (holds.written (by decide)) .nil)
  obtain ⟨legible,again⟩ := LineKind.overtaking.write_again List.mem_cons_self each
  exact ⟨legible,_,_,again,names_spelled _,same,share⟩

theorem strategyLine_again {line label : List Char} (reads : StrategyLine line label) (whole : '\n' ∉ line) :
    Legible (LineKind.strategy.write [label]) ∧ StrategyLine (LineKind.strategy.write [label]) label := by
  have held : Field.quotation.Holds label := by
    cases LineKind.Fits.holds reads rfl with
    | cons quotation rest => exact quotation
  have each : List.Forall₂ Field.Written [.quotation] [label] :=
    .cons ⟨held,LineKind.Fits.whole reads whole label List.mem_cons_self⟩ .nil
  exact LineKind.strategy.write_again List.mem_cons_self each

theorem stintLine_again {line : List Char} {stint : Stint} (reads : StintLineOf line stint) :
    Legible (stintLine stint) ∧ StintLineOf (stintLine stint) stint := by
  obtain ⟨number,word,laps,fits,_,numberSame,lapsSame,length⟩ := reads
  have small : countValue number < 10 ^ 6 := by
    cases fits.holds rfl with
    | cons count rest => exact countValue_of_holds count
  have each : List.Forall₂ Field.Written [.count,.word,.count]
      [intText stint.number,spelled stint.compound,intText stint.laps] := by
    rw [numberSame,lapsSame]
    exact .cons (written_count small) (.cons (written_word _) (.cons (written_count (by omega)) .nil))
  obtain ⟨legible,again⟩ := LineKind.stint.write_again List.mem_cons_self each
  refine ⟨legible,_,_,_,again,names_spelled _,?_,?_,?_⟩
  · rw [numberSame,countValue_intText]
  · rw [lapsSame,countValue_intText]
  · rwa [lapsSame,countValue_intText]

theorem winnerStintLine_again {line : List Char} {stint : WinnerStint} (reads : WinnerStintLine line stint) :
    Legible (winnerStintLine stint) ∧ WinnerStintLine (winnerStintLine stint) stint := by
  obtain ⟨word,laps,fits,_,lapsSame⟩ := reads
  have small : countValue laps < 10 ^ 6 := by
    cases fits.holds rfl with
    | cons compound rest =>
      cases rest with
      | cons count rest => exact countValue_of_holds count
  have each : List.Forall₂ Field.Written [.word,.count] [spelled stint.compound,intText stint.laps] := by
    rw [lapsSame]
    exact .cons (written_word _) (.cons (written_count small) .nil)
  obtain ⟨legible,again⟩ := LineKind.winnerStint.write_again List.mem_cons_self each
  exact ⟨legible,_,_,again,names_spelled _,by rw [lapsSame,countValue_intText]⟩

theorem yearLine_again {line : List Char} {year : Int} {label : String} (reads : YearLine line year label)
    (whole : '\n' ∉ line) :
    Legible (LineKind.winnerYear.write [intText year,label.toList]) ∧
      YearLine (LineKind.winnerYear.write [intText year,label.toList]) year label := by
  obtain ⟨digits,words,fits,rfl,rfl⟩ := reads
  rw [String.toList_ofList]
  have each : List.Forall₂ Field.Written [.count,.quotation] [intText (countValue digits),words] := by
    cases fits.holds rfl with
    | cons count rest =>
      cases rest with
      | cons quotation rest =>
        exact .cons (written_count (countValue_of_holds count)) (.cons ⟨quotation,fits.whole whole words (by simp)⟩ .nil)
  obtain ⟨legible,again⟩ := LineKind.winnerYear.write_again List.mem_cons_self each
  exact ⟨legible,_,_,again,by rw [countValue_intText],rfl⟩

def tagPieces (run : List Char) : List (List Char) := (cut ',' run).map fun tag => lower (trim tag)

theorem riskTags_toList (run : List Char) : (riskTags run).map String.toList = tagPieces run := by
  simp [riskTags,tagPieces,Function.comp_def]

theorem riskTags_eq_iff {run : List Char} {tags : List String} :
    riskTags run = tags ↔ tagPieces run = tags.map String.toList := by
  rw [← riskTags_toList,List.map_inj_right fun _ _ => String.toList_injective]

structure Tag (piece : List Char) : Prop where
  trimmed : Trimmed piece
  small : lower piece = piece
  whole : ',' ∉ piece
  dark : ∀ c ∈ piece, isGap c = false

theorem tag_of_mem {run piece : List Char} (dark : ∀ c ∈ run, isGap c = false) (member : piece ∈ tagPieces run) :
    Tag piece := by
  obtain ⟨part,inRun,rfl⟩ := List.mem_map.mp member
  have recased := lower_recased (trim part)
  have origin (c : Char) (inside : c ∈ lower (trim part)) (taken : isBlank c = true ∨ c = ',') : c ∈ run ∧ c ≠ ',' :=
    mem_cut inRun c (mem_trim (recased.mem_of_blank_or_comma c inside taken))
  refine ⟨recased.trimmed (trimmed_trim part),lower_lower _,?_,?_⟩
  · exact fun comma => (origin _ comma (.inr rfl)).2 rfl
  · intro c inside
    cases gap : isGap c with
    | false => rfl
    | true => exact gap.symm.trans (dark c (origin c inside (.inl (gap_blank gap))).1)

theorem tagPieces_again {run : List Char} (dark : ∀ c ∈ run, isGap c = false) :
    tagPieces (joinWith [','] (tagPieces run)) = tagPieces run := by
  have nonempty : tagPieces run ≠ [] := fun empty => cut_ne_nil ',' run (List.map_eq_nil_iff.mp empty)
  rw [tagPieces,cut_joinWith nonempty fun piece member => (tag_of_mem dark member).whole]
  refine (List.map_congr_left fun piece member => ?_).trans (List.map_id _)
  have tag := tag_of_mem dark member
  rw [trim_eq_self tag.trimmed,tag.small,id]

theorem tagPieces_dark {run : List Char} (dark : ∀ c ∈ run, isGap c = false) :
    ∀ c ∈ joinWith [','] (tagPieces run), isGap c = false := by
  intro c inside
  rcases mem_joinWith inside with rfl | ⟨piece,member,inside⟩
  · decide
  · exact (tag_of_mem dark member).dark c inside

def turnOpening : Pattern :=
  literal "TURN" :: .gap :: .field .count :: quotedField "NAME=" ++ [.gap,literal "RISK="]

def turnPattern : Pattern := turnOpening ++ .field .token :: quotedField "NOTE="

theorem turn_patterns : LineKind.turn.patterns = [turnPattern] := rfl

theorem turnLine_eq (number : Nat) (name run note : List Char) :
    turnLine ⟨number,String.ofList name,riskTags run,String.ofList note⟩ =
      turnPattern.write [intText number,name,joinWith [','] (tagPieces run),note] := by
  unfold turnLine
  simp only [String.toList_ofList,riskTags_toList]
  rfl

theorem turn_fields {line number name run note : List Char} (fits : LineKind.turn.Fits line [number,name,run,note]) :
    Field.count.Holds number ∧ Field.quotation.Holds name ∧ Field.token.Holds run ∧ Field.quotation.Holds note := by
  have holds : List.Forall₂ Field.Holds [.count,.quotation,.token,.quotation] [number,name,run,note] :=
    fits.holds turn_patterns
  simpa only [List.forall₂_cons,List.forall₂_nil_left_iff,and_true] using holds

theorem turnLine_legible {line : List Char} {turn : Turn} (reads : TurnLine line turn) (whole : '\n' ∉ line) :
    Legible (turnLine turn) := by
  obtain ⟨number,name,run,note,fits,rfl⟩ := reads
  have kept := fits.whole whole
  obtain ⟨count,_,token,_⟩ := turn_fields fits
  have countHolds := written_count (countValue_of_holds count)
  rw [turnLine_eq]
  have member : turnPattern ∈ LineKind.turn.patterns := List.mem_cons_self
  refine LineKind.legible_write member ?_ ?_
  · exact .cons (fun _ => countHolds.holds) (.cons (fun ends => by cases ends)
      (.cons (fun ends => by cases ends) (.cons (fun ends => by cases ends) .nil)))
  · intro capture member
    simp only [List.mem_cons,List.not_mem_nil,or_false] at member
    rcases member with rfl | rfl | rfl | rfl
    · exact countHolds.whole
    · exact kept _ (by simp)
    · intro inside
      have dark := tagPieces_dark token.2 _ inside
      revert dark; decide
    · exact kept _ (by simp)

theorem turnLine_again {line : List Char} {turn : Turn} (reads : TurnLine line turn) (tagged : turn.tags ≠ [""]) :
    TurnLine (turnLine turn) turn := by
  obtain ⟨number,name,run,note,fits,rfl⟩ := reads
  obtain ⟨count,nameHolds,⟨someTag,dark⟩,noteHolds⟩ := turn_fields fits
  have nonempty : tagPieces run ≠ [] := fun empty => cut_ne_nil ',' run (List.map_eq_nil_iff.mp empty)
  have token : Field.token.Holds (joinWith [','] (tagPieces run)) := by
    refine ⟨fun empty => tagged ?_,tagPieces_dark dark⟩
    exact riskTags_eq_iff.mpr ((joinWith_eq_nil_iff nonempty).mp empty)
  have each : List.Forall₂ Field.Holds turnPattern.fields
      [intText (countValue number),name,joinWith [','] (tagPieces run),note] :=
    .cons (written_count (countValue_of_holds count)).holds (.cons nameHolds (.cons token (.cons noteHolds .nil)))
  have same : riskTags (joinWith [','] (tagPieces run)) = riskTags run :=
    riskTags_eq_iff.mpr ((tagPieces_again dark).trans (riskTags_toList run).symm)
  rw [turnLine_eq]
  exact ⟨_,_,_,_,⟨turnPattern,List.mem_cons_self,Pattern.fits_write each⟩,by rw [countValue_intText,same]⟩

-- Tags that were nothing but blanks leave nothing behind RISK=, and no token is found there.
theorem turnLine_unread {line : List Char} {turn : Turn} (reads : TurnLine line turn) (untagged : turn.tags = [""]) :
    LineKind.turn.read? (turnLine turn) = none := by
  obtain ⟨number,name,run,note,fits,rfl⟩ := reads
  obtain ⟨count,nameHolds,_,_⟩ := turn_fields fits
  have each : List.Forall₂ Field.Holds turnOpening.fields [intText (countValue number),name] :=
    .cons (written_count (countValue_of_holds count)).holds (.cons nameHolds .nil)
  have pieces : tagPieces run = [[]] := riskTags_eq_iff.mp untagged
  have definite : turnOpening.Definite := Pattern.definite_of_apart (by decide)
  have stops (rest : List Char) : turnOpening.Stops rest := by
    intro last final c _
    cases final
    exact id
  have line : turnLine ⟨countValue number,String.ofList name,riskTags run,String.ofList note⟩ =
      turnOpening.write [intText (countValue number),name] ++
        Pattern.write (.field .token :: quotedField "NOTE=") [[],note] := by
    have both : [intText (countValue number),name].length = turnOpening.fields.length := rfl
    rw [turnLine_eq,pieces]
    exact Pattern.write_append turnOpening (.field .token :: quotedField "NOTE=") [[],note] both
  have found := Pattern.read?_append turnOpening (.field .token :: quotedField "NOTE=") (turnLine
    ⟨countValue number,String.ofList name,riskTags run,String.ofList note⟩)
  rw [line,Pattern.split?_complete definite (stops _) (Pattern.fits_write each)] at found
  unfold LineKind.read?
  rw [turn_patterns,line]
  exact List.findSome?_singleton.trans found

end PitWall.Sheet
