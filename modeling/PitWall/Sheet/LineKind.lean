import PitWall.Sheet.Pattern

namespace PitWall.Sheet

-- The nine lines that carry data. A car's target has two spellings and may be left out.
inductive LineKind where
  | race | car | aero | overtaking | strategy | stint | turn | winnerYear | winnerStint
deriving DecidableEq

def literal (text : String) : Piece := .literal text.toList
def labelled (text : String) (kind : Field) : Pattern := [.gap, literal text, .field kind]
def quotedField (text : String) : Pattern :=
  [.gap, .literal (text.toList ++ [quotationMark]), .field .quotation, .literal [quotationMark]]

def carPattern : Pattern :=
  literal "CAR" :: labelled "START=P" .count ++ labelled "PACE=" .word ++ labelled "RISK=" .word

namespace LineKind

def targetPattern : Pattern := carPattern ++ labelled "TARGET=P" .count
def noTargetPattern : Pattern := carPattern ++ [.gap, literal "TARGET=NONE"]

def patterns : LineKind → List Pattern
  | .race => [literal "RACE" :: .gap :: .field .token :: labelled "LAPS=" .count ++
      labelled "WEATHER=" .word ++ labelled "FIELD=" .count]
  | .car => [carPattern, targetPattern, noTargetPattern]
  | .aero => [literal "TRACK" :: labelled "AERO=" .word]
  | .overtaking => [literal "TRACK" :: labelled "OVERTAKING=" .word ++ labelled "CHANCE=" .numeral]
  | .strategy => [literal "STRATEGY" :: quotedField ""]
  | .stint => [literal "STINT" :: .gap :: .field .count :: labelled "TIRE=" .word ++ labelled "LAPS=" .count]
  | .turn => [literal "TURN" :: .gap :: .field .count :: quotedField "NAME=" ++
      labelled "RISK=" .token ++ quotedField "NOTE="]
  | .winnerYear => [literal "YEAR=" :: .field .count :: quotedField "LABEL="]
  | .winnerStint => [literal "TIRE=" :: .field .word :: labelled "LAPS=" .count]

def read? (kind : LineKind) (line : List Char) : Option (List (List Char)) :=
  kind.patterns.findSome? (·.read? line)

def title : LineKind → String
  | .race => "RACE line format"
  | .car => "CAR line format"
  | .aero => "TRACK AERO line format"
  | .overtaking => "TRACK OVERTAKING line format"
  | .strategy => "STRATEGY start line"
  | .stint => "STINT line"
  | .turn => "TURN line"
  | .winnerYear => "PREVIOUS_WINNER year line"
  | .winnerStint => "PREVIOUS_WINNER stint line"

end LineKind
end PitWall.Sheet
