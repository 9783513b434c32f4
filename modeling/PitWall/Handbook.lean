namespace PitWall.Handbook

def textOf (lines : List String) : String := String.join (lines.map (· ++ "\n"))

def reference : String := textOf
  ["RACE STRATEGY DSL",
   "",
   "Sections appear in this order. Keywords are upper case; enum values are",
   "lower case except tyre compounds. Strings containing spaces are quoted.",
   "Blocks close with a line containing only END.",
   "",
   "1. RACE (required)",
   "   RACE <TRACK> LAPS=<1-100> WEATHER=<cool|normal|hot|wet> FIELD=<2-30>",
   "",
   "2. CAR (required)",
   "   CAR START=P<n> PACE=<front_runner|midfield|backmarker>",
   "       RISK=<conservative|balanced|aggressive> [TARGET=P<n>|TARGET=NONE]",
   "",
   "3. TRACK (required, two lines)",
   "   TRACK AERO=<downforce_reliant|drag_reliant|balanced>",
   "   TRACK OVERTAKING=<easy|medium|hard> CHANCE=<0.0-1.0>",
   "",
   "4. STRATEGY (required, at least one STINT)",
   "   STRATEGY \"<label>\"",
   "     STINT <n> TIRE=<SOFT|MEDIUM|HARD|INTERMEDIATE|WET> LAPS=<n>",
   "   END",
   "",
   "5. CRITICAL_TURNS (optional)",
   "   CRITICAL_TURNS",
   "     TURN <n> NAME=\"<name>\" RISK=<tag,tag> NOTE=\"<note>\"",
   "   END",
   "   Risk tags: braking, overtaking, overtaking_zone, tire_stress,",
   "   kerb_damage, track_limits, high_speed, low_speed",
   "",
   "6. PREVIOUS_WINNER (optional)",
   "   PREVIOUS_WINNER",
   "     YEAR=<n> LABEL=\"<label>\"",
   "     STINTS:",
   "       TIRE=<compound> LAPS=<n>",
   "   END",
   "",
   "Rules",
   "- Stint laps should add up to the race distance.",
   "- The starting position must lie within the field.",
   "- Wet races should run INTERMEDIATE or WET tyres for at least one stint."]

def monza : String := textOf
  ["RACE MONZA LAPS=53 WEATHER=normal FIELD=20",
   "CAR START=P12 PACE=midfield RISK=balanced TARGET=P8",
   "TRACK AERO=drag_reliant",
   "TRACK OVERTAKING=medium CHANCE=0.55",
   "",
   "STRATEGY \"Safe Points Two-Stop\"",
   "  STINT 1 TIRE=MEDIUM LAPS=20",
   "  STINT 2 TIRE=HARD LAPS=18",
   "  STINT 3 TIRE=MEDIUM LAPS=15",
   "END",
   "",
   "CRITICAL_TURNS",
   "  TURN 1 NAME=\"Prima Variante\" RISK=braking,overtaking NOTE=\"Heavy braking zone into tight chicane\"",
   "  TURN 4 NAME=\"Curva Grande\" RISK=high_speed,tire_stress NOTE=\"Flat-out right-hander\"",
   "  TURN 8 NAME=\"Parabolica\" RISK=tire_stress,track_limits NOTE=\"Key corner for exit speed onto main straight\"",
   "END",
   "",
   "PREVIOUS_WINNER",
   "  YEAR=2023 LABEL=\"Two-stop soft-medium-medium\"",
   "  STINTS:",
   "    TIRE=SOFT LAPS=15",
   "    TIRE=MEDIUM LAPS=20",
   "    TIRE=MEDIUM LAPS=18",
   "END"]

def monaco : String := textOf
  ["RACE MONACO LAPS=78 WEATHER=cool FIELD=20",
   "CAR START=P6 PACE=front_runner RISK=conservative TARGET=P3",
   "TRACK AERO=downforce_reliant",
   "TRACK OVERTAKING=hard CHANCE=0.15",
   "",
   "STRATEGY \"Track Position One-Stop\"",
   "  STINT 1 TIRE=MEDIUM LAPS=35",
   "  STINT 2 TIRE=HARD LAPS=43",
   "END",
   "",
   "CRITICAL_TURNS",
   "  TURN 1 NAME=\"Sainte Devote\" RISK=braking,overtaking_zone NOTE=\"Only real overtaking spot\"",
   "  TURN 5 NAME=\"Casino Square\" RISK=kerb_damage NOTE=\"Bumpy surface, suspension stress\"",
   "  TURN 10 NAME=\"Swimming Pool\" RISK=high_speed,track_limits NOTE=\"Fast chicane sequence, wall proximity\"",
   "  TURN 16 NAME=\"Rascasse\" RISK=low_speed,tire_stress NOTE=\"Tight hairpin, front tire wear\"",
   "END",
   "",
   "PREVIOUS_WINNER",
   "  YEAR=2023 LABEL=\"One-stop medium-hard\"",
   "  STINTS:",
   "    TIRE=MEDIUM LAPS=32",
   "    TIRE=HARD LAPS=46",
   "END"]

def examples : List (String × String) := [("monaco",monaco), ("monza",monza)]
def named? (name : String) : Option String := examples.lookup name

end PitWall.Handbook
