namespace PitWall.Text

def inRanges (ranges : List (Nat × Nat)) (scalar : Nat) : Bool :=
  ranges.any fun range => range.1 ≤ scalar && scalar ≤ range.2

-- Unicode white space together with the four ASCII separators U+001C to U+001F: what trimming removes.
def blankRanges : List (Nat × Nat) :=
  [(0x09,0x0D), (0x1C,0x20), (0x85,0x85), (0xA0,0xA0), (0x1680,0x1680), (0x2000,0x200A),
   (0x2028,0x2029), (0x202F,0x202F), (0x205F,0x205F), (0x3000,0x3000)]

def isBlank (c : Char) : Bool := inRanges blankRanges c.toNat

def trimStart (s : List Char) : List Char := s.dropWhile isBlank
def trimEnd (s : List Char) : List Char := (s.reverse.dropWhile isBlank).reverse
def trim (s : List Char) : List Char := trimEnd (trimStart s)

-- One piece more than there are separators; no separator means one piece.
def cut (separator : Char) : List Char → List (List Char)
  | [] => [[]]
  | c :: rest =>
    if c = separator then [] :: cut separator rest
    else match cut separator rest with
      | [] => [[c]]
      | piece :: pieces => (c :: piece) :: pieces

def joinWith (separator : List Char) : List (List Char) → List Char
  | [] => []
  | [piece] => piece
  | piece :: next :: rest => piece ++ separator ++ joinWith separator (next :: rest)

end PitWall.Text
