import PitWall.Text.Printable

namespace PitWall.Text

def hexDigit (n : Nat) : Char := "0123456789abcdef".toList.getD n '0'

def hex : Nat → Nat → List Char
  | 0, _ => []
  | width + 1, n => hex width (n / 16) ++ [hexDigit (n % 16)]

-- A code point as it stands within quotes; what is no printable character is spelled out.
def escaped (quote : Char) (point : Nat) : List Char :=
  if point = quote.toNat || point = '\\'.toNat then ['\\',Char.ofNat point]
  else if point = '\t'.toNat then ['\\','t']
  else if point = '\n'.toNat then ['\\','n']
  else if point = '\r'.toNat then ['\\','r']
  else if point.isValidChar && isPrintable (Char.ofNat point) then [Char.ofNat point]
  else if point < 0x100 then '\\' :: 'x' :: hex 2 point
  else if point < 0x10000 then '\\' :: 'u' :: hex 4 point
  else '\\' :: 'U' :: hex 8 point

def singleQuote : Char := '\x27'
def doubleQuote : Char := '\x22'

-- Single quotes, unless the text holds a single quote and no double one.
def quoteFor (points : List Nat) : Char :=
  if points.contains singleQuote.toNat && !points.contains doubleQuote.toNat then doubleQuote else singleQuote

def quotedPoints (points : List Nat) : List Char :=
  let quote := quoteFor points
  quote :: points.flatMap (escaped quote) ++ [quote]

def quoted (s : List Char) : List Char := quotedPoints (s.map Char.toNat)

end PitWall.Text
