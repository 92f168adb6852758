import IngressMeter.Text.Blank

/-!
What the flags of a pattern change, and how they are written. With the flag for spaced patterns
blanks and comments stand for nothing wherever a reader goes on to the next character.
-/

namespace IngressMeter.Pattern

structure Flags where
  ignoreCase : Bool := false
  multiLine : Bool := false
  dotAll : Bool := false
  swapGreed : Bool := false
  unicode : Bool := true
  returnEndsLine : Bool := false
  /-- Blanks and comments in the pattern stand for nothing. -/
  spaced : Bool := false

def skipIgnoredFrom (inComment : Bool) : List Char → List Char
  | [] => []
  | c :: rest =>
    if inComment then skipIgnoredFrom (c != '\n') rest
    else if isBlank c then skipIgnoredFrom false rest
    else if c = '#' then skipIgnoredFrom true rest
    else c :: rest

def skipIgnored (flags : Flags) (text : List Char) : List Char :=
  if flags.spaced then skipIgnoredFrom false text else text

def advance (flags : Flags) (text : List Char) : List Char := skipIgnored flags text.tail

def Flags.set? (flags : Flags) (mark : Char) (value : Bool) : Option Flags :=
  match mark with
  | 'i' => some { flags with ignoreCase := value }
  | 'm' => some { flags with multiLine := value }
  | 's' => some { flags with dotAll := value }
  | 'U' => some { flags with swapGreed := value }
  | 'u' => some { flags with unicode := value }
  | 'R' => some { flags with returnEndsLine := value }
  | 'x' => some { flags with spaced := value }
  | _ => none

def readFlags (flags : Flags) (seen : List Char) : List Char → Option (Flags × List Char × List Char)
  | [] => none
  | c :: rest =>
    if c = ':' || c = ')' then
      if seen.head? = some '-' then none else some (flags, seen, c :: rest)
    else if seen.contains c then none
    else if c = '-' then readFlags flags ('-' :: seen) rest
    else
      match flags.set? c (!seen.contains '-') with
      | some flags => readFlags flags (c :: seen) rest
      | none => none

end IngressMeter.Pattern
