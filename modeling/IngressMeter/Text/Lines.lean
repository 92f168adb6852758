/-!
A stream of characters as lines. A line ends with a line feed, which a carriage return may precede;
what stands behind the last line feed is a line, too, unless it is empty.
-/

namespace IngressMeter

def endLine (reversed : List Char) : List Char :=
  match reversed with
  | '\r' :: rest => rest.reverse
  | _ => reversed.reverse

def linesFrom (reversed : List Char) : List Char → List (List Char)
  | [] => if reversed.isEmpty then [] else [reversed.reverse]
  | '\n' :: rest => endLine reversed :: linesFrom [] rest
  | c :: rest => linesFrom (c :: reversed) rest

def splitLines (text : String) : List String := (linesFrom [] text.toList).map String.ofList

end IngressMeter
