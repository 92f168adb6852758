import IngressMeter.AccessLog.PodTag

/-!
Lines as they arrive from a log source. A failure of the transport arrives as a line too, one
without text, and ends nothing.
-/

namespace IngressMeter

structure LogLine where
  text : String
  source : Option String := none
  error : Option String := none
  deriving DecidableEq, Repr

namespace LogLine

def ofText (text : String) : LogLine := { text }

def ofPod (pod line : String) : LogLine := { text := PodTag.add pod line, source := some pod }

def failed (source : Option String) (error : String) : LogLine :=
  { text := "", source, error := some error }

def isError (line : LogLine) : Bool := line.error.isSome

end IngressMeter.LogLine
