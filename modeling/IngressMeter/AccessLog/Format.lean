import IngressMeter.AccessLog.Common
import IngressMeter.AccessLog.Structured

/-!
The two formats an access log can have.
-/

namespace IngressMeter

inductive LogFormat where
  | common
  | json
  deriving DecidableEq, Repr

namespace LogFormat

def parse : LogFormat → String → Except AccessLog.ParseError AccessRecord
  | common => AccessLog.Common.parse
  | json => AccessLog.Structured.parse

def label : LogFormat → String
  | common => "common"
  | json => "json"

end IngressMeter.LogFormat
