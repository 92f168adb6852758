import IngressMeter.Json.Decode
import IngressMeter.Json.Reader
import IngressMeter.Text.Utf8

/-!
How values are told and shown as JSON where single parts of the service are run from a script: with
a cluster, files and a clock that the script lays down. The service itself uses none of this. A
member that is missing or of another kind than expected counts as its default.
-/

namespace IngressMeter.View

def member (request : Json) (name : String) : Json := (request.member? name).getD .null

def has (request : Json) (name : String) : Bool := (request.member? name).isSome

def textOr (request : Json) (name default : String) : String :=
  ((member request name).toText?).getD default

def textOf (request : Json) (name : String) : String := textOr request name ""

def items (request : Json) (name : String) : List Json :=
  match member request name with
  | .array items => items
  | _ => []

def texts (request : Json) (name : String) : List String := (items request name).filterMap Json.toText?

def natOr (request : Json) (name : String) (default : Nat) : Nat :=
  ((member request name).toUnsigned? (powerOfTwo 64)).getD default

def intOr (request : Json) (name : String) (default : Int) : Int :=
  ((member request name).toInt64?).getD default

def boolOr (request : Json) (name : String) (default : Bool) : Bool :=
  ((member request name).toBool?).getD default

def floatOr (request : Json) (name : String) (default : Float) : Float :=
  ((member request name).toFloat?).getD default

def answer (members : List (String × Json)) : Json := Json.ofMembers members

def failure (kind : String) (more : List (String × Json)) : Json :=
  answer (("error", .text kind) :: more)

def float (x : Float) : Json := .text (Decimal.render x)

def optionalText : Option String → Json
  | some text => .text text
  | none => .null

def linesJson (lines : List String) : Json := .ofTexts lines

def sortTexts (texts : List String) : List String := texts.mergeSort fun a b => !(b < a)

def hexBytes : List Char → List UInt8
  | a :: b :: rest =>
    UInt8.ofNat ((hexValue? a).getD 0 * 16 + (hexValue? b).getD 0) :: hexBytes rest
  | _ => []

def bytesOf? : Json → Option (List UInt8)
  | .string (some text) => some (Utf8.encode text)
  | json => ((json.member? "hex").bind Json.toText?).map fun text => hexBytes text.toList

end IngressMeter.View
