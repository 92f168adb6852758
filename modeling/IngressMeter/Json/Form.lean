import IngressMeter.Json.Decode
import IngressMeter.Time.Timestamp

/-!
Values of a known form. A form accepts a value and gives the way it is written again: members that
are not part of the form are dropped, and so are members that are null. A member may be repeated;
all of its values must have their form, and the last one counts.
-/

namespace IngressMeter

abbrev Form := Json → Option Json

namespace Json

def toInt32? (json : Json) : Option Int :=
  json.toInt64?.filter (fitsSigned 32)

def toTexts? : Json → Option (List String) := toList? toText?

def toTimestamp? (json : Json) : Option Timestamp := json.toText?.bind Timestamp.ofText?

def ofOptions (members : List (String × Option Json)) : Json :=
  ofMembers (members.filterMap fun (name, value) => value.map (name, ·))

def toMembers? : Json → Option (List (String × Json))
  | .object members => members.mapM fun (name, value) => name.map (·, value)
  | _ => none

/-- The last value of a member, null being none, if all of its values can be decoded. -/
def lastOf? {α : Type} (members : List (String × Json)) (name : String) (decode : Json → Option α) :
    Option (Option α) :=
  ((members.filter fun member => member.1 = name).mapM fun member =>
    Fields.nullable? decode member.2).map fun values => values.getLast?.join

end Json

namespace Form

open Json

def text : Form := fun json => json.toText?.map Json.text

def flag : Form := fun json => json.toBool?.map Json.bool

def int32 : Form := fun json => json.toInt32?.map Json.ofInt

def int64 : Form := fun json => json.toInt64?.map Json.ofInt

def time : Form := fun json => json.toTimestamp?.map fun time => .text time.toText

def anything : Form := some

def listOf (form : Form) : Form
  | .array items => (items.mapM form).map .array
  | _ => none

def only (expected : String) : Form := fun json =>
  if json.toText? = some expected then some json else none

def textMap : Form := fun json => do
  let members ← json.toMembers?
  let texts ← members.mapM fun (name, value) => (name, ·) <$> value.toText?
  let last := texts.reverse.foldr
    (fun entry kept => entry :: kept.filter fun other => other.1 ≠ entry.1) []
  return .ofMembers ((last.mergeSort fun a b => !(b.1 < a.1)).map fun (name, text) =>
    (name, .text text))

structure Member where
  name : String
  form : Form
  missing : Option Json := none

def record (form : List Member) : Form := fun json => do
  let members ← json.toMembers?
  let values ← form.mapM fun member => do
    let value ← lastOf? members member.name member.form
    return (member.name, value.or member.missing)
  return .ofOptions values

def isKind (version kind : String) (members : List (String × Json)) : Bool :=
  members.all fun (name, value) =>
    (name ≠ "apiVersion" || value.toText? = some version) &&
      (name ≠ "kind" || value.toText? = some kind)

def member? (json : Json) (name : String) : Option Json := Json.member? name json

end Form

end IngressMeter
