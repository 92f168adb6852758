import IngressMeter.Cluster.Answer
import IngressMeter.Resource.Metadata

/-!
Watching the objects of the cluster: they are listed first, and after that each change is told. When
the cluster does not know any more what was told, they are listed again.
-/

namespace IngressMeter

inductive WatchItem where
  | changed (object : UrlPerformance)
  | deleted (object : UrlPerformance)
  | bookmark
  | error (error : ApiError)
  | malformed

inductive WatchEvent where
  | listBegins
  | listed (object : UrlPerformance)
  | listEnds
  | changed (object : UrlPerformance)
  | deleted (object : UrlPerformance)
  | failed

namespace WatchItem

open Json

def ofObject? (make : UrlPerformance → WatchItem) (json : Json) : Option WatchItem :=
  (UrlPerformance.ofJson? json).map make

def bookmark? (json : Json) : Option WatchItem := do
  let fields ← Fields.ofObject? ["apiVersion", "kind", "metadata"] json
  let _ ← fields.required? "apiVersion" toText?
  let _ ← fields.required? "kind" toText?
  let _ ← fields.required? "metadata" fun metadata => do
    let fields ← Fields.of? ["resourceVersion", "annotations"] metadata
    let _ ← fields.withDefault? "annotations" .null Form.textMap
    fields.required? "resourceVersion" toText?
  return bookmark

def ofJson (json : Json) : WatchItem :=
  let object := (json.member? "object").getD .null
  let read? := match (json.member? "type").bind toText? with
    | some "ADDED" => ofObject? changed object
    | some "MODIFIED" => ofObject? changed object
    | some "DELETED" => ofObject? deleted object
    | some "BOOKMARK" => bookmark? object
    | some "ERROR" => (ApiError.ofJson? object).map error
    | _ => none
  read?.getD malformed

end WatchItem

def goneCode : Nat := 410

structure Watcher where
  mustList : Bool := true
  deriving DecidableEq, Repr

namespace Watcher

def hasVersion (object : UrlPerformance) : Bool :=
  !(object.metadata.resourceVersion.getD "").isEmpty

/-- An object that does not say which of its versions it is cannot be followed. -/
def tell (object : UrlPerformance) (event : WatchEvent) : Watcher × List WatchEvent :=
  if hasVersion object then (⟨false⟩, [event]) else (⟨true⟩, [.failed])

def onItem : WatchItem → Watcher × List WatchEvent
  | .changed object => tell object (.changed object)
  | .deleted object => tell object (.deleted object)
  | .bookmark => (⟨false⟩, [])
  | .error error => (⟨error.code = goneCode⟩, [.failed])
  | .malformed => (⟨false⟩, [.failed])

def onList : Option (List UrlPerformance) → Watcher × List WatchEvent
  | some objects => (⟨false⟩, .listBegins :: objects.map .listed ++ [.listEnds])
  | none => (⟨true⟩, [.listBegins, .failed])

def hasFailed (events : List WatchEvent) : Bool :=
  events.any fun
    | .failed => true
    | _ => false

end Watcher

/-- The pauses after failures, in milliseconds: each is twice as long as the one before, up to a
longest one. After a long time without failures they begin anew. -/
structure WatchPauses where
  count : Nat := 0
  lastFailure : Option Nat := none
  deriving DecidableEq, Repr

namespace WatchPauses

def first : Nat := 800

def longest : Nat := 30000

def forgottenAfter : Nat := 120000

def next (pauses : WatchPauses) (now : Nat) : WatchPauses × Nat :=
  let isForgotten := pauses.lastFailure.any fun time => forgottenAfter < now - time
  let count := if isForgotten then 0 else pauses.count
  (⟨count + 1, some now⟩, min (first * powerOfTwo count) longest)

end WatchPauses

end IngressMeter
