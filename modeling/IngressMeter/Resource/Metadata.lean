import IngressMeter.Json.Form
import IngressMeter.Resource.Codec

/-!
The metadata that all objects of the cluster share. Every field may be missing or null, and those
that do not matter here must still have the right form.
-/

namespace IngressMeter

namespace ObjectMeta

def emptyText : Option Json := some (.text "")

def ownerReference : Form :=
  Form.record [
    { name := "apiVersion", form := Form.text, missing := emptyText },
    { name := "blockOwnerDeletion", form := Form.flag },
    { name := "controller", form := Form.flag },
    { name := "kind", form := Form.text, missing := emptyText },
    { name := "name", form := Form.text, missing := emptyText },
    { name := "uid", form := Form.text, missing := emptyText }]

def managedFields : Form :=
  Form.record [
    { name := "apiVersion", form := Form.text },
    { name := "fieldsType", form := Form.text },
    { name := "fieldsV1", form := Form.anything },
    { name := "manager", form := Form.text },
    { name := "operation", form := Form.text },
    { name := "subresource", form := Form.text },
    { name := "time", form := Form.time }]

def form : Form :=
  Form.record [
    { name := "annotations", form := Form.textMap },
    { name := "creationTimestamp", form := Form.time },
    { name := "deletionGracePeriodSeconds", form := Form.int64 },
    { name := "deletionTimestamp", form := Form.time },
    { name := "finalizers", form := Form.listOf Form.text },
    { name := "generateName", form := Form.text },
    { name := "generation", form := Form.int64 },
    { name := "labels", form := Form.textMap },
    { name := "managedFields", form := Form.listOf managedFields },
    { name := "name", form := Form.text },
    { name := "namespace", form := Form.text },
    { name := "ownerReferences", form := Form.listOf ownerReference },
    { name := "resourceVersion", form := Form.text },
    { name := "selfLink", form := Form.text },
    { name := "uid", form := Form.text }]

def ofJson? (json : Json) : Option ObjectMeta := do
  let written ← form json
  return {
    name := (Form.member? written "name").bind Json.toText?
    namespaceName := (Form.member? written "namespace").bind Json.toText?
    generation := (Form.member? written "generation").bind Json.toInt64?
    resourceVersion := (Form.member? written "resourceVersion").bind Json.toText? }

end ObjectMeta

open Json in
def UrlPerformance.ofJson? (json : Json) : Option UrlPerformance := do
  let fields ← Fields.of? ["metadata", "spec", "status"] json
  return {
    metadata := ← fields.required? "metadata" ObjectMeta.ofJson?
    spec := ← fields.required? "spec" PerformanceSpec.ofJson?
    status := ← fields.optional? "status" PerformanceStatus.ofJson? }

end IngressMeter
