import IngressMeter.Rules.Basic

/-!
The rules in force, by the key of their target. An object has rules under one key only: storing them
under another key drops the old ones.
-/

namespace IngressMeter

structure RulesStore where
  entries : List (String × TargetRules) := []

inductive UpsertOutcome where
  | inserted
  | updated
  | unchanged
  deriving DecidableEq, Repr

namespace RulesStore

def get? (store : RulesStore) (key : String) : Option TargetRules := store.entries.lookup key

def erase (store : RulesStore) (key : String) : RulesStore :=
  ⟨store.entries.filter (·.1 ≠ key)⟩

def insert (store : RulesStore) (rules : TargetRules) : RulesStore :=
  ⟨(rules.key, rules) :: (store.erase rules.key).entries⟩

def dropMoved (store : RulesStore) (rules : TargetRules) : RulesStore :=
  ⟨store.entries.filter fun (key, stored) => stored.owner ≠ rules.owner || key = rules.key⟩

/-- Stores rules under their key. Rules that treat requests as those already there leave them as
they are, so that the time of the last change stays. -/
def upsert (store : RulesStore) (rules : TargetRules) : RulesStore × UpsertOutcome :=
  let kept := store.dropMoved rules
  match kept.get? rules.key with
  | none => (kept.insert rules, .inserted)
  | some stored =>
    if stored.sameRules rules then (kept, .unchanged) else (kept.insert rules, .updated)

def remove (store : RulesStore) (key : String) : RulesStore × Option TargetRules :=
  (store.erase key, store.get? key)

def removeOwned (store : RulesStore) (key owner : String) : RulesStore × Option TargetRules :=
  match store.get? key with
  | some stored => if stored.owner = owner then store.remove key else (store, none)
  | none => (store, none)

def retainOwners (store : RulesStore) (owners : List String) : RulesStore × List String :=
  let (kept, dropped) := store.entries.partition fun (_, stored) => owners.contains stored.owner
  (⟨kept⟩, dropped.map (·.1))

def keys (store : RulesStore) : List String := store.entries.map (·.1)

def toList (store : RulesStore) : List TargetRules := store.entries.map (·.2)

def size (store : RulesStore) : Nat := store.entries.length

end IngressMeter.RulesStore
