import CocoonSit.Model.Entities
import CocoonSit.Model.Python

/-!
# What a runtime round works on

`RuntimeEvent` and `MetaDecision` of `runtime/types.py`: the event a round is run for, and what the
model's analysis asks the host to change.  A decision is model output: texts and ids in it may be
anything.
-/

namespace CocoonSit

def EventType.text : EventType → String
  | .chat => "chat"
  | .edit => "edit"
  | .retry => "retry"
  | .wakeup => "wakeup"
  | .pull => "pull"
  | .merge => "merge"

structure RuntimeEvent where
  eventType : EventType
  target : Target
  actionId : RowId
  payload : JsonDict := .empty

def JsonValue.truthy : JsonValue → Bool
  | .null => false
  | .bool b => b
  | .num n => n ≠ 0
  | .str s => s ≠ ""
  | .arr items => !items.isEmpty
  | .obj fields => !fields.isEmpty

/-- `d.setdefault(k, v)`. -/
def JsonDict.setDefault (d : JsonDict) (k : String) (v : JsonValue) : JsonDict :=
  if (d k).isSome then d else d.set k v

/-- `if v: d.setdefault(k, v)`. -/
def JsonDict.setDefaultIf (d : JsonDict) (k : String) (v : Option JsonValue) : JsonDict :=
  match v.filter JsonValue.truthy with
  | some v => d.setDefault k v
  | none => d

inductive TagAction where
  | add | remove
deriving DecidableEq, Repr

/-- `TagOperation`: the tag is named by its index in the prompt's catalog. -/
structure TagOperation where
  action : TagAction
  tagIndex : ℤ
deriving DecidableEq, Repr

/-- A wakeup the model asks for.  `runAt` is what `_resolve_run_at` makes of the hint, `none` when
it raises. -/
structure WakeupHint where
  reason : Option String
  runAt : Option Timestamp
  payloadJson : JsonDict := .empty

/-- `MemoryOperation.op`, without `none`, which the normalisation drops. -/
inductive MemoryOpKind where
  | candidate | upsert | update | archive
deriving DecidableEq, Repr

structure MemoryOperation where
  op : MemoryOpKind
  content : String := ""
  summary : Option String := none
  memoryType : String := "preference"
  memoryPool : Option String := none
  tags : List String := []
  importance : ℤ := 3
  confidence : ℤ := 3
  reason : Option String := none
  validUntil : Option String := none
  targetMemoryId : Option String := none
  supersedesMemoryIds : List String := []

/-- `MetaDecision`: the parts that change session state, wakeups and memories. -/
structure MetaDecision where
  relationDelta : ℤ := 0
  personaPatch : JsonDict := .empty
  tagOps : List TagOperation := []
  nextWakeupHints : List WakeupHint := []
  cancelWakeupTaskIds : List RowId := []
  usedMemoryIds : List String := []
  /-- `session_update["persona_patch"]`, when it is an object. -/
  sessionPersonaPatch : Option JsonDict := none
  memoryOps : List MemoryOperation := []

end CocoonSit
