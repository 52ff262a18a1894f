import CocoonSit.Messages.Listing
import CocoonSit.Tags.Policy

/-!
# The message window

What a round sees of its conversation: the last messages of the list, without those that belong to
other tags.  When the window of a cocoon is full, the scheduler asks for the earlier part of it to
be compacted, and names the first message to keep.
-/

namespace CocoonSit

open Table

/-- The message has no tags, or an active one, as `tags_json` or as a `MessageTag` has it. -/
def keptByTags (db : Db) (activeTags : List RowId) (m : Message) : Bool :=
  m.tagsJson.isEmpty ||
    (db.messageTags.any fun t => t.messageId = m.id && activeTags.contains t.tagId) ||
    m.tagsJson.any fun t => activeTags.contains t

/-- The end of `list_visible_messages`: what is left, unless nothing is. -/
def filterByTags (db : Db) (activeTags : List RowId) (visible : List Message) : List Message :=
  if activeTags.isEmpty then visible
  else
    let filtered := visible.filter (keptByTags db activeTags)
    if filtered.isEmpty then visible else filtered

def listVisibleMessages (db : Db) (maxContextMessages : ℤ) (activeTags : List RowId)
    (target : Target) (contextStartMessageId : Option RowId) : List Message :=
  match target with
  | .cocoon cocoonId =>
    filterByTags db activeTags
      (sliceLast (lineageMessages db cocoonId contextStartMessageId) maxContextMessages)
  | .chatGroup _ =>
    let latest := ((orderBy (fun m : Message => OrderDual.toDual m.createdAt)
      (db.messages.filter fun m => m.target = target)).take maxContextMessages.toNat).reverse
    filterByTags db activeTags (latest.filter fun m => tagsVisibleInTarget db target m.tagsJson)

def cocoonWindow (db : Db) (cocoon : Cocoon) (activeTags : List RowId) : List Message :=
  listVisibleMessages db cocoon.maxContextMessages activeTags (.cocoon cocoon.id)
    cocoon.contextStartMessageId

/-! ## What to compact -/

/-- `math.ceil(max_context_messages * COMPACTION_COMPRESS_RATIO)`, the ratio being 0.8. -/
def compressTarget (maxContextMessages : ℤ) : ℤ := -((-4 * maxContextMessages) / 5)

/-- How many of a list's messages are compacted, the last one never. -/
def compressCount (maxContextMessages : ℤ) (messages : List Message) : ℕ :=
  min (messages.length - 1) (max 1 (compressTarget maxContextMessages)).toNat

def resolveCompactionRetainFromMessageId (maxContextMessages : ℤ) (visible : List Message) :
    Option RowId :=
  let count := compressCount maxContextMessages visible
  if visible.length < 2 then none
  else if count = 0 ∨ visible.length ≤ count then none
  else visible[count]?.map Message.id

/-- What `schedule` compacts a cocoon's window up to, when the window is full and compaction is
on. -/
def scheduledRetainFrom (cocoon : Cocoon) (visible : List Message) : Option RowId :=
  if cocoon.maxContextMessages ≤ visible.length ∧ cocoon.autoCompactionEnabled = true ∧
      visible ≠ [] then
    (resolveCompactionRetainFromMessageId cocoon.maxContextMessages visible).filter (· ≠ "")
  else none

variable {messages : List Message}

lemma compressCount_lt (maxContextMessages : ℤ) (h : 2 ≤ messages.length) :
    0 < compressCount maxContextMessages messages ∧
      compressCount maxContextMessages messages < messages.length := by
  unfold compressCount
  omega

end CocoonSit
